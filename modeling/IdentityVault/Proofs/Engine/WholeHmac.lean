import IdentityVault.Engine.Registration
import IdentityVault.Proofs.Engine.OneThread

/-! A whole keyed hash, which an engine drives through the functions of its host. The digest is that
of the joined chunks wherever the thread stands, and nothing is left behind. -/
namespace IdentityVault

namespace StandIn

variable {σ α : Type}

section Runs

variable {table : HmacTable σ} {key digest : Bytes} {chunks : List Bytes} {context : UInt64}
  {w w₁ w₂ w₃ w₄ : Traced σ}

end Runs

end StandIn

namespace HostServices

/-- A thread holds the lock by guards and lock calls, among so many contexts that are such. -/
structure Holding (s : HostServices) (guards depth live : Nat)
    (contexts : Handle → Option HmacState) : Prop where
  held : s.HeldFor guards depth
  valid : s.hmacs.Valid
  live_eq : s.liveHmacs = live
  get?_eq : s.hmacs.get? = contexts

variable {s : HostServices} {w : Traced HostServices} {guards depth live : Nat}
  {contexts : Handle → Option HmacState} {h : Handle} {value : HmacState}

namespace Holding

theorem withLevels {guards' depth' : Nat} (hs : s.Holding guards depth live contexts) :
    (s.withLevels guards' depth').Holding guards' depth' live contexts where
  held := s.heldFor_withLevels guards' depth'
  valid := hs.valid
  live_eq := hs.live_eq
  get?_eq := hs.get?_eq

theorem insert {hmacs : SlotTable HmacState} (hs : s.Holding guards depth live contexts)
    (hinsert : s.hmacs.insert value = .ok (h, hmacs)) :
    (s.setHmacs hmacs).Holding guards depth (live + 1)
      (Function.update contexts h (some value)) where
  held := hs.held
  valid := hs.valid.insert hinsert
  live_eq := by
    rw [← hs.live_eq]
    exact SlotTable.size_insert hs.valid hinsert
  get?_eq := by
    rw [← hs.get?_eq]
    exact SlotTable.get?_insert hs.valid hinsert

theorem update (hs : s.Holding guards depth live contexts) (hcontext : contexts h = some value)
    (f : HmacState → HmacState) :
    (s.setHmacs (s.hmacs.update h f)).Holding guards depth live
      (Function.update contexts h (some (f value))) where
  held := hs.held
  valid := hs.valid.update h f
  live_eq := (SlotTable.size_update _ h f).trans hs.live_eq
  get?_eq := by
    rw [← Option.map_some, ← hcontext, ← hs.get?_eq]
    exact SlotTable.get?_update _ h f

theorem remove (hs : s.Holding guards depth (live + 1) contexts)
    (hcontext : contexts h = some value) :
    (s.setHmacs (s.hmacs.remove h).2).Holding guards depth live
      (Function.update contexts h none) where
  held := hs.held
  valid := hs.valid.remove h
  live_eq := by
    have hget : s.hmacs.get? h = some value := by rw [hs.get?_eq, hcontext]
    have hlive : s.hmacs.size = live + 1 := hs.live_eq
    change (s.hmacs.remove h).2.size = live
    rw [SlotTable.size_remove hget, hlive, Nat.add_sub_cancel]
  get?_eq := by
    rw [← hs.get?_eq]
    exact SlotTable.get?_remove _ h

end Holding

/-- The chunks that are fed to a running context are joined to its data. -/
theorem run_feed {key fed : Bytes} {context : UInt64} (hcontext : Handle.ofRaw? context = some h)
    (hw : w.state.Holding guards depth live contexts)
    (hruns : contexts h = some (.running key fed)) (chunks : List Bytes) :
    ∃ w', (StandIn.feed hmacTable context chunks).run w = (.ok (), w') ∧
      w'.state.Holding guards depth live
        (Function.update contexts h (some (.running key (fed ++ chunks.flatten)))) := by
  induction chunks generalizing w fed contexts with
  | nil =>
    refine ⟨w, rfl, ?_⟩
    rw [List.flatten_nil, List.append_nil, ← hruns, Function.update_eq_self]
    exact hw
  | cons chunk rest ih =>
    have hget : w.state.hmacs.get? h = some (.running key fed) := by rw [hw.get?_eq, hruns]
    have hfed := hw.update hruns fun _ => .running key (fed ++ chunk)
    have hupdate : (hmacTable.update context (.bytes chunk) .valid).run w = (⟨0, some ()⟩,
        ⟨w.state.setHmacs (w.state.hmacs.update h fun _ => .running key (fed ++ chunk)),
          w.log⟩) := by
      simp only [HmacTable.ofProvider, hcontext, Buffer.content?]
      exact Callback.run_settle_returned
        (Answers.run_outcome (run_update_of_running hget chunk)) id
    obtain ⟨w', hrest, hw'⟩ := ih (w := ⟨_, w.log⟩) hfed (Function.update_self ..)
    refine ⟨w', ?_, ?_⟩
    · simp only [StandIn.feed, StateT.run_bind, hupdate]
      exact hrest
    · rw [Function.update_idem, List.append_assoc] at hw'
      exact hw'

/-- An engine that has the functions of this host. -/
structure Joined (e : StandIn HostServices) : Prop where
  hmacTable_eq : e.hmacTable = some hmacTable
  lockTable_eq : e.lockTable = some lockTable

/-- Any engine that lets itself be registered has the functions after it. -/
theorem joined_of_register {e₀ e : StandIn HostServices}
    (hregister : StandIn.interface.register e₀ = .ok e) : Joined e := by
  by_cases hhmac : e₀.refuses = some .hmac
  · simp [EngineInterface.register, StandIn.interface, StandIn.setHmacTable, hhmac] at hregister
  · by_cases hlocking : e₀.refuses = some .locking
    · simp [EngineInterface.register, StandIn.interface, StandIn.setHmacTable,
        StandIn.setLockTable, hlocking] at hregister
    · simp only [EngineInterface.register, StandIn.interface, StandIn.setHmacTable,
        StandIn.setLockTable, if_neg hhmac, if_neg hlocking, Except.ok.injEq] at hregister
      subst hregister
      exact ⟨rfl, rfl⟩

namespace Joined

variable {α : Type} {e : StandIn HostServices}

theorem lock_eq (he : Joined e) : e.lock = (do lockTable.lock .valid; return .ok ()) := by
  unfold StandIn.lock
  rw [he.lockTable_eq]

theorem unlock_eq (he : Joined e) : e.unlock = (do lockTable.unlock .valid; return .ok ()) := by
  unfold StandIn.unlock
  rw [he.lockTable_eq]

theorem run_lock (he : Joined e) (hw : w.state.Holding guards depth live contexts) :
    ∃ w', e.lock.run w = (.ok (), w') ∧
      w'.state.Holding guards (depth + 1) live contexts := by
  have hlock := hw.held.run_lock
  refine ⟨⟨w.state.withLevels guards (depth + 1), w.log⟩, ?_, hw.withLevels⟩
  change _ = pure _ at hlock ⊢
  simp [he.lock_eq, hlock]

theorem run_unlock (he : Joined e) (hw : w.state.Holding guards (depth + 1) live contexts) :
    ∃ w', e.unlock.run w = (.ok (), w') ∧ w'.state.Holding guards depth live contexts := by
  obtain ⟨log, hunlock⟩ := hw.held.run_unlock
  refine ⟨⟨w.state.withLevels guards depth, log⟩, ?_, hw.withLevels⟩
  change _ = pure _ at hunlock ⊢
  simp [he.unlock_eq, hunlock]

end Joined

end HostServices

end IdentityVault
