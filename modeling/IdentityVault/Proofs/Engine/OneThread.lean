import IdentityVault.Proofs.Engine.CallbackFront
import IdentityVault.Proofs.Engine.LockAccounts

/-! One thread at the services of a host, which it calls as the host and as its engine. Whatever it
did, its contexts are in a valid table and all levels of the lock are its own: those of its guards
and those of its lock calls. -/
namespace IdentityVault

namespace HostServices

/-- The lock functions that the host hands to its engine. -/
abbrev lockTable : LockTable HostServices := .ofProvider provider

/-- The lock belongs to a thread that took `depth` levels by lock calls and `guards` by guards. -/
def HeldFor (s : HostServices) (guards depth : Nat) : Prop := s.lock = .of () (depth + guards) depth

/-- The services with the lock in the hands of such a thread. -/
def withLevels (s : HostServices) (guards depth : Nat) : HostServices :=
  { s with lock := .of () (depth + guards) depth }

variable {s : HostServices} {w : Traced HostServices} {guards depth : Nat}

theorem heldFor_withLevels (s : HostServices) (guards depth : Nat) :
    (s.withLevels guards depth).HeldFor guards depth := rfl

theorem HeldFor.withLevels_self (h : s.HeldFor guards depth) : s.withLevels guards depth = s := by
  unfold withLevels
  rw [← h]

theorem HeldFor.depth_eq (h : s.HeldFor guards depth) : s.lock.depth = depth := by
  rw [h]
  rfl

theorem HeldFor.isHeldBy_iff (h : s.HeldFor guards depth) :
    s.lock.isHeldBy () ↔ 0 < depth + guards := by
  rw [h, ReentrantLock.isHeldBy_of, decide_eq_true_iff]
  simp only [true_and]
  omega

theorem HeldFor.lockCall (h : s.HeldFor guards depth) :
    s.lockCall = s.withLevels guards (depth + 1) := by
  unfold HostServices.lockCall
  rw [h, ReentrantLock.lock?_of_self, Nat.add_right_comm depth guards 1]
  rfl

theorem HeldFor.enter (h : s.HeldFor guards depth) :
    s.enter = s.withLevels (guards + 1) depth := by
  unfold HostServices.enter
  rw [h, ReentrantLock.enter?_of_self]
  rfl

theorem HeldFor.leave (h : s.HeldFor (guards + 1) depth) :
    s.leave = s.withLevels guards depth := by
  unfold HostServices.leave
  rw [h, ← Nat.add_assoc, ReentrantLock.leave_of_succ]
  rfl

/-- An unlock call gives back a level of a lock call. Without one it does nothing but log. -/
theorem HeldFor.run_unlockEngine (h : w.state.HeldFor guards depth) :
    ∃ log, unlockEngine.run w = ((), ⟨w.state.withLevels guards (depth - 1), log⟩) := by
  unfold unlockEngine
  simp only [StateT.run_bind, Callback.run_state, pure_bind]
  cases depth with
  | zero =>
    -- The lock is free, or is held by guards alone.
    obtain ⟨e, hrefused⟩ : ∃ e, w.state.lock.unlock () = .error e := by
      rw [h]
      by_cases hguards : guards = 0
      · exact ⟨_, ReentrantLock.unlock_of_other (by omega)⟩
      · exact ⟨_, ReentrantLock.unlock_of_zero (by omega)⟩
    rw [hrefused]
    refine ⟨w.log ++ [⟨.error, .hmac, "engine unlock ignored: " ++ e.message, []⟩], ?_⟩
    rw [Nat.zero_sub, h.withLevels_self]
    rfl
  | succ depth =>
    have hunlock : w.state.lock.unlock () = .ok (.of () (depth + guards) depth) := by
      rw [h, Nat.add_right_comm, ReentrantLock.unlock_of_succ]
    rw [hunlock]
    exact ⟨w.log, rfl⟩

theorem HeldFor.run_lock (h : w.state.HeldFor guards depth) :
    (lockTable.lock .valid).run w =
      ((), ⟨w.state.withLevels guards (depth + 1), w.log⟩) := by
  rw [← h.lockCall]
  rfl

theorem HeldFor.run_unlock (h : w.state.HeldFor guards depth) :
    ∃ log, (lockTable.unlock .valid).run w =
      ((), ⟨w.state.withLevels guards (depth - 1), log⟩) := by
  obtain ⟨log, hrun⟩ := h.run_unlockEngine
  refine ⟨log, ?_⟩
  have hshield : (lockTable.unlock .valid).run w = unlockEngine.run w := rfl
  rw [hshield, hrun]

end HostServices

/-- A call of the keyed hashes leaves the lock alone. -/
theorem HmacCall.lock_perform (c : HmacCall) (w : Traced HostServices) :
    (c.perform.run w).2.state.lock = w.state.lock := by
  cases c with
  | init key =>
    change ((HostServices.init key).run w).2.state.lock = _
    cases hinsert : w.state.hmacs.insert (.running key []) with
    | error e => rw [HostServices.run_init_error hinsert]
    | ok taken =>
      rw [HostServices.run_init_ok hinsert]
      rfl
  | update h data =>
    change ((HostServices.update h data).run w).2.state.lock = _
    by_cases hruns : HmacState.IsRunning (w.state.hmacs.get? h)
    · obtain ⟨key, fed, hget⟩ := hruns
      rw [HostServices.run_update_of_running hget]
      rfl
    · obtain ⟨e, hrun⟩ := HostServices.run_update_of_not_running hruns data
      rw [hrun]
  | finish h =>
    change ((HostServices.finish h).run w).2.state.lock = _
    by_cases hruns : HmacState.IsRunning (w.state.hmacs.get? h)
    · obtain ⟨key, fed, hget⟩ := hruns
      rw [HostServices.run_finish_of_running hget]
      rfl
    · obtain ⟨e, hrun⟩ := HostServices.run_finish_of_not_running hruns
      rw [hrun]
  | cleanup handle =>
    cases handle with
    | none => rfl
    | some h =>
      change ((HostServices.cleanup (some h)).run w).2.state.lock = _
      obtain ⟨e, hrun⟩ := HostServices.run_cleanup_some w h
      rw [hrun]
      rfl

namespace HostServices

theorem Answers.state_or_direct {β : Type} {f : Callback HostServices (Returned β)}
    {nulls right : Prop} {wrong : Int} {direct : β → Traced HostServices → Prop}
    (h : Answers f w nulls right wrong direct) :
    (f.run w).2.state = w.state ∨ ∃ output, direct output (f.run w).2 := by
  by_cases hcode : (f.run w).1.code = 0
  · obtain ⟨output, w', hrun, hdirect⟩ := h.done hcode
    rw [hrun]
    exact .inr ⟨output, hdirect⟩
  · exact .inl (h.state_eq hcode)

/-- A call through the functions is a direct call, or leaves everything but the log. -/
theorem state_or_direct (c : PointerCall) (hvalid : w.state.hmacs.Valid) :
    (c.perform.run w).2.state = w.state ∨
      ∃ direct : HmacCall, (c.perform.run w).2 = (direct.perform.run w).2 := by
  have hfronts := fronts_of_valid hvalid
  cases c with
  | init output key user =>
    refine (hfronts.init output key user).state_or_direct.imp_right ?_
    rintro ⟨raw, content, h, -, hrun, -⟩
    exact ⟨.init content, (congrArg Prod.snd hrun).symm⟩
  | update context data user =>
    refine (hfronts.update context data user).state_or_direct.imp_right ?_
    rintro ⟨-, h, content, -, -, hrun⟩
    exact ⟨.update h content, (congrArg Prod.snd hrun).symm⟩
  | finish context output user =>
    refine (hfronts.finish context output user).state_or_direct.imp_right ?_
    rintro ⟨digest, h, -, hrun⟩
    exact ⟨.finish h, (congrArg Prod.snd hrun).symm⟩
  | cleanup context user =>
    cases user with
    | null => exact .inl (hfronts.cleanup_null context)
    | valid =>
      refine .inr ⟨.cleanup (Handle.ofRaw? context), ?_⟩
      exact congrArg Prod.snd (hfronts.cleanup_valid context)

end HostServices

/-- What a thread does at the services: a direct call, a call through the functions of its engine
with any pointers and words, or a guard taken or dropped. -/
inductive HostDeed where
  | direct (c : HmacCall)
  | through (c : PointerCall)
  | lock (user : Pointer)
  | unlock (user : Pointer)
  | hold
  | drop

/-- The services as the only thread leaves them, with the number of its guards. -/
structure HostThread where
  host : Traced HostServices
  guards : Nat

namespace HostThread

open HostServices

inductive Turn : HostThread → HostDeed → HostThread → Prop where
  | direct (t : HostThread) (c : HmacCall) :
      Turn t (.direct c) { t with host := (c.perform.run t.host).2 }
  | through (t : HostThread) (c : PointerCall) :
      Turn t (.through c) { t with host := (c.perform.run t.host).2 }
  | lock (t : HostThread) (user : Pointer) :
      Turn t (.lock user) { t with host := ((lockTable.lock user).run t.host).2 }
  | unlock (t : HostThread) (user : Pointer) :
      Turn t (.unlock user) { t with host := ((lockTable.unlock user).run t.host).2 }
  | hold (host : Traced HostServices) (guards : Nat) :
      Turn ⟨host, guards⟩ .hold ⟨{ host with state := host.state.enter }, guards + 1⟩
  | drop (host : Traced HostServices) (guards : Nat) :
      Turn ⟨host, guards + 1⟩ .drop ⟨{ host with state := host.state.leave }, guards⟩

/-- What a thread can do at new services. -/
abbrev Run (log : List LogEvent) : List HostDeed → HostThread → Prop :=
  History Turn ⟨⟨{}, log⟩, 0⟩

/-- The contexts are in order and the lock is the thread's. -/
structure Sound (t : HostThread) : Prop where
  valid : t.host.state.hmacs.Valid
  held : t.host.state.HeldFor t.guards t.host.state.lock.depth

variable {t t' : HostThread} {d : HostDeed} {past : List HostDeed} {log : List LogEvent}

namespace Sound

theorem of_held {depth : Nat} (hvalid : t.host.state.hmacs.Valid)
    (hheld : t.host.state.HeldFor t.guards depth) : Sound t where
  valid := hvalid
  held := by
    rw [hheld.depth_eq]
    exact hheld

theorem of_direct (h : Sound t) (c : HmacCall) :
    Sound { t with host := (c.perform.run t.host).2 } where
  valid := (c.turn t.host).valid h.valid
  held := by
    have hlock := c.lock_perform t.host
    simp only [HeldFor, hlock]
    exact h.held

theorem of_state {host : Traced HostServices} (h : Sound t) (hstate : host.state = t.host.state) :
    Sound { t with host := host } where
  valid := by
    rw [hstate]
    exact h.valid
  held := by
    simp only [hstate]
    exact h.held

theorem turn (h : Sound t) (hturn : Turn t d t') : Sound t' := by
  cases hturn with
  | direct _ c => exact h.of_direct c
  | through _ c =>
    obtain hstate | ⟨direct, hdirect⟩ := state_or_direct c h.valid
    · exact h.of_state hstate
    · rw [hdirect]
      exact h.of_direct direct
  | lock _ user =>
    cases user with
    | null => exact h.of_state rfl
    | valid =>
      rw [h.held.run_lock]
      exact of_held h.valid rfl
  | unlock _ user =>
    cases user with
    | null => exact h.of_state rfl
    | valid =>
      obtain ⟨log, hrun⟩ := h.held.run_unlock
      rw [hrun]
      exact of_held h.valid rfl
  | hold host guards =>
    rw [h.held.enter]
    exact of_held h.valid rfl
  | drop host guards =>
    rw [h.held.leave]
    exact of_held h.valid rfl

end Sound

theorem Run.sound (h : Run log past t) : Sound t := by
  induction h with
  | start => exact ⟨SlotTable.valid_empty, rfl⟩
  | next _ taken ih => exact ih.turn taken

end HostThread

end IdentityVault
