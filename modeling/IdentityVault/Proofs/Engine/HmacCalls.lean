import IdentityVault.Engine.HostServices
import IdentityVault.Proofs.Engine.Slots

/-! What each call of the keyed hashes does to the table of contexts, whatever the lock and the log
are. -/
namespace IdentityVault

namespace Callback

variable {σ : Type} (w : Traced σ)

@[simp] theorem run_state : (state : Callback σ σ).run w = pure (w.state, w) := rfl

@[simp] theorem run_setState (s : σ) : (setState s).run w = pure ((), { w with state := s }) := rfl

@[simp] theorem run_record (e : LogEvent) :
    (record e).run w = pure ((), { w with log := w.log ++ [e] }) := rfl

end Callback

inductive HmacCall where
  | init (key : Bytes)
  | update (h : Handle) (data : Bytes)
  | finish (h : Handle)
  | cleanup (handle : Option Handle)
  deriving DecidableEq

inductive HmacReply where
  | started (r : Except CallbackError Handle)
  | fed (r : Except CallbackError Unit)
  | signed (r : Except CallbackError Bytes)
  | cleaned

abbrev HmacDeed := HmacCall × HmacReply

def HmacCall.perform : HmacCall → Callback HostServices HmacReply
  | .init key => return .started (← HostServices.init key)
  | .update h data => return .fed (← HostServices.update h data)
  | .finish h => return .signed (← HostServices.finish h)
  | .cleanup handle => do
    HostServices.cleanup handle
    return .cleaned

def HmacState.IsRunning (s : Option HmacState) : Prop := ∃ key data, s = some (.running key data)

/-- What a call can do to the contexts, and its answer. -/
inductive HmacTurn (t : SlotTable HmacState) : HmacDeed → SlotTable HmacState → Prop where
  | started {key : Bytes} {h : Handle} {t' : SlotTable HmacState}
      (inserted : t.insert (.running key []) = .ok (h, t')) :
      HmacTurn t (.init key, .started (.ok h)) t'
  | full {key : Bytes} {e : SlotTableError} (refused : t.insert (.running key []) = .error e) :
      HmacTurn t (.init key, .started (.error (.ofSlotTable e))) t
  | fed {h : Handle} {key earlier : Bytes} (data : Bytes)
      (runs : t.get? h = some (.running key earlier)) :
      HmacTurn t (.update h data, .fed (.ok ()))
        (t.update h fun _ => .running key (earlier ++ data))
  | unfed {h : Handle} (data : Bytes) (stands : ¬HmacState.IsRunning (t.get? h)) :
      HmacTurn t (.update h data, .fed (.error .computation)) t
  | signed {h : Handle} {key data : Bytes} (runs : t.get? h = some (.running key data)) :
      HmacTurn t (.finish h, .signed (.ok (hmac sha256 key data))) (t.update h fun _ => .finished)
  | unsigned {h : Handle} (stands : ¬HmacState.IsRunning (t.get? h)) :
      HmacTurn t (.finish h, .signed (.error .unknown)) t
  | cleaned (h : Handle) : HmacTurn t (.cleanup (some h), .cleaned) (t.remove h).2
  | nothing : HmacTurn t (.cleanup none, .cleaned) t

namespace HostServices

variable {w : Traced HostServices} {h : Handle} {key fed : Bytes}

theorem run_init_ok {hmacs : SlotTable HmacState}
    (hinsert : w.state.hmacs.insert (.running key []) = .ok (h, hmacs)) :
    (init key).run w =
      (.ok h, ⟨w.state.setHmacs hmacs, w.log ++ [logged .trace "hmac init" h]⟩) := by
  simp [init, hinsert]
  rfl

theorem run_init_error {e : SlotTableError}
    (hinsert : w.state.hmacs.insert (.running key []) = .error e) :
    (init key).run w = (.error (.ofSlotTable e), w) := by
  simp [init, hinsert]
  rfl

theorem run_update_of_running (hget : w.state.hmacs.get? h = some (.running key fed))
    (data : Bytes) : (update h data).run w =
      (.ok (), ⟨w.state.setHmacs
        (w.state.hmacs.update h fun _ => .running key (fed ++ data)), w.log⟩) := by
  simp [update, hget]
  rfl

/-- A context that does not run is not fed, which is logged. -/
theorem run_update_of_not_running (hnot : ¬HmacState.IsRunning (w.state.hmacs.get? h))
    (data : Bytes) :
    ∃ e, (update h data).run w = (.error .computation, ⟨w.state, w.log ++ [e]⟩) := by
  cases hget : w.state.hmacs.get? h with
  | none =>
    refine ⟨logged .warning "hmac update on stale handle" h, ?_⟩
    simp [update, hget]
    rfl
  | some s =>
    cases s with
    | running key fed => exact absurd ⟨key, fed, hget⟩ hnot
    | finished =>
      refine ⟨logged .warning "hmac update after final" h, ?_⟩
      simp [update, hget]
      rfl

theorem run_finish_of_running (hget : w.state.hmacs.get? h = some (.running key fed)) :
    (finish h).run w = (.ok (hmac sha256 key fed),
      ⟨w.state.setHmacs (w.state.hmacs.update h fun _ => .finished), w.log⟩) := by
  simp [finish, hget]
  rfl

theorem run_finish_of_not_running (hnot : ¬HmacState.IsRunning (w.state.hmacs.get? h)) :
    ∃ e, (finish h).run w = (.error .unknown, ⟨w.state, w.log ++ [e]⟩) := by
  cases hget : w.state.hmacs.get? h with
  | none =>
    refine ⟨logged .warning "hmac final on stale handle" h, ?_⟩
    simp [finish, hget]
    rfl
  | some s =>
    cases s with
    | running key fed => exact absurd ⟨key, fed, hget⟩ hnot
    | finished =>
      refine ⟨logged .warning "hmac finalized twice" h, ?_⟩
      simp [finish, hget]
      rfl

theorem run_cleanup_some (w : Traced HostServices) (h : Handle) :
    ∃ e, (cleanup (some h)).run w =
      ((), ⟨w.state.setHmacs (w.state.hmacs.remove h).2, w.log ++ [e]⟩) := by
  cases hget : w.state.hmacs.get? h with
  | none =>
    refine ⟨logged .warning "hmac cleanup on stale handle" h, ?_⟩
    simp [cleanup, SlotTable.remove_of_none hget]
    rfl
  | some s =>
    refine ⟨logged .trace "hmac cleanup" h, ?_⟩
    simp [cleanup, SlotTable.remove_of_some hget]
    rfl

theorem turn_init (w : Traced HostServices) (key : Bytes) :
    HmacTurn w.state.hmacs (.init key, .started ((init key).run w).1)
      ((init key).run w).2.state.hmacs := by
  cases hinsert : w.state.hmacs.insert (.running key []) with
  | error e =>
    rw [run_init_error hinsert]
    exact .full hinsert
  | ok taken =>
    rw [run_init_ok hinsert]
    exact .started hinsert

theorem turn_update (w : Traced HostServices) (h : Handle) (data : Bytes) :
    HmacTurn w.state.hmacs (.update h data, .fed ((update h data).run w).1)
      ((update h data).run w).2.state.hmacs := by
  by_cases hruns : HmacState.IsRunning (w.state.hmacs.get? h)
  · obtain ⟨key, fed, hget⟩ := hruns
    rw [run_update_of_running hget]
    exact .fed data hget
  · obtain ⟨e, hrun⟩ := run_update_of_not_running hruns data
    rw [hrun]
    exact .unfed data hruns

theorem turn_finish (w : Traced HostServices) (h : Handle) :
    HmacTurn w.state.hmacs (.finish h, .signed ((finish h).run w).1)
      ((finish h).run w).2.state.hmacs := by
  by_cases hruns : HmacState.IsRunning (w.state.hmacs.get? h)
  · obtain ⟨key, fed, hget⟩ := hruns
    rw [run_finish_of_running hget]
    exact .signed hget
  · obtain ⟨e, hrun⟩ := run_finish_of_not_running hruns
    rw [hrun]
    exact .unsigned hruns

theorem turn_cleanup (w : Traced HostServices) (handle : Option Handle) :
    HmacTurn w.state.hmacs (.cleanup handle, .cleaned)
      ((cleanup handle).run w).2.state.hmacs := by
  cases handle with
  | none => exact .nothing
  | some h =>
    obtain ⟨e, hrun⟩ := run_cleanup_some w h
    rw [hrun]
    exact .cleaned h

end HostServices

/-- A call takes one of the turns. -/
theorem HmacCall.turn (c : HmacCall) (w : Traced HostServices) :
    HmacTurn w.state.hmacs (c, (c.perform.run w).1) (c.perform.run w).2.state.hmacs := by
  cases c with
  | init key => exact HostServices.turn_init w key
  | update h data => exact HostServices.turn_update w h data
  | finish h => exact HostServices.turn_finish w h
  | cleanup handle => exact HostServices.turn_cleanup w handle

theorem HmacTurn.valid {t t' : SlotTable HmacState} {d : HmacDeed} (hturn : HmacTurn t d t')
    (hvalid : t.Valid) : t'.Valid := by
  cases hturn with
  | started inserted => exact hvalid.insert inserted
  | fed data runs => exact hvalid.update _ _
  | signed runs => exact hvalid.update _ _
  | cleaned h => exact hvalid.remove h
  | full => exact hvalid
  | unfed => exact hvalid
  | unsigned => exact hvalid
  | nothing => exact hvalid

end IdentityVault
