import IdentityVault.Proofs.Program.Emissions
import IdentityVault.Proofs.Store.Outcomes
import IdentityVault.Unlock.Session
import Mathlib.Logic.Function.Iterate

/-! The steps of the unlock driver, each as a move from one session to the next. -/
namespace IdentityVault

/-- What the driver or its host did. -/
inductive UnlockDeed where
  | loaded (outcome : Except StoreError StoreState)
  | took (password : String)
  | gaveUp
  | tried (password : String)
  | reported (result : AttemptResult)
  | asked
  | ended
  | submitted (password : String) (answer : SubmitResult)
  | left
  | heard (request : PasswordRequest)
  | stoppedHearing
  | stoppedWatching

namespace UnlockSession

/-- What the next step of the driver does. -/
def deed (s : UnlockSession) (w : World) : UnlockDeed :=
  match s.phase with
  | .loading => .loaded (s.vault.load.run w).1.1
  | .waiting =>
      match s.submissions.slot with
      | some password => .took password
      | none => .gaveUp
  | .trying password => .tried password
  | .tried (.ok result) => .reported result
  | .reported .decryptionFailure => .asked
  | .tried (.error _) | .reported .ready | .finished _ => .ended

/-- A move of the driver, with what it did. -/
inductive Drives (w : World) (s : UnlockSession) : UnlockDeed → UnlockSession → Prop where
  | loadFailed {e : StoreError} {v : Vault} (phase : s.phase = .loading)
      (load : (s.vault.load.run w).1 = (.error e, v)) :
      Drives w s (.loaded (.error e)) ({ s with vault := v }.finish (.error (.store e)))
  | loadedPlain {v : Vault} (phase : s.phase = .loading)
      (load : (s.vault.load.run w).1 = (.ok .ready, v)) :
      Drives w s (.loaded (.ok .ready)) { s with vault := v, phase := .tried (.ok .ready) }
  | loadedSealed {v : Vault} (phase : s.phase = .loading)
      (load : (s.vault.load.run w).1 = (.ok .awaitingPassword, v)) :
      Drives w s (.loaded (.ok .awaitingPassword))
        { s with vault := v, phase := .waiting, requests := s.requests.request.1 }
  | take {password : String} (phase : s.phase = .waiting)
      (slot : s.submissions.slot = some password) :
      Drives w s (.took password)
        { s with phase := .trying password, submissions := { s.submissions with slot := none } }
  | giveUp (phase : s.phase = .waiting) (slot : s.submissions.slot = none)
      (sending : s.submissions.sending = false) :
      Drives w s .gaveUp (s.finish (.error .promptClosed))
  | attempt {password : String} (phase : s.phase = .trying password) :
      Drives w s (.tried password)
        { s with vault := (s.vault.supply password).vault,
                 phase := .tried (s.vault.supply password).outcome }
  | fail {e : StoreError} (phase : s.phase = .tried (.error e)) :
      Drives w s .ended (s.finish (.error (.store e)))
  | report {result : AttemptResult} (phase : s.phase = .tried (.ok result)) :
      Drives w s (.reported result)
        { s with phase := .reported result, reports := (s.reports.add result).1 }
  | ask (phase : s.phase = .reported .decryptionFailure) :
      Drives w s .asked { s with phase := .waiting, requests := s.requests.request.1 }
  | conclude (phase : s.phase = .reported .ready) : Drives w s .ended (s.finish (.ok ()))

/-- What a request for a password makes of the channel. -/
def onEmission (c : PromptChannel) : Emission → PromptChannel
  | .passwordRequested => c.request.1
  | _ => c

theorem run_logAll (log : List LogEvent) (w : World) :
    ∃ emitted, (Program.logAll log).run w = ((), { w with emitted := emitted }) := by
  induction log generalizing w with
  | nil => exact ⟨w.emitted, rfl⟩
  | cons e rest ih => exact ih _

theorem run_forward (e : Emission) (c : PromptChannel) (w : World) :
    ∃ emitted, (forward e c).run w = (onEmission c e, { w with emitted := emitted }) := by
  cases e with
  | passwordRequested =>
    obtain ⟨emitted, hrun⟩ := run_logAll c.request.2 w
    refine ⟨emitted, ?_⟩
    simp only [forward, Program.bind_eq, Program.run_bind, hrun]
    rfl
  | event | standardOutput | standardError => exact ⟨_, rfl⟩

theorem foldl_onEmission (emissions : List Emission) (c : PromptChannel) :
    emissions.foldl onEmission c =
      (fun c => c.request.1)^[emissions.count .passwordRequested] c := by
  induction emissions generalizing c with
  | nil => rfl
  | cons e rest ih =>
    rw [List.foldl_cons, ih]
    cases e <;> simp [onEmission, Function.iterate_succ]

/-- The requests of a load go through the channel. -/
theorem run_load_forwarded (v : Vault) (c : PromptChannel) (w : World) :
    ∃ asked, Vault.LoadEnd v (fun _ => w.disk) (v.load.run w).1.1 (v.load.run w).1.2 asked ∧
      ((v.load.withEmissions forward c).run w).1 =
        ((v.load.run w).1, (fun c => c.request.1)^[asked] c) := by
  obtain ⟨asked, hend, hrequests⟩ := v.run_loadEnd w
  obtain ⟨after, hrun⟩ := Program.run_withEmissions run_forward v.load c w w.emitted
  -- The world counts the same emissions that the channel is given.
  have hcount : (v.load.emissions w).count .passwordRequested = asked := by
    rw [World.passwordRequests, Program.emitted_run, List.count_append] at hrequests
    exact Nat.add_left_cancel hrequests
  refine ⟨asked, hend, ?_⟩
  rw [hrun, foldl_onEmission, hcount]

variable {s : UnlockSession} {p : Program UnlockSession}

theorem phase_of_isSome_result? (h : s.result?.isSome) : ∃ result, s.phase = .finished result := by
  unfold result? at h
  split at h
  case h_1 result phase => exact ⟨result, phase⟩
  case h_2 => cases h

theorem drives_load (w : World) (phase : s.phase = .loading) :
    s.Drives w (.loaded (s.vault.load.run w).1.1) (s.load.run w).1 := by
  obtain ⟨asked, hend, hforwarded⟩ := run_load_forwarded s.vault s.requests w
  simp only [load, Program.bind_eq, Program.run_bind, hforwarded]
  generalize hload : (s.vault.load.run w).1 = loaded at hend
  obtain ⟨outcome, v⟩ := loaded
  cases hend with
  | failed => exact .loadFailed phase hload
  | plain => exact .loadedPlain phase hload
  | sealed => exact .loadedSealed phase hload

theorem drives_take (w : World) (phase : s.phase = .waiting) (h : s.next? = some p) :
    s.Drives w (s.deed w) (p.run w).1 := by
  cases slot : s.submissions.slot with
  | some password =>
    simp only [next?, deed, phase, SubmissionChannel.take, slot] at h ⊢
    cases h
    exact .take phase slot
  | none =>
    cases sending : s.submissions.sending with
    | true => simp [next?, phase, SubmissionChannel.take, slot, sending] at h
    | false =>
      simp only [next?, deed, phase, SubmissionChannel.take, slot, sending] at h ⊢
      cases h
      exact .giveUp phase slot sending

/-- The next step of the driver is one of the moves. -/
theorem next_drives (w : World) (h : s.next? = some p) : s.Drives w (s.deed w) (p.run w).1 := by
  cases phase : s.phase with
  | loading =>
    simp only [next?, deed, phase] at h ⊢
    cases h
    exact drives_load w phase
  | waiting => exact drives_take w phase h
  | trying password =>
    simp only [next?, deed, phase] at h ⊢
    cases h
    simp only [attempt, Program.bind_eq, Program.run_bind, (s.vault.run_attempt password w).1]
    exact .attempt phase
  | tried outcome =>
    cases outcome with
    | error e =>
      simp only [next?, deed, phase] at h ⊢
      cases h
      exact .fail phase
    | ok result =>
      simp only [next?, deed, phase] at h ⊢
      cases h
      simp only [report, Program.bind_eq, Program.run_bind]
      exact .report phase
  | reported result =>
    cases result with
    | ready =>
      simp only [next?, deed, phase] at h ⊢
      cases h
      exact .conclude phase
    | decryptionFailure =>
      simp only [next?, deed, phase] at h ⊢
      cases h
      simp only [ask, Program.bind_eq, Program.run_bind]
      exact .ask phase
  | finished result => simp [next?, phase] at h

end UnlockSession

end IdentityVault
