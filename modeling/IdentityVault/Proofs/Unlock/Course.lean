import IdentityVault.Proofs.Unlock.Meeting

/-! The course of an unlock flow, told from the vault and the passwords alone. At any point of a
meeting what was done and what is still to come make up the same course, so that the order of the
steps does not matter. -/
namespace IdentityVault

/-- How an unlock flow ends, and what it does on the way. -/
structure UnlockCourse where
  result : Except UnlockError Unit
  vault : Vault
  tried : List String := []
  reported : List AttemptResult := []
  requests : Nat := 0

namespace UnlockCourse

/-- What is left after a password was tried. A wrong password is followed by a request and the
`next` course. -/
def judged (vault : Vault) (next : UnlockCourse) :
    Except StoreError AttemptResult → UnlockCourse
  | .error e => { result := .error (.store e), vault := vault }
  | .ok .ready => { result := .ok (), vault := vault, reported := [.ready] }
  | .ok .decryptionFailure =>
      { next with
        reported := .decryptionFailure :: next.reported, requests := next.requests + 1 }

/-- A course whose first part is in the minutes. -/
def after (k : UnlockMinutes) (c : UnlockCourse) : UnlockCourse :=
  { c with
    tried := k.tried ++ c.tried
    reported := k.reported ++ c.reported
    requests := k.asked + c.requests }

theorem after_start (c : UnlockCourse) : c.after {} = c := by
  simp only [after, List.nil_append, Nat.zero_add]

theorem after_submitted (k : UnlockMinutes) (c : UnlockCourse) (password : String)
    (a : SubmitResult) : c.after (k.add (.submitted password a)) = c.after k := by
  cases a <;> rfl

end UnlockCourse

namespace Vault

/-- Passwords are tried in order, until one is not just wrong. -/
def trials : Vault → List String → UnlockCourse
  | v, [] => { result := .error .promptClosed, vault := v }
  | v, password :: rest =>
      let a := v.supply password
      let c := UnlockCourse.judged a.vault (a.vault.trials rest) a.outcome
      { c with tried := password :: c.tried }

/-- The whole flow with a list of passwords. -/
def unlocking (v : Vault) (w : World) (passwords : List String) : UnlockCourse :=
  match (v.load.run w).1 with
  | (.error e, v) => { result := .error (.store e), vault := v }
  | (.ok .ready, v) => { result := .ok (), vault := v, reported := [.ready] }
  | (.ok _, v) => { v.trials passwords with requests := (v.trials passwords).requests + 1 }

end Vault

namespace UnlockSession

/-- What is still to come, when the host has these passwords left. -/
def prospect (s : UnlockSession) (unsent : List String) (w : World) : UnlockCourse :=
  let queue := s.submissions.slot.toList ++ unsent
  match s.phase with
  | .loading => s.vault.unlocking w queue
  | .waiting => s.vault.trials queue
  | .trying password => s.vault.trials (password :: queue)
  | .tried outcome => .judged s.vault (s.vault.trials queue) outcome
  | .reported .decryptionFailure =>
      { s.vault.trials queue with requests := (s.vault.trials queue).requests + 1 }
  | .reported .ready => { result := .ok (), vault := s.vault }
  | .finished result => { result := result, vault := s.vault }

variable {s s' : UnlockSession} {k : UnlockMinutes} {d : UnlockDeed} {unsent : List String}
  {w w' : World}

/-- What the driver does moves from what is to come into the minutes. -/
theorem prospect_drive (left : s.submissions.sending = false → unsent = [])
    (h : s.Drives w d s') :
    (s'.prospect unsent w').after (k.add d) = (s.prospect unsent w).after k := by
  cases h with
  | loadFailed phase load | loadedPlain phase load =>
    simp only [prospect, phase, Vault.unlocking, load]
    rfl
  | loadedSealed phase load =>
    simp only [prospect, phase, Vault.unlocking, load, UnlockCourse.after, UnlockMinutes.add]
    rw [Nat.add_right_comm, Nat.add_assoc]
  | take phase slot =>
    simp only [prospect, phase, slot]
    rfl
  | giveUp phase slot sending =>
    simp only [prospect, phase, slot, left sending]
    rfl
  | attempt phase =>
    simp only [prospect, phase, Vault.trials, UnlockCourse.after, UnlockMinutes.add,
      List.append_assoc, List.singleton_append]
  | fail phase =>
    simp only [prospect, phase]
    rfl
  | @report result phase =>
    cases result <;>
      simp only [prospect, phase, UnlockCourse.judged, UnlockCourse.after, UnlockMinutes.add,
        List.append_assoc, List.append_nil, List.singleton_append]
  | ask phase =>
    simp only [prospect, phase, UnlockCourse.after, UnlockMinutes.add]
    rw [Nat.add_right_comm, Nat.add_assoc]
  | conclude phase =>
    simp only [prospect, phase]
    rfl

/-- A password in the channel is as good as one that the host has yet to submit, and a driver that
has finished looks at neither. -/
theorem prospect_submit {password : String} {rest : List String} (h : s.Balanced k)
    (room : (s.submissions.submit password).1 ≠ .full) :
    (s.submit password).prospect rest w = s.prospect (password :: rest) w := by
  cases h with
  | underway running receiving =>
    obtain ⟨hslot, hsubmit⟩ := s.submissions.submit_of_receiving password receiving room
    simp only [prospect, submit, hsubmit, hslot]
    rfl
  | ended finished =>
    obtain ⟨result, hphase⟩ := phase_of_isSome_result? finished
    simp only [prospect, submit, hphase]

end UnlockSession

namespace Meeting

variable {m m' : Meeting} {d : UnlockDeed} {past : List UnlockDeed} {passwords : List String}
  {k : UnlockMinutes} {v : Vault} {w : World}

def prospect (m : Meeting) : UnlockCourse := m.session.prospect m.unsent m.world

theorem prospect_step (h : Accounts passwords k m) (hstep : m.Step d m') :
    m'.prospect.after (k.add d) = m.prospect.after k := by
  cases hstep with
  | drive next => exact UnlockSession.prospect_drive h.left (UnlockSession.next_drives _ next)
  | host move =>
    cases move with
    | @submit password rest unsent room =>
      have hcourse : m.prospect = m.session.prospect (password :: rest) m.world := by
        rw [prospect, unsent]
      rw [hcourse, ← UnlockSession.prospect_submit h.balanced room]
      exact UnlockCourse.after_submitted ..
    | leave | hear | stopHearing | stopWatching => rfl

/-- The course of a meeting was settled when it began. -/
theorem Run.course (h : Run v passwords w past m) :
    m.prospect.after (.ofHistory past) = v.unlocking w passwords := by
  induction h with
  | start => exact UnlockCourse.after_start _
  | next before hstep ih => exact (prospect_step (Run.keepsAccounts before) hstep).trans ih

end Meeting

end IdentityVault
