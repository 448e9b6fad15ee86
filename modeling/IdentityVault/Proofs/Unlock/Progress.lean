import IdentityVault.Proofs.Unlock.Meeting

/-! A meeting comes to its end. Every step of the driver or of its host lowers a bound for the steps
that are left, and one of the two can always go on until the driver has finished. -/
namespace IdentityVault

namespace UnlockSession

variable {s : UnlockSession}

/-- Without a next step the driver has finished, or it waits for a host who is still there. -/
theorem rests_of_next? (h : s.next? = none) :
    s.result?.isSome ∨
      s.phase = .waiting ∧ s.submissions.slot = none ∧ s.submissions.sending = true := by
  cases phase : s.phase with
  | loading | trying => simp [next?, phase] at h
  | tried outcome => cases outcome <;> simp [next?, phase] at h
  | reported result => cases result <;> simp [next?, phase] at h
  | finished result => exact .inl (by simp only [result?, phase, Option.isSome_some])
  | waiting =>
    cases slot : s.submissions.slot with
    | some password => simp [next?, phase, SubmissionChannel.take, slot] at h
    | none =>
      cases sending : s.submissions.sending with
      | false => simp [next?, phase, SubmissionChannel.take, slot, sending] at h
      | true => exact .inr ⟨rfl, rfl, rfl⟩

end UnlockSession

namespace Meeting

variable {m m' : Meeting} {d : UnlockDeed} {past : List UnlockDeed} {passwords : List String}
  {v : Vault} {w : World}

/-- A bound for the steps that are left. A password costs most while the host still has it: it is
submitted, taken and tried, its result is reported, and then a request is made and heard. -/
def distance (m : Meeting) : Nat :=
  6 * m.unsent.length + 5 * m.session.submissions.slot.toList.length + ahead m.session.phase +
    m.session.requests.pending.length + m.session.submissions.sending.toNat +
    m.session.requests.listening.toNat + m.session.reports.listening.toNat
where
  ahead : UnlockPhase → Nat
    | .loading => 6
    | .waiting => 1
    | .trying _ => 5
    | .tried _ => 4
    | .reported _ => 3
    | .finished _ => 0

theorem distance_drive {s' : UnlockSession} (h : m.session.Drives m.world d s') (w : World) :
    distance ⟨s', m.unsent, w⟩ < m.distance := by
  cases h with
  | loadFailed phase | giveUp phase | fail phase | conclude phase =>
    simp only [distance, distance.ahead, phase, UnlockSession.finish,
      SubmissionChannel.dropReceiver, Option.toList_none, List.length_nil]
    omega
  | loadedPlain phase | attempt phase =>
    simp only [distance, distance.ahead, phase]
    omega
  | loadedSealed phase | ask phase =>
    have hpending := m.session.requests.length_pending_request
    simp only [distance, distance.ahead, phase, m.session.requests.listening_request]
    omega
  | take phase slot =>
    simp only [distance, distance.ahead, phase, slot, Option.toList_none, Option.toList_some,
      List.length_nil, List.length_singleton]
    omega
  | @report result phase =>
    simp only [distance, distance.ahead, phase, m.session.reports.listening_add result]
    omega

theorem distance_host (h : m.Hosts d m') : m'.distance < m.distance := by
  cases h with
  | @submit password rest unsent room =>
    have hslot := m.session.submissions.length_slot_submit password
    simp only [distance, unsent, UnlockSession.submit, List.length_cons,
      m.session.submissions.sending_submit password]
    omega
  | leave unsent sending =>
    simp only [distance, UnlockSession.dropSender, SubmissionChannel.dropSender, sending,
      Bool.toNat_true, Bool.toNat_false]
    omega
  | hear heard =>
    have hpending := m.session.requests.pending_of_receive heard
    simp only [distance, hpending, PromptChannel.listening_receive, List.length_cons]
    omega
  | stopHearing listening =>
    simp only [distance, PromptChannel.dropListener, listening, List.length_nil, Bool.toNat_true,
      Bool.toNat_false]
    omega
  | stopWatching listening =>
    simp only [distance, Reports.dropListener, listening, Bool.toNat_true, Bool.toNat_false]
    omega

/-- Every step brings the meeting nearer to its end. -/
theorem Step.distance_lt (h : m.Step d m') : m'.distance < m.distance := by
  cases h with
  | drive next => exact distance_drive (UnlockSession.next_drives m.world next) _
  | host move => exact distance_host move

/-- Nobody waits for ever: the driver or the host can go on until the driver has finished. -/
theorem exists_step (running : m.session.result? = none) : ∃ d m', m.Step d m' := by
  cases hnext : m.session.next? with
  | some p => exact ⟨_, _, .drive hnext⟩
  | none =>
    obtain hfinished | ⟨-, hslot, hsending⟩ := UnlockSession.rests_of_next? hnext
    · rw [running] at hfinished
      cases hfinished
    · cases hunsent : m.unsent with
      | nil => exact ⟨_, _, .host (.leave hunsent hsending)⟩
      | cons password rest =>
        have hroom := m.session.submissions.submit_ne_full password hslot
        exact ⟨_, _, .host (.submit hunsent hroom)⟩

/-- No run takes more steps than this. -/
theorem Run.length_le (h : Run v passwords w past m) : past.length ≤ 6 * passwords.length + 9 := by
  have hbound : past.length + m.distance ≤ (start v passwords w).distance := by
    induction h with
    | start => exact Nat.le_of_eq (Nat.zero_add _)
    | next _ hstep ih =>
      have hnearer := hstep.distance_lt
      rw [List.length_cons]
      omega
  have hstart : (start v passwords w).distance = 6 * passwords.length + 9 := rfl
  omega

/-- From every meeting some run leads to the end. -/
theorem exists_completion (m : Meeting) :
    ∃ later m', History Step m later m' ∧ m'.session.result?.isSome := by
  have hnearer (past : List UnlockDeed) (m : Meeting) (_ : True) : m.session.result?.isSome ∨
      ∃ d m', m.Step d m' ∧ True ∧ m'.distance < m.distance := by
    cases hresult : m.session.result? with
    | some result => exact .inl rfl
    | none =>
      obtain ⟨d, m', hstep⟩ := exists_step hresult
      exact .inr ⟨d, m', hstep, trivial, hstep.distance_lt⟩
  obtain ⟨later, m', hlater, -, hfinished⟩ := History.reaches distance hnearer [] trivial
  exact ⟨later, m', hlater, hfinished⟩

end Meeting

end IdentityVault
