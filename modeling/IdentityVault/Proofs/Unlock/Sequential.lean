import IdentityVault.Proofs.Unlock.Progress

/-! The flow that submits each password when the one before was tried is one of the runs of a
meeting, and it comes to its end. -/
namespace IdentityVault

namespace UnlockSession

variable {s s' : UnlockSession} {d : UnlockDeed} {w : World}

/-- How many steps of its own the driver takes before it waits for the host. -/
def depth (s : UnlockSession) : Nat :=
  match s.phase with
  | .loading => 3 + queued
  | .waiting => queued
  | .trying _ => 3 + queued
  | .tried _ => 2 + queued
  | .reported _ => 1 + queued
  | .finished _ => 0
where
  queued : Nat := 4 * s.submissions.slot.toList.length

theorem rests_of_depth (h : s.depth = 0) :
    s.result?.isSome ∨ s.phase = .waiting ∧ s.submissions.slot = none := by
  cases phase : s.phase with
  | finished result => exact .inl (by simp only [result?, phase, Option.isSome_some])
  | waiting =>
    refine .inr ⟨rfl, ?_⟩
    cases slot : s.submissions.slot with
    | none => rfl
    | some password => simp [depth, depth.queued, phase, slot] at h
  | loading | trying | tried | reported =>
    simp only [depth, phase] at h
    omega

theorem depth_of_waiting (phase : s.phase = .waiting) (slot : s.submissions.slot = none) :
    s.depth = 0 := by
  simp only [depth, depth.queued, phase, slot, Option.toList_none, List.length_nil]

theorem depth_of_loading (phase : s.phase = .loading) (slot : s.submissions.slot = none) :
    s.depth ≤ stepsToLoad := by
  simp only [depth, depth.queued, phase, slot, Option.toList_none, List.length_nil]
  exact Nat.le_refl _

theorem depth_submit (password : String) (phase : s.phase = .waiting)
    (slot : s.submissions.slot = none) : (s.submit password).depth ≤ stepsToTry := by
  have hslot := s.submissions.length_slot_submit password
  simp only [slot, Option.toList_none, List.length_nil] at hslot
  simp only [depth, depth.queued, submit, phase, stepsToTry]
  omega

theorem Drives.depth_le (h : s.Drives w d s') : s'.depth ≤ s.depth - 1 := by
  cases h with
  | loadFailed | giveUp | fail | conclude => exact Nat.zero_le _
  | loadedPlain phase | loadedSealed phase | attempt phase | report phase | ask phase =>
    simp only [depth, depth.queued, phase]
    omega
  | take phase slot =>
    simp only [depth, depth.queued, phase, slot, Option.toList_none, Option.toList_some,
      List.length_nil, List.length_singleton]
    omega

theorem depth_advance (s : UnlockSession) (w : World) :
    (s.advance.run w).1.depth ≤ s.depth - 1 := by
  unfold advance
  cases hnext : s.next? with
  | some p => exact (next_drives w hnext).depth_le
  | none =>
    have hdepth : s.depth = 0 := by
      obtain hfinished | ⟨phase, slot, -⟩ := rests_of_next? hnext
      · obtain ⟨result, phase⟩ := phase_of_isSome_result? hfinished
        simp only [depth, phase]
      · exact depth_of_waiting phase slot
    exact Nat.le_trans (Nat.le_of_eq hdepth) (Nat.zero_le _)

theorem depth_proceed (n : Nat) (s : UnlockSession) (w : World) :
    ((s.proceed n).run w).1.depth ≤ s.depth - n := by
  induction n generalizing s w with
  | zero => exact Nat.le_refl _
  | succ n ih =>
    have hadvance := s.depth_advance w
    have hrest := ih (s.advance.run w).1 (s.advance.run w).2
    simp only [proceed, Program.bind_eq, Program.run_bind]
    omega

end UnlockSession

namespace Meeting

variable {m : Meeting}

/-- What the driver does by itself is a part of a run. -/
theorem history_advance (m : Meeting) : ∃ later, History Step m later
    ⟨(m.session.advance.run m.world).1, m.unsent, (m.session.advance.run m.world).2⟩ := by
  unfold UnlockSession.advance
  cases hnext : m.session.next? with
  | some p => exact ⟨_, .next .start (.drive hnext)⟩
  | none => exact ⟨_, .start⟩

theorem history_proceed (n : Nat) (m : Meeting) : ∃ later, History Step m later
    ⟨((m.session.proceed n).run m.world).1, m.unsent, ((m.session.proceed n).run m.world).2⟩ := by
  induction n generalizing m with
  | zero => exact ⟨_, .start⟩
  | succ n ih =>
    obtain ⟨first, hfirst⟩ := history_advance m
    obtain ⟨rest, hrest⟩ := ih _
    refine ⟨rest ++ first, ?_⟩
    simp only [UnlockSession.proceed, Program.bind_eq, Program.run_bind]
    exact hfirst.trans hrest

theorem history_dropSender (unsent : m.unsent = []) :
    ∃ later, History Step m later { m with session := m.session.dropSender } := by
  cases hsending : m.session.submissions.sending with
  | true => exact ⟨_, .next .start (.host (.leave unsent hsending))⟩
  | false =>
    have hsame : m.session.submissions.dropSender = m.session.submissions := by
      rw [SubmissionChannel.dropSender, ← hsending]
    rw [UnlockSession.dropSender, hsame]
    exact ⟨_, .start⟩

/-- A host who leaves lets the driver finish. -/
theorem finishes_of_dropSender {s : UnlockSession} (phase : s.phase = .waiting)
    (slot : s.submissions.slot = none) (w : World) :
    (s.dropSender.advance.run w).1.result?.isSome := by
  simp [UnlockSession.dropSender, UnlockSession.advance, UnlockSession.next?, phase,
    SubmissionChannel.dropSender, SubmissionChannel.take, slot, UnlockSession.finish,
    UnlockSession.result?]

/-- The program is a run from the meeting to its end. -/
def Follows (m : Meeting) (p : Program UnlockSession) : Prop :=
  ∃ later m', History Step m later m' ∧ m'.session.result?.isSome ∧
    (m'.session, m'.world) = p.run m.world

/-- So many steps of the driver, after which it has finished or the host answers. -/
theorem follows_proceed {n : Nat} (hdepth : m.session.depth ≤ n)
    (hanswer : ∀ {s : UnlockSession} {w : World}, s.phase = .waiting →
      s.submissions.slot = none → Follows ⟨s, m.unsent, w⟩ (s.answerAll m.unsent)) :
    m.Follows (do
      let s ← m.session.proceed n
      match s.result? with
      | some _ => return s
      | none => s.answerAll m.unsent) := by
  obtain ⟨first, hfirst⟩ := history_proceed n m
  have hrested := m.session.depth_proceed n m.world
  rw [Nat.sub_eq_zero_of_le hdepth, Nat.le_zero] at hrested
  simp only [Follows, Program.bind_eq, Program.run_bind]
  cases hresult : ((m.session.proceed n).run m.world).1.result? with
  | some result => exact ⟨first, _, hfirst, by simp [hresult], rfl⟩
  | none =>
    obtain hfinished | ⟨phase, slot⟩ := UnlockSession.rests_of_depth hrested
    · simp [hresult] at hfinished
    · obtain ⟨later, m', hlater, hfinished, hrun⟩ := hanswer phase slot
      exact ⟨_, m', hfirst.trans hlater, hfinished, hrun⟩

theorem follows_answerAll (unsent : List String) {s : UnlockSession} {w : World}
    (phase : s.phase = .waiting) (slot : s.submissions.slot = none) :
    Follows ⟨s, unsent, w⟩ (s.answerAll unsent) := by
  induction unsent generalizing s w with
  | nil =>
    obtain ⟨first, hfirst⟩ := history_dropSender (m := ⟨s, [], w⟩) rfl
    obtain ⟨rest, hrest⟩ := history_advance ⟨s.dropSender, [], w⟩
    exact ⟨_, _, hfirst.trans hrest, finishes_of_dropSender phase slot w, rfl⟩
  | cons password rest ih =>
    have hroom := s.submissions.submit_ne_full password slot
    have hsubmit : Step ⟨s, password :: rest, w⟩ _ ⟨s.submit password, rest, w⟩ :=
      .host (.submit rfl hroom)
    obtain ⟨later, m', hlater, hfinished, hrun⟩ :=
      follows_proceed (m := ⟨s.submit password, rest, w⟩)
        (UnlockSession.depth_submit password phase slot) ih
    exact ⟨_, m', (History.next .start hsubmit).trans hlater, hfinished, hrun⟩

theorem follows_unlock (hdepth : m.session.depth ≤ UnlockSession.stepsToLoad) :
    m.Follows (m.session.unlock m.unsent) :=
  follows_proceed hdepth (follows_answerAll m.unsent)

end Meeting

end IdentityVault
