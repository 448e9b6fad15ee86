import IdentityVault.Proofs.Unlock.Trace

/-! The unlock flow under every schedule. A host may run ahead of the requests: no password is
skipped, doubled or tried out of turn, and the flow ends as it ends for a host who waits for each
request before it submits. -/
namespace IdentityVault

/-- The host has heard a request for each password before it submitted it. -/
def Patient : List UnlockDeed → Prop
  | [] => True
  | d :: past => Patient past ∧ ∀ password answer, d = .submitted password answer →
      (UnlockMinutes.ofHistory past).sent.length + (UnlockMinutes.ofHistory past).refused.length <
        (UnlockMinutes.ofHistory past).heard.length

namespace UnlockSession

variable {s s' : UnlockSession} {d : UnlockDeed} {w : World}

theorem Drives.not_submitted (h : s.Drives w d s') (password : String) (answer : SubmitResult) :
    d ≠ .submitted password answer := by
  cases h <;> nofun

theorem Drives.listening_eq (h : s.Drives w d s') :
    s'.requests.listening = s.requests.listening := by
  cases h with
  | loadedSealed | ask => exact s.requests.listening_request
  | loadFailed | loadedPlain | take | giveUp | attempt | fail | report | conclude => rfl

/-- While the driver waits, as many requests were made as passwords were sent, and one more. -/
theorem Balanced.asked_of_waiting {k : UnlockMinutes} (h : Balanced k s)
    (phase : s.phase = .waiting) (slot : s.submissions.slot = none) :
    k.refused = [] ∧ k.asked = k.sent.length + 1 := by
  cases h with
  | ended finished => simp [result?, phase] at finished
  | underway running receiving refused queued taken asked =>
    simp only [held, unanswered, phase, slot, Option.toList_none, List.append_nil]
      at queued taken asked
    rw [queued, taken]
    exact ⟨refused, asked⟩

end UnlockSession

namespace Meeting

variable {v : Vault} {passwords : List String} {w : World} {past later : List UnlockDeed}
  {m m' : Meeting} {d : UnlockDeed}

theorem Run.asked_of_waiting (h : Run v passwords w past m) (phase : m.session.phase = .waiting)
    (slot : m.session.submissions.slot = none) :
    (UnlockMinutes.ofHistory past).refused = [] ∧
      (UnlockMinutes.ofHistory past).asked = (UnlockMinutes.ofHistory past).sent.length + 1 :=
  h.keepsAccounts.balanced.asked_of_waiting phase slot

/-- A patient host can always go on until the driver has finished. -/
theorem exists_patient_step (h : Run v passwords w past m) (patient : Patient past)
    (listening : m.session.requests.listening = true) (running : m.session.result? = none) :
    ∃ d m', m.Step d m' ∧ Patient (d :: past) ∧ m'.session.requests.listening = true := by
  cases hnext : m.session.next? with
  | some p =>
    have hdrive := UnlockSession.next_drives m.world hnext
    refine ⟨_, _, .drive hnext, ⟨patient, fun password answer hd => ?_⟩, ?_⟩
    · exact absurd hd (hdrive.not_submitted password answer)
    · exact hdrive.listening_eq.trans listening
  | none =>
    obtain hfinished | ⟨phase, slot, sending⟩ := UnlockSession.rests_of_next? hnext
    · simp [running] at hfinished
    cases hunsent : m.unsent with
    | nil =>
      exact ⟨_, _, .host (.leave hunsent sending), ⟨patient, nofun⟩, listening⟩
    | cons password rest =>
      obtain ⟨hrefused, hasked⟩ := h.asked_of_waiting phase slot
      have hdelivered := congrArg List.length (h.delivered.requests listening)
      rw [List.length_append, PasswordRequest.length_upTo, hasked] at hdelivered
      cases hpending : m.session.requests.pending with
      | nil =>
        have hroom := m.session.submissions.submit_ne_full password slot
        refine ⟨_, _, .host (.submit hunsent hroom), ⟨patient, fun _ _ _ => ?_⟩, listening⟩
        rw [hpending, List.length_nil] at hdelivered
        rw [hrefused, List.length_nil]
        omega
      | cons r pending =>
        have hheard := m.session.requests.receive_of_pending hpending
        exact ⟨_, _, .host (.hear hheard), ⟨patient, nofun⟩,
          m.session.requests.listening_receive.trans listening⟩

theorem exists_patient_run (v : Vault) (passwords : List String) (w : World) :
    ∃ past m, Run v passwords w past m ∧ Patient past ∧ m.session.result?.isSome := by
  have hnearer (past : List UnlockDeed) (m : Meeting)
      (h : Run v passwords w past m ∧ Patient past ∧ m.session.requests.listening = true) :
      m.session.result?.isSome ∨ ∃ d m', m.Step d m' ∧
        (Run v passwords w (d :: past) m' ∧ Patient (d :: past) ∧
          m'.session.requests.listening = true) ∧ m'.distance < m.distance := by
    obtain ⟨hrun, hpatient, hlistening⟩ := h
    cases hresult : m.session.result? with
    | some result => exact .inl rfl
    | none =>
      obtain ⟨d, m', hstep, hkept⟩ := exists_patient_step hrun hpatient hlistening hresult
      exact .inr ⟨d, m', hstep, ⟨.next hrun hstep, hkept⟩, hstep.distance_lt⟩
  obtain ⟨past, m, -, ⟨hrun, hpatient, -⟩, hfinished⟩ :=
    History.reaches distance hnearer [] ⟨.start, trivial, rfl⟩
  rw [List.append_nil] at hrun hpatient
  exact ⟨past, m, hrun, hpatient, hfinished⟩

/-- Once the driver has finished, whatever is submitted is refused, and nothing is tried. -/
structure Closed (past later : List UnlockDeed) (m m' : Meeting) : Prop where
  result : m'.session.result? = m.session.result?
  receiving : m'.session.submissions.receiving = false
  refused (password : String) (answer : SubmitResult)
    (h : .submitted password answer ∈ later) : answer = .closed
  sent : (UnlockMinutes.ofHistory (later ++ past)).sent = (UnlockMinutes.ofHistory past).sent
  tried : (UnlockMinutes.ofHistory (later ++ past)).tried = (UnlockMinutes.ofHistory past).tried

theorem closed_step (h : m.Step d m') (finished : m.session.result?.isSome)
    (receiving : m.session.submissions.receiving = false) : Closed past [d] m m' := by
  cases h with
  | drive next =>
    rw [(UnlockSession.next_drives m.world next).running] at finished
    cases finished
  | host move =>
    cases move with
    | @submit password rest unsent room =>
      have hsubmit := m.session.submissions.submit_of_not_receiving password receiving
      rw [UnlockSession.submit, hsubmit]
      refine ⟨rfl, receiving, fun p answer hmem => ?_, rfl, rfl⟩
      cases List.mem_singleton.1 hmem
      rfl
    | leave | hear | stopHearing | stopWatching =>
      refine ⟨rfl, receiving, fun p answer hmem => ?_, rfl, rfl⟩
      cases List.mem_singleton.1 hmem

theorem Closed.of_history (h : History Step m later m') (finished : m.session.result?.isSome)
    (receiving : m.session.submissions.receiving = false) : Closed past later m m' := by
  induction h with
  | start => exact ⟨rfl, receiving, nofun, rfl, rfl⟩
  | @next later _ _ d _ hstep ih =>
    have hlast : Closed (later ++ past) [d] _ _ :=
      closed_step hstep (by rwa [ih.result]) ih.receiving
    refine ⟨hlast.result.trans ih.result, hlast.receiving, fun password answer hmem => ?_,
      hlast.sent.trans ih.sent, hlast.tried.trans ih.tried⟩
    obtain hd | hmem := List.mem_cons.1 hmem
    · exact hlast.refused password answer (List.mem_singleton.2 hd)
    · exact ih.refused password answer hmem

/-- Two meetings came to the same end, and the same was reported on the way. -/
structure Alike (past past' : List UnlockDeed) (m m' : Meeting) : Prop where
  result : m'.session.result? = m.session.result?
  vault : m'.session.vault = m.session.vault
  tried : (UnlockMinutes.ofHistory past').tried = (UnlockMinutes.ofHistory past).tried
  reported : (UnlockMinutes.ofHistory past').reported = (UnlockMinutes.ofHistory past).reported
  watched (listening : m'.session.reports.listening = true) :
    m'.session.reports.results = (UnlockMinutes.ofHistory past).reported

theorem EndedAs.alike {c : UnlockCourse} {past past' : List UnlockDeed} (h : EndedAs c past m)
    (h' : EndedAs c past' m') : Alike past past' m m' where
  result := h'.result.trans h.result.symm
  vault := h'.vault.trans h.vault.symm
  tried := h'.tried.trans h.tried.symm
  reported := h'.reported.trans h.reported.symm
  watched listening := (h'.watched listening).trans h.reported.symm

/-- How the passwords stand at any point of a run: tried, being tried, in the channel, or with the
host. -/
structure InTurn (passwords : List String) (k : UnlockMinutes) (m : Meeting) : Prop where
  underway (running : m.session.result? = none) :
    k.tried ++ m.session.held.toList ++ m.session.submissions.slot.toList ++ m.unsent = passwords
  sent : k.sent ++ k.refused ++ m.unsent = passwords
  queued : k.taken <+: k.sent ∧ k.sent.length ≤ k.taken.length + 1
  held : k.tried <+: k.taken ∧ k.taken.length ≤ k.tried.length + 1
  tried : k.tried <+: passwords

theorem prefix_of_append_toList {α : Type} {front whole : List α} {last : Option α}
    (h : whole = front ++ last.toList) : front <+: whole ∧ whole.length ≤ front.length + 1 := by
  subst h
  refine ⟨List.prefix_append _ _, ?_⟩
  rw [List.length_append]
  cases last <;> simp

theorem exists_split_of_balanced {s : UnlockSession} {k : UnlockMinutes} (h : s.Balanced k) :
    ∃ queue held : Option String, k.sent = k.taken ++ queue.toList ∧
      k.taken = k.tried ++ held.toList := by
  cases h with
  | underway running receiving refused queued taken => exact ⟨_, _, queued, taken⟩
  | ended finished receiving queued taken =>
    obtain ⟨queue, hqueue⟩ := queued
    exact ⟨queue, none, hqueue, taken.trans (List.append_nil _).symm⟩

theorem Accounts.inTurn {k : UnlockMinutes} (h : Accounts passwords k m) :
    InTurn passwords k m := by
  obtain ⟨queue, held, hqueue, hheld⟩ := exists_split_of_balanced h.balanced
  have hqueued := prefix_of_append_toList hqueue
  have htaken := prefix_of_append_toList hheld
  refine ⟨fun running => ?_, h.passwords, hqueued, htaken, ?_⟩
  · cases h.balanced with
    | ended finished => simp [running] at finished
    | underway _ _ refused queued taken =>
      have hpasswords := h.passwords
      rwa [refused, List.append_nil, queued, taken] at hpasswords
  · have hsent : k.sent <+: passwords := ⟨k.refused ++ m.unsent, by
      rw [← List.append_assoc, h.passwords]⟩
    exact (htaken.1.trans hqueued.1).trans hsent

/-- What holds of the flow under every schedule. -/
structure AnySchedule (v : Vault) (passwords : List String) (w : World) : Prop where
  inTurn {past : List UnlockDeed} {m : Meeting} (h : Run v passwords w past m) :
    InTurn passwords (.ofHistory past) m
  alike : ∃ past m, Run v passwords w past m ∧ Patient past ∧ m.session.result?.isSome ∧
    ∀ past' m', Run v passwords w past' m' → m'.session.result?.isSome → Alike past past' m m'
  closed {past later : List UnlockDeed} {m m' : Meeting} (h : Run v passwords w past m)
    (finished : m.session.result?.isSome) (hlater : History Step m later m') :
    Closed past later m m'

theorem any_schedule (v : Vault) (passwords : List String) (w : World) :
    AnySchedule v passwords w where
  inTurn h := h.keepsAccounts.inTurn
  alike := by
    obtain ⟨past, m, hrun, hpatient, hfinished⟩ := exists_patient_run v passwords w
    refine ⟨past, m, hrun, hpatient, hfinished, fun past' m' hrun' hfinished' => ?_⟩
    exact (hrun.endedAs hfinished).alike (hrun'.endedAs hfinished')
  closed h finished hlater := by
    cases h.keepsAccounts.balanced with
    | underway running => simp [running] at finished
    | ended _ receiving => exact .of_history hlater finished receiving

set_option maxRecDepth 4000 in
/-- The host submits one password before the vault is loaded and another while the first is being
tried. The second one is in the channel when the driver finishes. -/
theorem inTurn_of_eager_host : ∃ m, InTurn ["guess", "again"]
    { sent := ["guess", "again"], taken := ["guess"], tried := ["guess"], asked := 1 } m ∧
      m.session.result? = some (.error (.store (.missingSalt "/d/storage/salt"))) :=
  ⟨_, (any_schedule ⟨⟨"/d"⟩, .unloaded⟩ ["guess", "again"]
      { disk := Vault.saltlessStore (List.replicate 128 7) }).inTurn
    (.next (.next (.next (.next (.next (.next .start
      (.host (.submit rfl (by decide)))) (.drive rfl)) (.drive rfl))
      (.host (.submit rfl (by decide)))) (.drive rfl)) (.drive rfl)), rfl⟩

end Meeting

end IdentityVault
