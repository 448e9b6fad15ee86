import IdentityVault.Proofs.Unlock.Progress
import Mathlib.Data.List.Forall2

/-! Passwords that a vault does not tell apart. A host who submits one list of them and a host who
submits another one see and hear the same, and so does everybody else. -/
namespace IdentityVault

namespace Vault

/-- The attempts with two passwords come to the same, and unlock the same identity if they do. -/
structure AnswersAlike (v : Vault) (p q : String) : Prop where
  outcome : (v.supply p).outcome = (v.supply q).outcome
  identity (ready : (v.supply p).outcome = .ok .ready) :
    (v.supply p).vault.identity = (v.supply q).vault.identity

/-- What an attempt makes of a payload that was opened or not. -/
def opening (l : StorageLayout) (payload salt : Bytes) : Except SealError Bytes → Attempt
  | .ok text =>
    if text.length = Bundle.plainLength then
      ⟨.ok .ready, ⟨l, .ready text (some salt)⟩,
        [logged .debug "Store received password"] ++ derivationLog salt ++
          [logged .info "Decrypted identity"]⟩
    else ⟨.error (.corruptText text.length), ⟨l, .awaitingPassword payload (some salt)⟩,
      [logged .debug "Store received password"] ++ derivationLog salt⟩
  | .error .authentication =>
    ⟨.ok .decryptionFailure, ⟨l, .awaitingPassword payload (some salt)⟩,
      [logged .debug "Store received password"] ++ derivationLog salt ++
        [logged .warning "Failure decrypting identity"]⟩
  | .error e => ⟨.error (.corruptBody e), ⟨l, .awaitingPassword payload (some salt)⟩,
      [logged .debug "Store received password"] ++ derivationLog salt⟩

variable {l : StorageLayout} {payload salt : Bytes} {v : Vault} {p q : String}

theorem supply_eq_opening (hsalt : salt ≠ []) (password : String) :
    supply ⟨l, .awaitingPassword payload (some salt)⟩ password =
      opening l payload salt (Payload.opened (.ofPassword password salt) payload) := by
  obtain ⟨s, rest, rfl⟩ := List.exists_cons_of_ne_nil hsalt
  simp only [supply, KeyMaterial.derive_eq]
  cases Payload.opened (.ofPassword password (s :: rest)) payload with
  | ok text => rfl
  | error e => cases e <;> rfl

theorem opening_congr {x y : Except SealError Bytes}
    (houtcome : (opening l payload salt x).outcome = (opening l payload salt y).outcome)
    (hidentity : (opening l payload salt x).outcome = .ok .ready →
      (opening l payload salt x).vault.identity = (opening l payload salt y).vault.identity) :
    opening l payload salt x = opening l payload salt y := by
  rcases x with e | text <;> rcases y with e' | text'
  · cases e <;> cases e' <;> cases houtcome <;> rfl
  · cases e <;> simp only [opening] at houtcome <;> split at houtcome <;> cases houtcome
  · cases e' <;> simp only [opening] at houtcome <;> split at houtcome <;> cases houtcome
  · simp only [opening] at *
    by_cases hlength : text.length = Bundle.plainLength
    · by_cases hlength' : text'.length = Bundle.plainLength
      · have hready := unlocked_ready (l := l) (some salt) hlength'
        simp only [if_pos hlength, if_pos hlength', forall_const] at hidentity ⊢
        have hunlocked : Unlocked ⟨l, .ready text (some salt)⟩ text' :=
          ⟨rfl, hidentity.trans hready.identity⟩
        rw [eq_of_unlocked_ready hunlocked]
      · simp only [if_pos hlength, if_neg hlength'] at houtcome
        cases houtcome
    · by_cases hlength' : text'.length = Bundle.plainLength
      · simp only [if_neg hlength, if_pos hlength'] at houtcome
        cases houtcome
      · simp only [if_neg hlength, if_neg hlength'] at *
        injection houtcome with hcause
        injection hcause with hlengths
        rw [hlengths]

/-- The outcome and the identity tell all that a password decides over. -/
theorem AnswersAlike.supply_eq (h : v.AnswersAlike p q) : v.supply p = v.supply q := by
  obtain ⟨l, contents⟩ := v
  cases contents with
  | unloaded | ready => rfl
  | awaitingPassword payload salt =>
    rcases salt with _ | _ | ⟨s, salt⟩
    · rfl
    · rfl
    · obtain ⟨houtcome, hidentity⟩ := h
      simp only [supply_eq_opening (List.cons_ne_nil s salt)] at *
      exact opening_congr houtcome hidentity

end Vault

/-- What a session shows, and what it ends with. -/
structure SessionView where
  vault : Vault
  requests : PromptChannel
  reports : Reports
  result : Option (Except UnlockError Unit)

namespace UnlockSession

def view (s : UnlockSession) : SessionView := ⟨s.vault, s.requests, s.reports, s.result?⟩

/-- Two passwords that the vault does not tell apart, or none. -/
abbrev SlotsAlike (v : Vault) : Option String → Option String → Prop :=
  Option.Rel fun p q => v.supply p = v.supply q

/-- A session that differs in passwords alone, in such as the vault does not tell apart. -/
inductive Alike (v : Vault) (s : UnlockSession) : UnlockSession → Prop where
  | queued {slot : Option String} (alike : SlotsAlike v s.submissions.slot slot) :
      Alike v s { s with submissions := { s.submissions with slot := slot } }
  | trying {p q : String} {slot : Option String} (phase : s.phase = .trying p)
      (same : v.supply p = v.supply q) (alike : SlotsAlike v s.submissions.slot slot) :
      Alike v s { s with phase := .trying q, submissions := { s.submissions with slot := slot } }

/-- The vault that the next password is tried on, if there is a next one. -/
def Tries (s : UnlockSession) (v : Vault) (w : World) : Prop :=
  match s.phase with
  | .loading => (s.vault.load.run w).1.2 = v
  | .waiting | .trying _ | .tried (.ok .decryptionFailure) | .reported .decryptionFailure =>
      s.vault = v
  | .tried _ | .reported .ready | .finished _ => True

/-- Two programs that end in the same surroundings with sessions that are alike. -/
structure EndAlike (v : Vault) (w : World) (p p' : Program UnlockSession) : Prop where
  world : (p'.run w).2 = (p.run w).2
  alike : (p.run w).1.Alike v (p'.run w).1
  tries : (p.run w).1.Tries v (p.run w).2

variable {v : Vault} {w : World} {s s' : UnlockSession} {slot : Option String} {p q : String}

theorem Alike.refl (v : Vault) (s : UnlockSession) : s.Alike v s := by
  have hslots : SlotsAlike v s.submissions.slot s.submissions.slot := by
    cases s.submissions.slot with
    | none => exact .none
    | some password => exact .some rfl
  exact .queued hslots

theorem run_attempt_session (s : UnlockSession) (password : String) (w : World) :
    (s.attempt password).run w =
      ({ s with vault := (s.vault.supply password).vault,
                phase := .tried (s.vault.supply password).outcome },
        ((Program.logAll (s.vault.supply password).log).run w).2) := by
  simp only [attempt, Vault.attempt, Program.bind_eq, Program.run_bind]
  rfl

theorem run_report (s : UnlockSession) (result : AttemptResult) (w : World) :
    (s.report result).run w =
      ({ s with reports := (s.reports.add result).1, phase := .reported result },
        ((Program.logAll (s.reports.add result).2).run w).2) := by
  simp only [report, Program.bind_eq, Program.run_bind]
  rfl

theorem run_ask (s : UnlockSession) (w : World) :
    s.ask.run w = ({ s with requests := s.requests.request.1, phase := .waiting },
      ((Program.logAll s.requests.request.2).run w).2) := by
  simp only [ask, Program.bind_eq, Program.run_bind]
  rfl

theorem endAlike_attempt (tries : s.vault = v) (same : v.supply p = v.supply q)
    (alike : SlotsAlike v s.submissions.slot slot) (phase : UnlockPhase) :
    EndAlike v w (s.attempt p) (attempt
      { s with phase := phase, submissions := { s.submissions with slot := slot } } q) := by
  refine ⟨?_, ?_, ?_⟩ <;> simp only [run_attempt_session, tries, same]
  · exact .queued alike
  · have hend := v.attemptEnd q
    generalize (v.supply q).outcome = outcome, (v.supply q).vault = after at hend
    cases hend <;> simp only [Tries]

theorem endAlike_load (phase : s.phase = .loading) (tries : s.Tries v w)
    (alike : SlotsAlike v s.submissions.slot slot) :
    EndAlike v w s.load
      (load { s with submissions := { s.submissions with slot := slot } }) := by
  obtain ⟨asked, hend, hforwarded⟩ := run_load_forwarded s.vault s.requests w
  have hvault : (s.vault.load.run w).1.2 = v := by
    unfold Tries at tries
    rwa [phase] at tries
  generalize hrun : (s.vault.load.withEmissions forward s.requests).run w = loaded at hforwarded
  obtain ⟨⟨⟨result, after⟩, requests⟩, w'⟩ := loaded
  obtain rfl : after = v := by
    rw [← hvault]
    exact congrArg (fun r => r.1.2) hforwarded
  refine ⟨?_, ?_, ?_⟩ <;> simp only [load, Program.bind_eq, Program.run_bind, hrun]
  · rcases result with e | state
    · rfl
    · cases state <;> rfl
  · rcases result with e | state
    · exact .queued .none
    · cases state <;> exact .queued alike
  · rcases result with e | state
    · trivial
    · cases state <;> first | rfl | trivial

theorem endAlike_finish (s : UnlockSession) (result : Except UnlockError Unit) :
    EndAlike v w (.done (s.finish result)) (.done (s.finish result)) :=
  ⟨rfl, .refl _ _, trivial⟩

theorem endAlike_take (phase : s.phase = .waiting) (tries : s.vault = v)
    (alike : SlotsAlike v s.submissions.slot slot) :
    Option.Rel (EndAlike v w) s.next?
      (next? { s with submissions := { s.submissions with slot := slot } }) := by
  obtain ⟨vault, _, requests, ⟨found, sending, receiving⟩, reports⟩ := s
  cases phase
  cases alike with
  | some same => exact .some ⟨rfl, .trying rfl same .none, tries⟩
  | none =>
    cases sending with
    | true => exact .none
    | false => exact .some (endAlike_finish _ _)

theorem endAlike_report {result : AttemptResult}
    (tries : result = .decryptionFailure → s.vault = v)
    (alike : SlotsAlike v s.submissions.slot slot) :
    EndAlike v w (s.report result)
      (report { s with submissions := { s.submissions with slot := slot } } result) := by
  refine ⟨?_, ?_, ?_⟩ <;> simp only [run_report]
  · exact .queued alike
  · cases result with
    | ready => trivial
    | decryptionFailure => exact tries rfl

theorem endAlike_ask (tries : s.vault = v) (alike : SlotsAlike v s.submissions.slot slot) :
    EndAlike v w s.ask (ask { s with submissions := { s.submissions with slot := slot } }) := by
  refine ⟨?_, ?_, ?_⟩ <;> simp only [run_ask]
  · exact .queued alike
  · exact tries

/-- The next steps of sessions that are alike lead to sessions that are alike. -/
theorem Alike.next (h : s.Alike v s') (tries : s.Tries v w) :
    Option.Rel (EndAlike v w) s.next? s'.next? := by
  cases h with
  | trying phase same alike =>
    simp only [Tries, phase] at tries
    simp only [next?, phase]
    exact .some (endAlike_attempt tries same alike _)
  | queued alike =>
    obtain ⟨vault, phase, requests, submissions, reports⟩ := s
    cases phase with
    | loading => exact .some (endAlike_load rfl tries alike)
    | waiting => exact endAlike_take rfl tries alike
    | trying password => exact .some (endAlike_attempt tries rfl alike _)
    | tried outcome =>
      cases outcome with
      | error e => exact .some (endAlike_finish _ _)
      | ok result =>
        refine .some (endAlike_report ?_ alike)
        rintro rfl
        exact tries
    | reported result =>
      cases result with
      | ready => exact .some (endAlike_finish _ _)
      | decryptionFailure => exact .some (endAlike_ask tries alike)
    | finished result => exact .none

theorem Alike.advance (h : s.Alike v s') (tries : s.Tries v w) :
    EndAlike v w s.advance s'.advance := by
  have hnext := h.next tries
  unfold UnlockSession.advance
  generalize s.next? = next, s'.next? = next' at hnext
  cases hnext with
  | none => exact ⟨rfl, h, tries⟩
  | some hend => exact hend

theorem Alike.proceed (h : s.Alike v s') (tries : s.Tries v w) (n : Nat) :
    EndAlike v w (s.proceed n) (s'.proceed n) := by
  induction n generalizing s s' w with
  | zero => exact ⟨rfl, h, tries⟩
  | succ n ih =>
    obtain ⟨hworld, halike, htries⟩ := h.advance tries
    obtain ⟨hworld', halike', htries'⟩ := ih halike htries
    refine ⟨?_, ?_, ?_⟩ <;>
      simp only [UnlockSession.proceed, Program.bind_eq, Program.run_bind, hworld]
    · exact hworld'
    · exact halike'
    · exact htries'

theorem Alike.view_eq (h : s.Alike v s') : s'.view = s.view := by
  cases h with
  | queued => rfl
  | trying phase => simp [view, result?, phase]

theorem Alike.dropSender (h : s.Alike v s') : s.dropSender.Alike v s'.dropSender := by
  cases h with
  | queued alike => exact .queued alike
  | trying phase same alike => exact .trying phase same alike

theorem SlotsAlike.submit {c : SubmissionChannel} (alike : SlotsAlike v c.slot slot)
    (same : v.supply p = v.supply q) :
    (SubmissionChannel.submit { c with slot := slot } q).1 = (c.submit p).1 ∧
      ∃ slot', SlotsAlike v (c.submit p).2.slot slot' ∧
        (SubmissionChannel.submit { c with slot := slot } q).2 =
          { (c.submit p).2 with slot := slot' } := by
  obtain ⟨found, sending, receiving⟩ := c
  cases receiving with
  | false => exact ⟨rfl, slot, alike, rfl⟩
  | true =>
    cases alike with
    | none => exact ⟨rfl, some q, .some same, rfl⟩
    | some alike => exact ⟨rfl, _, .some alike, rfl⟩

theorem Alike.submit (h : s.Alike v s') (same : v.supply p = v.supply q) :
    (s'.submissions.submit q).1 = (s.submissions.submit p).1 ∧
      (s.submit p).Alike v (s'.submit q) := by
  cases h with
  | queued alike =>
    obtain ⟨hanswer, slot', halike, hsubmit⟩ := alike.submit same
    refine ⟨hanswer, ?_⟩
    simp only [UnlockSession.submit, hsubmit]
    exact .queued (s := s.submit p) halike
  | trying phase held alike =>
    obtain ⟨hanswer, slot', halike, hsubmit⟩ := alike.submit same
    refine ⟨hanswer, ?_⟩
    simp only [UnlockSession.submit, hsubmit]
    exact .trying (s := s.submit p) phase held halike

/-- Sessions that are alike go on with the rest, unless they have finished. -/
theorem EndAlike.unlessFinished {p p' : Program UnlockSession}
    {rest rest' : UnlockSession → Program UnlockSession} (h : EndAlike v w p p')
    (hrest : ∀ {s s' : UnlockSession} {w : World}, s.Alike v s' → s.Tries v w →
      EndAlike v w (rest s) (rest' s')) :
    EndAlike v w
      (do
        let s ← p
        match s.result? with
        | some _ => return s
        | none => rest s)
      (do
        let s ← p'
        match s.result? with
        | some _ => return s
        | none => rest' s) := by
  obtain ⟨hworld, halike, htries⟩ := h
  have hresult := congrArg SessionView.result halike.view_eq
  simp only [view] at hresult
  refine ⟨?_, ?_, ?_⟩ <;> simp only [Program.bind_eq, Program.run_bind, hworld, hresult] <;>
    cases (p.run w).1.result?
  · exact (hrest halike htries).world
  · rfl
  · exact (hrest halike htries).alike
  · exact halike
  · exact (hrest halike htries).tries
  · exact htries

theorem Alike.answerAll {ps qs : List String}
    (hlists : List.Forall₂ (fun p q => v.supply p = v.supply q) ps qs) (h : s.Alike v s')
    (tries : s.Tries v w) : EndAlike v w (s.answerAll ps) (s'.answerAll qs) := by
  induction hlists generalizing s s' w with
  | nil => exact h.dropSender.advance tries
  | @cons p q _ _ same rest ih =>
    have hsubmitted := (h.submit same).2
    have htries : (s.submit p).Tries v w := tries
    exact (hsubmitted.proceed htries stepsToTry).unlessFinished fun h tries => ih h tries

theorem Alike.unlock {ps qs : List String}
    (hlists : List.Forall₂ (fun p q => v.supply p = v.supply q) ps qs) (h : s.Alike v s')
    (tries : s.Tries v w) : EndAlike v w (s.unlock ps) (s'.unlock qs) :=
  (h.proceed tries stepsToLoad).unlessFinished fun h tries => h.answerAll hlists tries

theorem Alike.withRequests (h : s.Alike v s') (requests : PromptChannel) :
    Alike v { s with requests := requests } { s' with requests := requests } := by
  cases h with
  | queued alike => exact .queued (s := { s with requests := requests }) alike
  | trying phase same alike =>
    exact .trying (s := { s with requests := requests }) phase same alike

theorem Alike.withReports (h : s.Alike v s') (reports : Reports) :
    Alike v { s with reports := reports } { s' with reports := reports } := by
  cases h with
  | queued alike => exact .queued (s := { s with reports := reports }) alike
  | trying phase same alike =>
    exact .trying (s := { s with reports := reports }) phase same alike

theorem Alike.sending_eq (h : s.Alike v s') : s'.submissions.sending = s.submissions.sending := by
  cases h <;> rfl

end UnlockSession

/-- The same deed, but for a password that the vault does not tell apart. -/
inductive UnlockDeed.Alike (v : Vault) : UnlockDeed → UnlockDeed → Prop where
  | took {p q : String} (same : v.supply p = v.supply q) : Alike v (.took p) (.took q)
  | tried {p q : String} (same : v.supply p = v.supply q) : Alike v (.tried p) (.tried q)
  | submitted {p q : String} (same : v.supply p = v.supply q) (answer : SubmitResult) :
      Alike v (.submitted p answer) (.submitted q answer)
  | other (d : UnlockDeed) : Alike v d d

theorem UnlockSession.Alike.deed {v : Vault} {w : World} {s s' : UnlockSession}
    (h : s.Alike v s') : (s.deed w).Alike v (s'.deed w) := by
  cases h with
  | trying phase same alike =>
    simp only [UnlockSession.deed, phase]
    exact .tried same
  | queued alike =>
    obtain ⟨vault, phase, requests, ⟨found, sending, receiving⟩, reports⟩ := s
    cases phase with
    | waiting =>
      cases alike with
      | some same => exact .took same
      | none => exact .other _
    | tried outcome => cases outcome <;> exact .other _
    | reported result => cases result <;> exact .other _
    | loading | trying | finished => exact .other _

namespace Meeting

variable {v : Vault} {w : World} {m m' n : Meeting} {d : UnlockDeed} {past : List UnlockDeed}
  {passwords others : List String}

/-- Two meetings that differ in passwords alone, in such as the vault does not tell apart. -/
structure Similar (v : Vault) (m m' : Meeting) : Prop where
  session : m.session.Alike v m'.session
  unsent : List.Forall₂ (fun p q => v.supply p = v.supply q) m.unsent m'.unsent
  world : m'.world = m.world
  tries : m.session.Tries v m.world

theorem Similar.host (h : m.Similar v m') (move : m.Hosts d n) :
    ∃ d' n', m'.Hosts d' n' ∧ d.Alike v d' ∧ n.Similar v n' := by
  obtain ⟨session, unsent, world, tries⟩ := h
  have hrequests := congrArg SessionView.requests session.view_eq
  have hreports := congrArg SessionView.reports session.view_eq
  simp only [UnlockSession.view] at hrequests hreports
  cases move with
  | @submit p rest waiting room =>
    rw [waiting] at unsent
    obtain ⟨q, rest', same, hrest, hothers⟩ := List.forall₂_cons_left_iff.1 unsent
    obtain ⟨hanswer, hsubmitted⟩ := session.submit same
    rw [← hanswer] at room ⊢
    exact ⟨_, _, .submit hothers room, .submitted same _, hsubmitted, hrest, world, tries⟩
  | leave none sending =>
    have hnone := unsent
    rw [none, List.forall₂_nil_left_iff] at hnone
    exact ⟨_, _, .leave hnone (session.sending_eq.trans sending), .other _, session.dropSender,
      unsent, world, tries⟩
  | hear heard =>
    rw [← hrequests] at heard ⊢
    exact ⟨_, _, .hear heard, .other _, session.withRequests _, unsent, world, tries⟩
  | stopHearing listening =>
    rw [← hrequests] at listening ⊢
    exact ⟨_, _, .stopHearing listening, .other _, session.withRequests _, unsent, world, tries⟩
  | stopWatching listening =>
    rw [← hreports] at listening ⊢
    exact ⟨_, _, .stopWatching listening, .other _, session.withReports _, unsent, world, tries⟩

theorem Similar.step (h : m.Similar v m') (hstep : m.Step d n) :
    ∃ d' n', m'.Step d' n' ∧ d.Alike v d' ∧ n.Similar v n' := by
  cases hstep with
  | host move =>
    obtain ⟨d', n', hmove, hdeed, halike⟩ := h.host move
    exact ⟨d', n', .host hmove, hdeed, halike⟩
  | drive next =>
    obtain ⟨session, unsent, world, tries⟩ := h
    have hnext := session.next tries
    rw [next] at hnext
    generalize hother : m'.session.next? = next' at hnext
    cases hnext with
    | some hend =>
      have hdrive : m'.Step _ _ := .drive hother
      rw [world] at hdrive
      exact ⟨_, _, hdrive, session.deed, hend.alike, unsent, hend.world, hend.tries⟩

/-- Whatever the one host and its driver do, the other host and its driver can do alike. -/
theorem Similar.run (h : m.Similar v m') (hrun : History Step m past n) :
    ∃ past' n', History Step m' past' n' ∧ List.Forall₂ (UnlockDeed.Alike v) past past' ∧
      n.Similar v n' := by
  induction hrun with
  | start => exact ⟨[], m', .start, .nil, h⟩
  | next _ hstep ih =>
    obtain ⟨past', n', hbefore, hpast, halike⟩ := ih
    obtain ⟨d', n'', hstep', hdeed, halike'⟩ := halike.step hstep
    exact ⟨_, _, .next hbefore hstep', .cons hdeed hpast, halike'⟩

end Meeting

/-- A flow with the passwords `qs` shows and logs what one with the passwords `ps` does, and ends as
that one does. So does a meeting of the driver with any host. -/
structure Vault.FlowsAlike (v : Vault) (w : World) (ps qs : List String) : Prop where
  view : ((UnlockSession.unlock { vault := v } qs).run w).1.view =
    ((UnlockSession.unlock { vault := v } ps).run w).1.view
  world : ((UnlockSession.unlock { vault := v } qs).run w).2 =
    ((UnlockSession.unlock { vault := v } ps).run w).2
  meeting {past : List UnlockDeed} {m : Meeting} (run : Meeting.Run v ps w past m) :
    ∃ past' m', Meeting.Run v qs w past' m' ∧
      List.Forall₂ (UnlockDeed.Alike (v.load.run w).1.2) past past' ∧
      m'.session.view = m.session.view ∧ m'.world = m.world

theorem Vault.flowsAlike {v : Vault} {w : World} {ps qs : List String}
    (hlists : List.Forall₂ (v.load.run w).1.2.AnswersAlike ps qs) : v.FlowsAlike w ps qs := by
  have hsame := hlists.imp fun _ _ h => h.supply_eq
  have hunlock := (UnlockSession.Alike.refl _ { vault := v }).unlock hsame (w := w) rfl
  refine ⟨hunlock.alike.view_eq, hunlock.world, fun hrun => ?_⟩
  have hstart : (Meeting.start v ps w).Similar _ (Meeting.start v qs w) :=
    ⟨.refl _ _, hsame, rfl, rfl⟩
  obtain ⟨past', m', hrun', hpast, halike⟩ := hstart.run hrun
  exact ⟨past', m', hrun', hpast, halike.session.view_eq, halike.world⟩

end IdentityVault
