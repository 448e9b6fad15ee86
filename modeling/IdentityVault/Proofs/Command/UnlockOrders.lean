import IdentityVault.Proofs.Command.Conversation

/-! The unlock flow of a command in every order of its two parties. With a source that is no
terminal it comes to what the vault itself comes to when it is loaded and, if it awaits a password,
given the one that the source has. -/
namespace IdentityVault

namespace Vault

/-- Try one password. -/
def unlockWith (v : Vault) (password : String) : Program (Except String Vault) := do
  match ← v.attempt password with
  | (.error e, _) => return .error e.message
  | (.ok .ready, v) => return .ok v
  | (.ok .decryptionFailure, _) => return .error "Incorrect password (1 attempt(s))"

/-- Try the password that the source has. -/
def unlockOnce (v : Vault) (source : PasswordSource) : Program (Except String Vault) := do
  match ← source.read "Identity password: " with
  | .error _ => return .error "No password supplied"
  | .ok password => v.unlockWith password

/-- Load a vault and, where it awaits a password, make one attempt. -/
def unlockDirectly (v : Vault) (source : PasswordSource) : Program (Except String Vault) := do
  match ← v.load with
  | (.error e, _) => return .error e.message
  | (.ok .ready, v) => return .ok v
  | (.ok _, v) => v.unlockOnce source

theorem run_unlockWith (v : Vault) (password : String) (w : World) :
    ((v.unlockWith password).run w).1 =
      (UnlockSession.resolved v (.ok password)).mapError UnlockingError.message := by
  simp only [unlockWith, Program.bind_eq, Program.run_bind, (v.run_attempt password w).1,
    UnlockSession.resolved]
  rcases (v.supply password).outcome with e | result
  · rfl
  · cases result <;> rfl

theorem run_unlockOnce (v : Vault) (source : PasswordSource) (w : World) :
    ((v.unlockOnce source).run w).1 =
      (UnlockSession.resolved v ((source.read "Identity password: ").run w).1).mapError
        UnlockingError.message := by
  rw [unlockOnce, Program.bind_eq, Program.run_bind]
  obtain ⟨reply, w'⟩ := (source.read "Identity password: ").run w
  cases reply with
  | error e => rfl
  | ok password => exact v.run_unlockWith password w'

variable {source : PasswordSource}

theorem run_unlockDirectly (hsource : source.isInteractive = false) (v : Vault) (w : World) :
    ((v.unlockDirectly source).run w).1 =
      (unlockedBy (v.load.run w).1 ((source.read "Identity password: ").run w).1).mapError
        UnlockingError.message := by
  have hread := (PasswordSource.quiet_read hsource "Identity password: ").run_congr
    (v.quiet_load.kept w)
  rw [unlockDirectly, Program.bind_eq, Program.run_bind, ← hread]
  obtain ⟨⟨outcome, v'⟩, w'⟩ := v.load.run w
  cases outcome with
  | error e => rfl
  | ok state =>
    cases state with
    | ready => rfl
    | unloaded | awaitingPassword => exact v'.run_unlockOnce source w'

end Vault

/-- What the command makes of a course that has come to its end. -/
def UnlockCourse.concluded (c : UnlockCourse) : Except UnlockingError Vault :=
  match c.result with
  | .ok () => .ok c.vault
  | .error (.store e) => .error (.store e)
  | .error .promptClosed =>
      let failures := c.reported.count .decryptionFailure
      if 0 < failures then .error (.incorrectPassword failures) else .error .noPassword

theorem Vault.concluded_unlocking (v : Vault) (w : World) (reply : Except PasswordError String) :
    (v.unlocking w reply.toOption.toList).concluded = unlockedBy (v.load.run w).1 reply := by
  have htrials (v : Vault) (n : Nat) :
      ({ v.trials reply.toOption.toList with requests := n } : UnlockCourse).concluded =
        UnlockSession.resolved v reply := by
    cases reply with
    | error e => rfl
    | ok password =>
      simp only [Except.toOption, Option.toList_some, trials, UnlockSession.resolved]
      rcases (v.supply password).outcome with e | result
      · rfl
      · cases result <;> rfl
  unfold unlocking unlockedBy
  obtain ⟨outcome, v'⟩ := (v.load.run w).1
  cases outcome with
  | error e => rfl
  | ok state =>
    cases state with
    | ready => rfl
    | unloaded | awaitingPassword => exact htrials v' _

theorem Vault.requests_unlocking {v : Vault} {w : World}
    (h : (v.load.run w).1.1 ≠ .ok .awaitingPassword) (passwords : List String) :
    (v.unlocking w passwords).requests = 0 := by
  obtain ⟨asked, hend, -⟩ := v.run_loadEnd w
  unfold unlocking
  generalize (v.load.run w).1 = loaded at h hend ⊢
  obtain ⟨reply, v'⟩ := loaded
  cases hend with
  | failed | plain => rfl
  | sealed => exact absurd rfl h

namespace Conversation

variable {source : PasswordSource} {reply : Except PasswordError String} {v : Vault} {w : World}
  {c : Conversation} {past : List ConversationDeed} {unsent : List String}

/-- A host goes on unless it is gone, has nothing to hear yet, or finds no room for a password. -/
theorem exists_step_of_host (source : PasswordSource) (host : c.host ≠ .gone)
    (hear : c.host = .listening → c.session.requests.receive.1 ≠ .empty)
    (room : ∀ password, (c.session.submissions.submit password).1 ≠ .full) :
    ∃ d c', c.Step source d c' := by
  cases hhost : c.host with
  | gone => exact absurd hhost host
  | leaving => exact ⟨_, _, .part hhost⟩
  | answering request => exact ⟨_, _, .answer hhost⟩
  | holding password => exact ⟨_, _, .submit hhost (room password)⟩
  | listening =>
    cases hreceived : c.session.requests.receive.1 with
    | item request => exact ⟨_, _, .hear hhost hreceived⟩
    | empty => exact absurd hreceived (hear hhost)
    | disconnected => exact ⟨_, _, .stop hhost hreceived⟩

section Underway

variable (h : Underway reply v w past c unsent)
include h

/-- What the reports tell at the end was settled at the start. -/
theorem Underway.conclude_eq (finished : c.session.result?.isSome) :
    c.session.conclude = Vault.unlockedBy (v.load.run w).1 reply := by
  obtain ⟨result, phase⟩ := UnlockSession.phase_of_isSome_result? finished
  have hresults := h.delivered.results h.watching
  have hcourse := h.course
  have hprospect : (c.meeting unsent).prospect = { result := result, vault := c.session.vault } :=
    Meeting.prospect_of_finished phase
  rw [hprospect] at hcourse
  rw [← v.concluded_unlocking, ← hcourse]
  simp only [UnlockSession.conclude, UnlockSession.result?, phase, UnlockCourse.concluded,
    UnlockCourse.after, List.append_nil, hresults]
  rcases result with (e | _) | _ <;> rfl

theorem Underway.length_tried_le : (minutes past).tried.length ≤ 1 := by
  obtain ⟨passwords, haccounts⟩ := h.accounts
  obtain ⟨queue, held, hqueue, hheld⟩ := Meeting.exists_split_of_balanced haccounts.balanced
  have hsent := h.hosting.sent_le
  rw [hqueue, hheld, List.length_append, List.length_append] at hsent
  omega

theorem Underway.length_replies_le : (replies past).length ≤ 1 := by
  obtain hreplies | ⟨hreplies, -⟩ := h.hosting.replies_eq
  · simp [hreplies]
  · simp [hreplies]

/-- Where no password is asked for the source is not read. -/
theorem Underway.replies_eq_nil (settled : (v.load.run w).1.1 ≠ .ok .awaitingPassword) :
    replies past = [] := by
  have hrequests := congrArg UnlockCourse.requests h.course
  rw [Vault.requests_unlocking settled] at hrequests
  have hasked : (minutes past).asked = 0 := Nat.eq_zero_of_add_eq_zero_right hrequests
  have hheard := h.heard
  rw [hasked, Nat.le_zero, List.length_eq_zero_iff] at hheard
  exact h.hosting.replies_eq.resolve_right fun hread => hread.2 hheard

theorem Underway.exists_step_of_finished (source : PasswordSource)
    (finished : c.session.result?.isSome) : c.Done ∨ ∃ d c', c.Step source d c' := by
  cases prompting : c.session.requests.prompting with
  | true => exact .inr ⟨_, _, .release finished prompting⟩
  | false =>
    by_cases host : c.host = .gone
    · exact .inl ⟨finished, prompting, host⟩
    · have hreceive := c.session.requests.receive_ne_empty prompting
      refine .inr (exists_step_of_host source host (fun _ => hreceive) fun password => ?_)
      obtain ⟨passwords, haccounts⟩ := h.accounts
      cases haccounts.balanced with
      | underway running =>
        have hresult : c.session.result? = none := running
        simp [hresult] at finished
      | ended _ receiving =>
        rw [c.session.submissions.submit_of_not_receiving password receiving]
        simp

/-- A driver that waits has made a request that the host has not answered. -/
theorem Underway.exists_step_of_waiting (source : PasswordSource)
    (phase : c.session.phase = .waiting) (slot : c.session.submissions.slot = none)
    (sending : c.session.submissions.sending = true) : ∃ d c', c.Step source d c' := by
  by_cases host : c.host = .gone
  · exact ⟨_, _, .dropSender host sending⟩
  · refine exists_step_of_host source host (fun hlistening => ?_) fun password =>
      c.session.submissions.submit_ne_full password slot
    obtain ⟨passwords, haccounts⟩ := h.accounts
    obtain ⟨-, hasked⟩ := haccounts.balanced.asked_of_waiting phase slot
    have hupTo := congrArg List.length (h.delivered.requests (h.attending host))
    rw [List.length_append, PasswordRequest.length_upTo, hasked] at hupTo
    have hosting := h.hosting
    rw [hlistening] at hosting
    have hheard := hosting.length_heard
    cases hpending : c.session.requests.pending with
    | nil =>
      rw [hpending, List.length_nil] at hupTo
      omega
    | cons request pending =>
      rw [c.session.requests.receive_of_pending hpending]
      simp

theorem Underway.goesOn (source : PasswordSource) : c.Done ∨ ∃ d c', c.Step source d c' := by
  cases hnext : c.session.next? with
  | some p => exact .inr ⟨_, _, .drive hnext⟩
  | none =>
    obtain finished | ⟨phase, slot, sending⟩ := UnlockSession.rests_of_next? hnext
    · exact h.exists_step_of_finished source finished
    · exact .inr (h.exists_step_of_waiting source phase slot sending)

end Underway

theorem Run.length_le (hsource : source.isInteractive = false) (h : Run source v w past c) :
    past.length ≤ 48 := by
  obtain ⟨unsent, -, hbound⟩ := h.underway hsource rfl
  omega

/-- A conversation that is not done goes on, but not for ever. -/
theorem Run.exists_done (hsource : source.isInteractive = false) (h : Run source v w past c) :
    ∃ past c, Run source v w past c ∧ c.Done := by
  induction hleft : 48 - past.length using Nat.strongRecOn generalizing past c with
  | ind left ih =>
    obtain ⟨unsent, hunderway, -⟩ := h.underway hsource rfl
    obtain hdone | ⟨d, c', hstep⟩ := hunderway.goesOn source
    · exact ⟨past, c, h, hdone⟩
    · have hnext : Run source v w (d :: past) c' := .next h hstep
      have hlength := hnext.length_le hsource
      rw [List.length_cons] at hlength
      exact ih (48 - (d :: past).length) (by rw [List.length_cons]; omega) hnext rfl

/-- What holds of the flow in every order of its steps. It goes on until it is done, and is done
after so many steps. -/
structure AnyOrder (source : PasswordSource) (v : Vault) (w : World)
    (outcome : Except String Vault) : Prop where
  ends {past : List ConversationDeed} {c : Conversation} (h : Run source v w past c)
    (done : c.Done) : c.session.conclude.mapError UnlockingError.message = outcome
  once {past : List ConversationDeed} {c : Conversation} (h : Run source v w past c) :
    (minutes past).tried.length ≤ 1 ∧ (replies past).length ≤ 1
  unread {past : List ConversationDeed} {c : Conversation} (h : Run source v w past c)
    (settled : (v.load.run w).1.1 ≠ .ok .awaitingPassword) : replies past = []
  goesOn {past : List ConversationDeed} {c : Conversation} (h : Run source v w past c) :
    c.Done ∨ ∃ d c', c.Step source d c'
  bounded {past : List ConversationDeed} {c : Conversation} (h : Run source v w past c) :
    past.length ≤ 48
  reached : ∃ past c, Run source v w past c ∧ c.Done
  program : ((v.unlockFrom source).run w).1.mapError UnlockingError.message = outcome

/-- Unlocking with a file or a variable comes to a load and at most one attempt, whatever the order
in which driver and host take their steps. -/
theorem unlocks_directly (hsource : source.isInteractive = false) (v : Vault) (w : World) :
    AnyOrder source v w ((v.unlockDirectly source).run w).1 where
  ends h done := by
    obtain ⟨unsent, hunderway, -⟩ := h.underway hsource rfl
    rw [hunderway.conclude_eq done.finished, Vault.run_unlockDirectly hsource]
  once h := by
    obtain ⟨unsent, hunderway, -⟩ := h.underway hsource rfl
    exact ⟨hunderway.length_tried_le, hunderway.length_replies_le⟩
  unread h settled := by
    obtain ⟨unsent, hunderway, -⟩ := h.underway hsource rfl
    exact hunderway.replies_eq_nil settled
  goesOn h := by
    obtain ⟨unsent, hunderway, -⟩ := h.underway hsource rfl
    exact hunderway.goesOn source
  bounded h := h.length_le hsource
  reached := Run.exists_done hsource .start
  program := by rw [Vault.run_unlockFrom hsource, Vault.run_unlockDirectly hsource]

set_option maxRecDepth 4000 in
/-- A password from the environment, for a sealed identity without a salt. -/
theorem unlocks_directly_saltlessStore :
    ∃ past c, Run .environment ⟨⟨"/d"⟩, .unloaded⟩
        { disk := Vault.saltlessStore (List.replicate 128 7),
          environment := [("SIGIL_PASSWORD", "guess")] } past c ∧ c.Done ∧
      c.session.conclude.mapError UnlockingError.message =
        .error (StoreError.missingSalt "/d/storage/salt").message := by
  have horders := @unlocks_directly .environment rfl ⟨⟨"/d"⟩, .unloaded⟩
    { disk := Vault.saltlessStore (List.replicate 128 7),
      environment := [("SIGIL_PASSWORD", "guess")] }
  obtain ⟨past, c, hrun, hdone⟩ := horders.reached
  exact ⟨past, c, hrun, hdone, horders.ends hrun hdone⟩

end Conversation

end IdentityVault
