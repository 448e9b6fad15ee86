import IdentityVault.Proofs.Command.UnlockFrom
import IdentityVault.Proofs.Unlock.Schedules

/-! The unlock flow of a command as a conversation of two parties. The driver unlocks the vault, and
a host reads a password from its source for each request that it hears. Each takes its next step
whenever it can. A source that is no terminal is read at most once, and at any point of a
conversation what was done and what is still to come make up one course. -/
namespace IdentityVault

namespace PasswordSource

/-- A password as the source has it; why there is none is logged. -/
def readOrLog (source : PasswordSource) : Program (Except PasswordError String) := do
  match ← source.read "Identity password: " with
  | .error e =>
    Program.log ⟨.error, .unlocking, "Failed to read password: " ++ e.message, []⟩
    return .error e
  | .ok password => return .ok password

/-- The password for a request. After a wrong one the user is told. -/
def answer (source : PasswordSource) (request : PasswordRequest) :
    Program (Except PasswordError String) := do
  if request.isRetry then Program.complain "❌ Incorrect password, try again"
  source.readOrLog

theorem run_readOrLog (source : PasswordSource) (w : World) :
    (source.readOrLog.run w).1 = ((source.read "Identity password: ").run w).1 := by
  simp only [readOrLog, Program.bind_eq, Program.run_bind]
  cases ((source.read "Identity password: ").run w).1 <;> rfl

variable {source : PasswordSource} (hsource : source.isInteractive = false)
include hsource

theorem quiet_readOrLog : source.readOrLog.Quiet := by
  refine (quiet_read hsource _).bind fun reply => ?_
  cases reply with
  | error e => exact .bind (.log _) fun _ => .done _
  | ok password => exact .done _

theorem quiet_answer (request : PasswordRequest) : (source.answer request).Quiet := by
  have hread := quiet_readOrLog hsource
  unfold answer
  split
  · exact .bind (.complain _) fun _ => hread
  · exact hread

theorem run_answer (request : PasswordRequest) (w : World) :
    ((source.answer request).run w).1 = ((source.read "Identity password: ").run w).1 := by
  have hread := quiet_readOrLog hsource
  rw [← run_readOrLog]
  unfold answer
  split
  · rw [Program.bind_eq, Program.run_bind]
    exact hread.run_congr ((Program.Quiet.complain _).kept w)
  · rfl

end PasswordSource

/-- Where the host stands. -/
inductive HostPhase where
  | listening
  | answering (request : PasswordRequest)
  | holding (password : String)
  | leaving
  | gone

/-- The session of the driver, its host, and the surroundings. -/
structure Conversation where
  session : UnlockSession
  host : HostPhase := .listening
  world : World

/-- What was done: something that shows in the channels of the session, or a step of the host or of
the command beside them. -/
inductive ConversationDeed where
  | shown (d : UnlockDeed)
  | answered (reply : Except PasswordError String)
  | released
  | stopped
  | parted

namespace Conversation

variable (source : PasswordSource)

/-- What a request makes of the host: only at a terminal it answers a second one. -/
def heeding (request : PasswordRequest) : HostPhase :=
  if request.isRetry && !source.isInteractive then .leaving else .answering request

def afterReply : Except PasswordError String → HostPhase
  | .ok password => .holding password
  | .error _ => .leaving

def afterSubmit : SubmitResult → HostPhase
  | .accepted => .listening
  | .full | .closed => .leaving

/-- Either party takes a step. The command drops the prompt when the driver has finished. A host
that is gone has dropped its ends of the channels, one after the other. -/
inductive Step (c : Conversation) : ConversationDeed → Conversation → Prop where
  | drive {p : Program UnlockSession} (next : c.session.next? = some p) :
      Step c (.shown (c.session.deed c.world))
        { c with session := (p.run c.world).1, world := (p.run c.world).2 }
  | release (finished : c.session.result?.isSome)
      (prompting : c.session.requests.prompting = true) :
      Step c .released
        { c with session := { c.session with requests := c.session.requests.dropPrompt } }
  | hear {request : PasswordRequest} (host : c.host = .listening)
      (heard : c.session.requests.receive.1 = .item request) :
      Step c (.shown (.heard request))
        { c with session := { c.session with requests := c.session.requests.receive.2 },
                 host := heeding source request }
  | answer {request : PasswordRequest} (host : c.host = .answering request) :
      Step c (.answered ((source.answer request).run c.world).1)
        { c with host := afterReply ((source.answer request).run c.world).1,
                 world := ((source.answer request).run c.world).2 }
  | submit {password : String} (host : c.host = .holding password)
      (room : (c.session.submissions.submit password).1 ≠ .full) :
      Step c (.shown (.submitted password (c.session.submissions.submit password).1))
        { c with session := c.session.submit password,
                 host := afterSubmit (c.session.submissions.submit password).1 }
  | stop (host : c.host = .listening) (alone : c.session.requests.receive.1 = .disconnected) :
      Step c .stopped { c with host := .leaving }
  | part (host : c.host = .leaving) :
      Step c .parted
        { c with host := .gone,
                 world := ((Program.log ⟨.debug, .unlocking, "Password host finished", []⟩).run
                   c.world).2 }
  | dropSender (host : c.host = .gone) (sending : c.session.submissions.sending = true) :
      Step c (.shown .left) { c with session := c.session.dropSender }
  | dropListener (host : c.host = .gone) (listening : c.session.requests.listening = true) :
      Step c (.shown .stoppedHearing)
        { c with session := { c.session with requests := c.session.requests.dropListener } }

/-- All interleavings of the two, from a vault that is not loaded yet. -/
abbrev Run (v : Vault) (w : World) : List ConversationDeed → Conversation → Prop :=
  History (Step source) { session := { vault := v }, world := w }

/-- The driver has finished, the prompt is dropped, and the host is gone. -/
structure Done (c : Conversation) : Prop where
  finished : c.session.result?.isSome
  released : c.session.requests.prompting = false
  gone : c.host = .gone

/-- The minutes of what shows in the channels. -/
def minutes : List ConversationDeed → UnlockMinutes
  | [] => {}
  | .shown d :: past => (minutes past).add d
  | _ :: past => minutes past

/-- What was read from the source, the latest in front. -/
def replies : List ConversationDeed → List (Except PasswordError String)
  | [] => []
  | .answered reply :: past => reply :: replies past
  | _ :: past => replies past

end Conversation

namespace PasswordRequest

/-- The number of a request tells how many were made before it. -/
theorem eq_of_append_cons_upTo {r : PasswordRequest} {before behind : List PasswordRequest}
    {n : Nat} (h : before ++ r :: behind = upTo n) : r = ⟨.ofNat (1 + before.length)⟩ := by
  have hr : (upTo n)[before.length]? = some r := by
    rw [← h, List.getElem?_append_right (Nat.le_refl _), Nat.sub_self, List.getElem?_cons_zero]
  have hlt : before.length < n := by
    rw [← length_upTo n, ← h, List.length_append, List.length_cons]
    omega
  rw [upTo, List.getElem?_map, List.getElem?_range' hlt, Nat.one_mul] at hr
  exact (Option.some.inj hr).symm

end PasswordRequest

namespace UnlockSession

variable {s s' : UnlockSession} {k : UnlockMinutes} {d : UnlockDeed} {w w' : World}

theorem Drives.prompting_eq (h : s.Drives w d s') :
    s'.requests.prompting = s.requests.prompting := by
  cases h with
  | loadedSealed | ask => exact s.requests.prompting_request
  | loadFailed | loadedPlain | take | giveUp | attempt | fail | report | conclude => rfl

theorem Drives.watching_eq (h : s.Drives w d s') :
    s'.reports.listening = s.reports.listening := by
  cases h with
  | report => exact s.reports.listening_add _
  | loadFailed | loadedPlain | loadedSealed | take | giveUp | attempt | fail | ask | conclude => rfl

/-- The driver hears nothing, and what it asked stays asked. -/
theorem Drives.keepsHeard (h : s.Drives w d s') :
    (k.add d).heard = k.heard ∧ k.asked ≤ (k.add d).asked := by
  cases h <;> exact ⟨rfl, by simp [UnlockMinutes.add]⟩

/-- What is still to come depends on nothing that a quiet program changes. -/
theorem prospect_congr (s : UnlockSession) (unsent : List String) (h : w.Kept w') :
    s.prospect unsent w' = s.prospect unsent w := by
  unfold prospect Vault.unlocking
  rw [s.vault.quiet_load.run_congr h]

theorem prospect_of_result? (h : s.result?.isSome) (unsent unsent' : List String) :
    s.prospect unsent w = s.prospect unsent' w := by
  obtain ⟨result, phase⟩ := phase_of_isSome_result? h
  simp only [prospect, phase]

end UnlockSession

namespace Conversation

variable {source : PasswordSource} {reply : Except PasswordError String} {k : UnlockMinutes}
  {v : Vault} {w : World} {c c' : Conversation} {d : ConversationDeed}
  {past : List ConversationDeed} {unsent : List String}

/-- Where a host stands that has one reply for its first request: by the minutes, what it has read
and what it may still submit. -/
inductive Hosting (reply : Except PasswordError String) (k : UnlockMinutes) :
    (replies : List (Except PasswordError String)) → HostPhase → (unsent : List String) → Prop where
  | fresh (heard : k.heard = []) (sent : k.sent = []) :
      Hosting reply k [] .listening reply.toOption.toList
  | answering (heard : k.heard = [⟨1⟩]) (sent : k.sent = []) :
      Hosting reply k [] (.answering ⟨1⟩) reply.toOption.toList
  | holding {password : String} (heard : k.heard = [⟨1⟩]) (sent : k.sent = []) :
      Hosting reply k [reply] (.holding password) [password]
  | waiting (heard : k.heard = [⟨1⟩]) (sent : k.sent.length = 1) :
      Hosting reply k [reply] .listening []
  | ending {replies : List (Except PasswordError String)} {host : HostPhase}
      (parting : host = .leaving ∨ host = .gone)
      (read : replies = [] ∨ replies = [reply] ∧ k.heard ≠ []) (sent : k.sent.length ≤ 1) :
      Hosting reply k replies host []

/-- The conversation as a meeting of the driver with a host who submits these passwords. -/
def meeting (c : Conversation) (unsent : List String) : Meeting := ⟨c.session, unsent, c.world⟩

/-- What holds at any point of a conversation that started with this vault. -/
structure Underway (reply : Except PasswordError String) (v : Vault) (w : World)
    (past : List ConversationDeed) (c : Conversation) (unsent : List String) : Prop where
  kept : w.Kept c.world
  hosting : Hosting reply (minutes past) (replies past) c.host unsent
  accounts : ∃ passwords, Meeting.Accounts passwords (minutes past) (c.meeting unsent)
  delivered : c.session.Delivered (minutes past)
  heard : (minutes past).heard.length ≤ (minutes past).asked
  course : (c.meeting unsent).prospect.after (minutes past) = v.unlocking w reply.toOption.toList
  watching : c.session.reports.listening = true
  attending (host : c.host ≠ .gone) : c.session.requests.listening = true
  prompting (released : c.session.requests.prompting = false) : c.session.result?.isSome

/-- A bound for the steps that are left. The ranks of the host weigh less than what shows in the
channels when it hears or submits. -/
def distance (c : Conversation) (unsent : List String) : Nat :=
  3 * (c.meeting unsent).distance + rank c.host + c.session.requests.prompting.toNat
where
  rank : HostPhase → Nat
    | .answering _ => 4
    | .holding _ => 3
    | .listening => 2
    | .leaving => 1
    | .gone => 0

theorem Hosting.congr {k' : UnlockMinutes} {replies : List (Except PasswordError String)}
    {host : HostPhase} (h : Hosting reply k replies host unsent) (heard : k'.heard = k.heard)
    (sent : k'.sent = k.sent) : Hosting reply k' replies host unsent := by
  cases h with
  | fresh hheard hsent => exact .fresh (heard.trans hheard) (sent.trans hsent)
  | answering hheard hsent => exact .answering (heard.trans hheard) (sent.trans hsent)
  | holding hheard hsent => exact .holding (heard.trans hheard) (sent.trans hsent)
  | waiting hheard hsent => exact .waiting (heard.trans hheard) (by rw [sent, hsent])
  | ending parting read hsent =>
    rw [← heard] at read
    exact .ending parting read (by rwa [sent])

section Hosting

variable {replies : List (Except PasswordError String)} {host : HostPhase}

/-- While the host listens it has answered every request that it heard. -/
theorem Hosting.length_heard (h : Hosting reply k replies .listening unsent) :
    k.heard.length = k.sent.length := by
  cases h with
  | fresh heard sent => rw [heard, sent]; rfl
  | waiting heard sent => rw [heard, sent]; rfl
  | ending parting => simp at parting

/-- The first request is answered and a second one is not. -/
theorem Hosting.hear (hsource : source.isInteractive = false) {request : PasswordRequest}
    (h : Hosting reply k replies .listening unsent)
    (number : request = ⟨.ofNat (1 + k.heard.length)⟩) :
    Hosting reply (k.add (.heard request)) replies (heeding source request) unsent := by
  cases h with
  | fresh heard sent =>
    have hfirst : request = ⟨1⟩ := by rw [number, heard]; rfl
    subst hfirst
    exact .answering (by simp [UnlockMinutes.add, heard]) sent
  | waiting heard sent =>
    have hsecond : request = ⟨2⟩ := by rw [number, heard]; rfl
    subst hsecond
    have hretry : (⟨2⟩ : PasswordRequest).isRetry = true := by decide
    have hleaving : heeding source ⟨2⟩ = .leaving := by simp [heeding, hretry, hsource]
    rw [hleaving]
    exact .ending (.inl rfl) (.inr ⟨rfl, by simp [UnlockMinutes.add]⟩) (Nat.le_of_eq sent)
  | ending parting => simp at parting

theorem Hosting.answer {request : PasswordRequest}
    (h : Hosting reply k replies (.answering request) unsent) :
    Hosting reply k (reply :: replies) (afterReply reply) unsent := by
  cases h with
  | answering heard sent =>
    cases reply with
    | error e => exact .ending (.inl rfl) (.inr ⟨rfl, by simp [heard]⟩) (by simp [sent])
    | ok password => exact .holding heard sent
  | ending parting => simp at parting

theorem Hosting.submit {password : String} {answer : SubmitResult} (room : answer ≠ .full)
    (h : Hosting reply k replies (.holding password) unsent) : unsent = [password] ∧
      Hosting reply (k.add (.submitted password answer)) replies (afterSubmit answer) [] := by
  cases h with
  | holding heard sent =>
    refine ⟨rfl, ?_⟩
    cases answer with
    | full => exact absurd rfl room
    | accepted => exact .waiting heard (by simp [UnlockMinutes.add, sent])
    | closed =>
      exact .ending (.inl rfl) (.inr ⟨rfl, by simp [UnlockMinutes.add, heard]⟩)
        (by simp [UnlockMinutes.add, sent])
  | ending parting => simp at parting

theorem Hosting.unsent_eq_nil (h : Hosting reply k replies host unsent)
    (parting : host = .leaving ∨ host = .gone) : unsent = [] := by
  cases h with
  | ending => rfl
  | fresh | answering | holding | waiting => simp at parting

/-- A password is sent at most once. -/
theorem Hosting.sent_le (h : Hosting reply k replies host unsent) : k.sent.length ≤ 1 := by
  cases h with
  | fresh heard sent | answering heard sent | holding heard sent => simp [sent]
  | waiting heard sent => exact Nat.le_of_eq sent
  | ending parting read sent => exact sent

/-- The source is read at most once, and only for a request. -/
theorem Hosting.replies_eq (h : Hosting reply k replies host unsent) :
    replies = [] ∨ replies = [reply] ∧ k.heard ≠ [] := by
  cases h with
  | fresh | answering => exact .inl rfl
  | holding heard | waiting heard => exact .inr ⟨rfl, by simp [heard]⟩
  | ending parting read => exact read

theorem Hosting.part (h : Hosting reply k replies host unsent) {host' : HostPhase}
    (parting : host' = .leaving ∨ host' = .gone) : Hosting reply k replies host' [] :=
  .ending parting h.replies_eq h.sent_le

end Hosting

/-- The conversation goes on as it has to, and nearer to its end. -/
def Proceeds (reply : Except PasswordError String) (v : Vault) (w : World)
    (past : List ConversationDeed) (c : Conversation) (bound : Nat) : Prop :=
  ∃ unsent, Underway reply v w past c unsent ∧ c.distance unsent < bound

section Steps

variable (h : Underway reply v w past c unsent)
include h

/-- What shows in the channels is a step of the meeting. -/
theorem Underway.shown {d : UnlockDeed} {m : Meeting} (hstep : (c.meeting unsent).Step d m) :
    (∃ passwords, Meeting.Accounts passwords ((minutes past).add d) m) ∧
      m.session.Delivered ((minutes past).add d) ∧
      m.prospect.after ((minutes past).add d) = v.unlocking w reply.toOption.toList ∧
      m.distance < (c.meeting unsent).distance := by
  obtain ⟨passwords, haccounts⟩ := h.accounts
  exact ⟨⟨passwords, haccounts.step hstep⟩, Meeting.delivered_step h.delivered hstep,
    (Meeting.prospect_step haccounts hstep).trans h.course, hstep.distance_lt⟩

theorem Underway.course_of_kept {w' : World} (hkept : c.world.Kept w') {host : HostPhase} :
    (meeting ⟨c.session, host, w'⟩ unsent).prospect.after (minutes past) =
      v.unlocking w reply.toOption.toList := by
  have hbefore := h.course
  simp only [meeting, Meeting.prospect, c.session.prospect_congr unsent hkept] at hbefore ⊢
  exact hbefore

theorem Underway.drive {p : Program UnlockSession} (next : c.session.next? = some p) :
    Proceeds reply v w (.shown (c.session.deed c.world) :: past)
      { c with session := (p.run c.world).1, world := (p.run c.world).2 } (c.distance unsent) := by
  have hdrive := UnlockSession.next_drives c.world next
  obtain ⟨haccounts, hdelivered, hcourse, hdistance⟩ := h.shown (.drive next)
  obtain ⟨hheard, hasked⟩ := hdrive.keepsHeard (k := minutes past)
  obtain ⟨hsent, -, -⟩ := hdrive.keepsSender (k := minutes past)
  refine ⟨unsent, ⟨?_, h.hosting.congr hheard hsent, haccounts, hdelivered, ?_, hcourse, ?_, ?_,
    ?_⟩, ?_⟩
  · exact h.kept.trans ((UnlockSession.quiet_next next).kept c.world)
  · rw [minutes, hheard]
    exact Nat.le_trans h.heard hasked
  · exact hdrive.watching_eq.trans h.watching
  · exact fun host => hdrive.listening_eq.trans (h.attending host)
  · intro hreleased
    have hfinished := h.prompting (hdrive.prompting_eq.symm.trans hreleased)
    simp [hdrive.running] at hfinished
  · have hprompting := hdrive.prompting_eq
    simp only [distance, meeting, hprompting] at hdistance ⊢
    omega

theorem Underway.release (finished : c.session.result?.isSome)
    (prompting : c.session.requests.prompting = true) :
    Proceeds reply v w (.released :: past)
      { c with session := { c.session with requests := c.session.requests.dropPrompt } }
      (c.distance unsent) := by
  obtain ⟨passwords, haccounts⟩ := h.accounts
  refine ⟨unsent, ⟨h.kept, h.hosting, ⟨passwords, ?_⟩, ?_, h.heard, h.course, h.watching,
    h.attending, fun _ => finished⟩, ?_⟩
  · exact ⟨haccounts.passwords, haccounts.left, haccounts.balanced.congr rfl rfl rfl⟩
  · exact ⟨h.delivered.issued, h.delivered.requests, h.delivered.results⟩
  · simp [distance, meeting, Meeting.distance, PromptChannel.dropPrompt, prompting]

theorem Underway.hear (hsource : source.isInteractive = false) {request : PasswordRequest}
    (host : c.host = .listening) (heard : c.session.requests.receive.1 = .item request) :
    Proceeds reply v w (.shown (.heard request) :: past)
      { c with session := { c.session with requests := c.session.requests.receive.2 },
               host := heeding source request } (c.distance unsent) := by
  obtain ⟨haccounts, hdelivered, hcourse, hdistance⟩ := h.shown (.host (.hear heard))
  have hlistening := h.attending (by simp [host])
  have hupTo := h.delivered.requests hlistening
  rw [c.session.requests.pending_of_receive heard] at hupTo
  have hnumber := PasswordRequest.eq_of_append_cons_upTo hupTo
  have hasked := congrArg List.length hupTo
  rw [PasswordRequest.length_upTo, List.length_append, List.length_cons] at hasked
  have hosting := h.hosting
  rw [host] at hosting
  have hrank : distance.rank (heeding source request) ≤ 4 := by
    unfold heeding
    split <;> simp [distance.rank]
  refine ⟨unsent, ⟨h.kept, hosting.hear hsource hnumber, haccounts, hdelivered, ?_, hcourse,
    h.watching, ?_, ?_⟩, ?_⟩
  · simp only [minutes, UnlockMinutes.add, List.length_append, List.length_singleton]
    omega
  · exact fun _ => c.session.requests.listening_receive.trans hlistening
  · intro hreleased
    exact h.prompting (c.session.requests.prompting_receive.symm.trans hreleased)
  · have hbefore : distance.rank c.host = 2 := by rw [host]; rfl
    simp only [distance, meeting, PromptChannel.prompting_receive] at hdistance ⊢
    omega

/-- The reply of the source is the one that it would have given at the start. -/
theorem Underway.answer (hsource : source.isInteractive = false)
    (hreply : ((source.read "Identity password: ").run w).1 = reply) {request : PasswordRequest}
    (host : c.host = .answering request) :
    Proceeds reply v w (.answered ((source.answer request).run c.world).1 :: past)
      { c with host := afterReply ((source.answer request).run c.world).1,
               world := ((source.answer request).run c.world).2 } (c.distance unsent) := by
  have hkept := (PasswordSource.quiet_answer hsource request).kept c.world
  have hread : ((source.answer request).run c.world).1 = reply := by
    rw [PasswordSource.run_answer hsource, ← hreply]
    exact (PasswordSource.quiet_read hsource _).run_congr h.kept
  have hosting := h.hosting
  rw [host] at hosting
  obtain ⟨passwords, haccounts⟩ := h.accounts
  have hrank : distance.rank (afterReply reply) ≤ 3 := by
    cases reply <;> simp [afterReply, distance.rank]
  rw [hread]
  refine ⟨unsent, ⟨h.kept.trans hkept, hosting.answer, ⟨passwords, ?_⟩, h.delivered, h.heard,
    h.course_of_kept hkept, h.watching, ?_, h.prompting⟩, ?_⟩
  · exact ⟨haccounts.passwords, haccounts.left, haccounts.balanced⟩
  · exact fun _ => h.attending (by simp [host])
  · have hbefore : distance.rank c.host = 4 := by rw [host]; rfl
    simp only [distance, meeting, Meeting.distance]
    omega

theorem Underway.submit {password : String} (host : c.host = .holding password)
    (room : (c.session.submissions.submit password).1 ≠ .full) :
    Proceeds reply v w
      (.shown (.submitted password (c.session.submissions.submit password).1) :: past)
      { c with session := c.session.submit password,
               host := afterSubmit (c.session.submissions.submit password).1 }
      (c.distance unsent) := by
  have hosting := h.hosting
  rw [host] at hosting
  obtain ⟨rfl, hhosting⟩ := hosting.submit room
  obtain ⟨haccounts, hdelivered, hcourse, hdistance⟩ := h.shown (.host (.submit rfl room))
  have hrank : distance.rank (afterSubmit (c.session.submissions.submit password).1) ≤ 2 := by
    cases (c.session.submissions.submit password).1 <;> simp [afterSubmit, distance.rank]
  refine ⟨[], ⟨h.kept, hhosting, haccounts, hdelivered, ?_, hcourse, h.watching, ?_, h.prompting⟩,
    ?_⟩
  · have hbefore := h.heard
    cases hanswer : (c.session.submissions.submit password).1 <;> exact hbefore
  · exact fun _ => h.attending (by simp [host])
  · have hbefore : distance.rank c.host = 3 := by rw [host]; rfl
    simp only [distance, meeting, UnlockSession.submit] at hdistance ⊢
    omega

/-- A host finds the prompt dropped only when the driver has finished, and has nothing to do with
it. -/
theorem Underway.stop (host : c.host = .listening)
    (alone : c.session.requests.receive.1 = .disconnected) :
    Proceeds reply v w (.stopped :: past) { c with host := .leaving } (c.distance unsent) := by
  obtain ⟨-, hprompting⟩ := c.session.requests.disconnected_iff.1 alone
  have hcourse :=
    UnlockSession.prospect_of_result? (w := c.world) (h.prompting hprompting) [] unsent
  obtain ⟨passwords, haccounts⟩ := h.accounts
  refine ⟨[], ⟨h.kept, h.hosting.part (.inl rfl), ⟨_, rfl, fun _ => rfl, haccounts.balanced⟩,
    h.delivered, h.heard, ?_, h.watching, fun _ => h.attending (by simp [host]), h.prompting⟩, ?_⟩
  · have hbefore := h.course
    simp only [meeting, Meeting.prospect, hcourse] at hbefore ⊢
    exact hbefore
  · have hbefore : distance.rank c.host = 2 := by rw [host]; rfl
    have hafter : distance.rank .leaving = 1 := rfl
    simp only [distance, meeting, Meeting.distance, List.length_nil]
    omega

theorem Underway.part (host : c.host = .leaving) :
    Proceeds reply v w (.parted :: past)
      { c with host := .gone,
               world := ((Program.log ⟨.debug, .unlocking, "Password host finished", []⟩).run
                 c.world).2 } (c.distance unsent) := by
  have hkept := (Program.Quiet.log ⟨.debug, .unlocking, "Password host finished", []⟩).kept c.world
  obtain rfl := h.hosting.unsent_eq_nil (.inl host)
  obtain ⟨passwords, haccounts⟩ := h.accounts
  refine ⟨[], ⟨h.kept.trans hkept, h.hosting.part (.inr rfl),
    ⟨_, rfl, fun _ => rfl, haccounts.balanced⟩, h.delivered, h.heard, h.course_of_kept hkept,
    h.watching, fun hgone => absurd rfl hgone, h.prompting⟩, ?_⟩
  have hbefore : distance.rank c.host = 1 := by rw [host]; rfl
  have hafter : distance.rank .gone = 0 := rfl
  simp only [distance, meeting, Meeting.distance]
  omega

theorem Underway.dropSender (host : c.host = .gone)
    (sending : c.session.submissions.sending = true) :
    Proceeds reply v w (.shown .left :: past) { c with session := c.session.dropSender }
      (c.distance unsent) := by
  obtain rfl := h.hosting.unsent_eq_nil (.inr host)
  obtain ⟨haccounts, hdelivered, hcourse, hdistance⟩ := h.shown (.host (.leave rfl sending))
  refine ⟨[], ⟨h.kept, h.hosting.part (.inr host), haccounts, hdelivered, h.heard, hcourse,
    h.watching, fun hgone => absurd host hgone, h.prompting⟩, ?_⟩
  simp only [distance, meeting, UnlockSession.dropSender] at hdistance ⊢
  omega

theorem Underway.dropListener (host : c.host = .gone)
    (listening : c.session.requests.listening = true) :
    Proceeds reply v w (.shown .stoppedHearing :: past)
      { c with session := { c.session with requests := c.session.requests.dropListener } }
      (c.distance unsent) := by
  obtain rfl := h.hosting.unsent_eq_nil (.inr host)
  obtain ⟨haccounts, hdelivered, hcourse, hdistance⟩ := h.shown (.host (.stopHearing listening))
  refine ⟨[], ⟨h.kept, h.hosting.part (.inr host), haccounts, hdelivered, h.heard, hcourse,
    h.watching, fun hgone => absurd host hgone, h.prompting⟩, ?_⟩
  simp only [distance, meeting, PromptChannel.dropListener] at hdistance ⊢
  omega

theorem Underway.step (hsource : source.isInteractive = false)
    (hreply : ((source.read "Identity password: ").run w).1 = reply) (hstep : c.Step source d c') :
    Proceeds reply v w (d :: past) c' (c.distance unsent) := by
  cases hstep with
  | drive next => exact h.drive next
  | release finished prompting => exact h.release finished prompting
  | hear host heard => exact h.hear hsource host heard
  | answer host => exact h.answer hsource hreply host
  | submit host room => exact h.submit host room
  | stop host alone => exact h.stop host alone
  | part host => exact h.part host
  | dropSender host sending => exact h.dropSender host sending
  | dropListener host listening => exact h.dropListener host listening

end Steps

theorem underway_start (reply : Except PasswordError String) (v : Vault) (w : World) :
    Underway reply v w [] { session := { vault := v }, world := w } reply.toOption.toList where
  kept := .refl w
  hosting := .fresh rfl rfl
  accounts := ⟨_, Meeting.accounts_start v _ w⟩
  delivered := ⟨rfl, fun _ => rfl, fun _ => rfl⟩
  heard := Nat.le_refl 0
  course := UnlockCourse.after_start _
  watching := rfl
  attending _ := rfl
  prompting released := by cases released

/-- What holds after every step, and how far a conversation has come. -/
theorem Run.underway (hsource : source.isInteractive = false)
    (hreply : ((source.read "Identity password: ").run w).1 = reply) (h : Run source v w past c) :
    ∃ unsent, Underway reply v w past c unsent ∧ past.length + c.distance unsent ≤ 48 := by
  induction h with
  | start =>
    refine ⟨_, underway_start reply v w, ?_⟩
    cases reply <;> simp [distance, distance.rank, meeting, Meeting.distance,
      Meeting.distance.ahead, Except.toOption]
  | next before taken ih =>
    obtain ⟨unsent, hunderway, hbound⟩ := ih
    obtain ⟨unsent', hnext, hnearer⟩ := hunderway.step hsource hreply taken
    refine ⟨unsent', hnext, ?_⟩
    rw [List.length_cons]
    omega

end Conversation

end IdentityVault
