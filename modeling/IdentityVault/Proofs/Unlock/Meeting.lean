import IdentityVault.Proofs.Program.History
import IdentityVault.Proofs.Unlock.Channels
import IdentityVault.Proofs.Unlock.Driver

/-! The driver and its host. Each takes its steps whenever it can: the host submits a list of
passwords in order, hears requests, and leaves; either listener may stop at any time. What was done
is kept in minutes, and the minutes fit the channels at all times. -/
namespace IdentityVault

/-- What the deeds of the driver and its host come to, each list in order. -/
structure UnlockMinutes where
  sent : List String := []
  refused : List String := []
  taken : List String := []
  tried : List String := []
  reported : List AttemptResult := []
  asked : Nat := 0
  heard : List PasswordRequest := []

namespace UnlockMinutes

def add (k : UnlockMinutes) : UnlockDeed → UnlockMinutes
  | .loaded (.ok .awaitingPassword) => { k with asked := k.asked + 1 }
  | .took password => { k with taken := k.taken ++ [password] }
  | .tried password => { k with tried := k.tried ++ [password] }
  | .reported result => { k with reported := k.reported ++ [result] }
  | .asked => { k with asked := k.asked + 1 }
  | .submitted password .accepted => { k with sent := k.sent ++ [password] }
  | .submitted password .closed => { k with refused := k.refused ++ [password] }
  | .heard request => { k with heard := k.heard ++ [request] }
  | _ => k

/-- The minutes of a history, whose latest deed is in front. -/
def ofHistory (past : List UnlockDeed) : UnlockMinutes := past.foldr (fun d k => k.add d) {}

end UnlockMinutes

/-- The driver, the passwords that the host still has, and the surroundings. -/
structure Meeting where
  session : UnlockSession
  unsent : List String
  world : World

namespace Meeting

/-- A move of the host. It submits when there is room or when the driver has gone, and leaves when
it has nothing more to submit. -/
inductive Hosts (m : Meeting) : UnlockDeed → Meeting → Prop where
  | submit {password : String} {rest : List String} (unsent : m.unsent = password :: rest)
      (room : (m.session.submissions.submit password).1 ≠ .full) :
      Hosts m (.submitted password (m.session.submissions.submit password).1)
        { m with session := m.session.submit password, unsent := rest }
  | leave (unsent : m.unsent = []) (sending : m.session.submissions.sending = true) :
      Hosts m .left { m with session := m.session.dropSender }
  | hear {request : PasswordRequest} (heard : m.session.requests.receive.1 = .item request) :
      Hosts m (.heard request)
        { m with session := { m.session with requests := m.session.requests.receive.2 } }
  | stopHearing (listening : m.session.requests.listening = true) :
      Hosts m .stoppedHearing
        { m with session := { m.session with requests := m.session.requests.dropListener } }
  | stopWatching (listening : m.session.reports.listening = true) :
      Hosts m .stoppedWatching
        { m with session := { m.session with reports := m.session.reports.dropListener } }

/-- Either party takes a step. -/
inductive Step (m : Meeting) : UnlockDeed → Meeting → Prop where
  | drive {p : Program UnlockSession} (next : m.session.next? = some p) :
      Step m (m.session.deed m.world) ⟨(p.run m.world).1, m.unsent, (p.run m.world).2⟩
  | host {d : UnlockDeed} {m' : Meeting} (move : m.Hosts d m') : Step m d m'

/-- The driver with a vault, before it has loaded it, and a host with passwords. -/
def start (v : Vault) (passwords : List String) (w : World) : Meeting :=
  ⟨{ vault := v }, passwords, w⟩

/-- All interleavings of the two. -/
abbrev Run (v : Vault) (passwords : List String) (w : World) : List UnlockDeed → Meeting → Prop :=
  History Step (start v passwords w)

end Meeting

namespace UnlockSession

/-- The password that is being tried. -/
def held (s : UnlockSession) : Option String :=
  match s.phase with
  | .trying password => some password
  | _ => none

/-- How many requests the driver has made that no attempt has answered yet. -/
def unanswered (s : UnlockSession) : Nat :=
  match s.phase with
  | .waiting | .trying _ => 1
  | _ => 0

/-- How the minutes fit the driver's end of the channel for passwords. -/
inductive Balanced (k : UnlockMinutes) (s : UnlockSession) : Prop where
  | underway (running : s.result? = none) (receiving : s.submissions.receiving = true)
      (refused : k.refused = []) (queued : k.sent = k.taken ++ s.submissions.slot.toList)
      (taken : k.taken = k.tried ++ s.held.toList) (asked : k.asked = k.tried.length + s.unanswered)
  | ended (finished : s.result?.isSome) (receiving : s.submissions.receiving = false)
      (queued : ∃ queue : Option String, k.sent = k.taken ++ queue.toList)
      (taken : k.taken = k.tried)

variable {s s' : UnlockSession} {k : UnlockMinutes} {d : UnlockDeed} {w : World}

theorem Drives.running (h : s.Drives w d s') : s.result? = none := by
  cases h <;> simp [result?, *]

/-- The driver leaves the host's end of the channel alone. -/
theorem Drives.keepsSender (h : s.Drives w d s') :
    (k.add d).sent = k.sent ∧ (k.add d).refused = k.refused ∧
      s'.submissions.sending = s.submissions.sending := by
  cases h <;> exact ⟨rfl, rfl, rfl⟩

theorem Balanced.drive (h : Balanced k s) (hdrive : s.Drives w d s') : Balanced (k.add d) s' := by
  cases h with
  | ended finished =>
    rw [hdrive.running] at finished
    cases finished
  | underway running receiving refused queued taken asked =>
    cases hdrive with
    | loadFailed phase | giveUp phase | fail phase | conclude phase =>
      simp only [held, phase, Option.toList_none, List.append_nil] at taken
      exact .ended rfl rfl ⟨_, queued⟩ taken
    | loadedPlain phase =>
      simp only [held, unanswered, phase] at taken asked
      exact .underway rfl receiving refused queued taken asked
    | loadedSealed phase =>
      simp only [held, unanswered, phase] at taken asked
      exact .underway rfl receiving refused queued taken (congrArg (· + 1) asked)
    | take phase slot =>
      simp only [held, unanswered, phase, Option.toList_none, List.append_nil] at taken asked
      rw [slot, Option.toList_some] at queued
      refine .underway rfl receiving refused ?_ (congrArg (· ++ _) taken) asked
      rw [Option.toList_none, List.append_nil]
      exact queued
    | attempt phase =>
      simp only [held, unanswered, phase] at taken asked
      refine .underway rfl receiving refused queued ?_ ?_
      · rw [held, Option.toList_none, List.append_nil]
        exact taken
      · rw [UnlockMinutes.add, List.length_append]
        exact asked
    | report phase =>
      simp only [held, unanswered, phase] at taken asked
      exact .underway rfl receiving refused queued taken asked
    | ask phase =>
      simp only [held, unanswered, phase] at taken asked
      exact .underway rfl receiving refused queued taken (congrArg (· + 1) asked)

/-- A password that is submitted is queued, or refused for good. -/
theorem Balanced.submit {password : String} (h : Balanced k s)
    (room : (s.submissions.submit password).1 ≠ .full) :
    let after := k.add (.submitted password (s.submissions.submit password).1)
    after.sent ++ after.refused = k.sent ++ k.refused ++ [password] ∧
      (s.submit password).submissions.sending = s.submissions.sending ∧
      Balanced after (s.submit password) := by
  cases h with
  | underway running receiving refused queued taken asked =>
    obtain ⟨hslot, hsubmit⟩ :=
      s.submissions.submit_of_receiving password receiving room
    rw [UnlockSession.submit, hsubmit]
    rw [hslot, Option.toList_none, List.append_nil] at queued
    refine ⟨?_, rfl, .underway running receiving refused ?_ taken asked⟩
    · simp only [UnlockMinutes.add, refused, List.append_nil]
    · rw [UnlockMinutes.add, queued, Option.toList_some]
  | ended finished receiving queued taken =>
    rw [UnlockSession.submit, s.submissions.submit_of_not_receiving password receiving]
    exact ⟨(List.append_assoc ..).symm, rfl, .ended finished receiving queued taken⟩

/-- What the host does with the other channels does not matter here. -/
theorem Balanced.congr {heard : List PasswordRequest} (h : Balanced k s)
    (phase : s'.phase = s.phase) (slot : s'.submissions.slot = s.submissions.slot)
    (same : s'.submissions.receiving = s.submissions.receiving) :
    Balanced { k with heard := heard } s' := by
  have hresult : s'.result? = s.result? := by simp only [result?, phase]
  have hheld : s'.held = s.held := by simp only [held, phase]
  have hunanswered : s'.unanswered = s.unanswered := by simp only [unanswered, phase]
  cases h with
  | underway running receiving refused queued taken asked =>
    refine .underway (hresult.trans running) (same.trans receiving) refused ?_ ?_ ?_
    · rwa [slot]
    · rwa [hheld]
    · rwa [hunanswered]
  | ended finished receiving queued taken =>
    exact .ended (by rwa [hresult]) (same.trans receiving) queued taken

/-- How the minutes fit what has been given to the listeners. -/
structure Delivered (k : UnlockMinutes) (s : UnlockSession) : Prop where
  issued : s.requests.issued = .ofNat k.asked
  requests (listening : s.requests.listening = true) :
    k.heard ++ s.requests.pending = PasswordRequest.upTo k.asked
  results (listening : s.reports.listening = true) : s.reports.results = k.reported

theorem Delivered.request (h : Delivered k s) (vault : Vault) (phase : UnlockPhase) :
    Delivered { k with asked := k.asked + 1 }
      { s with vault := vault, phase := phase, requests := s.requests.request.1 } where
  issued := by
    rw [s.requests.issued_request, h.issued]
    exact (UInt32.ofNat_add k.asked 1).symm
  requests listening := by
    rw [s.requests.listening_request] at listening
    rw [s.requests.pending_request listening, ← List.append_assoc, h.requests listening, h.issued,
      PasswordRequest.upTo_succ]
  results := h.results

theorem Delivered.report (h : Delivered k s) (phase : UnlockPhase) (result : AttemptResult) :
    Delivered (k.add (.reported result))
      { s with phase := phase, reports := (s.reports.add result).1 } where
  issued := h.issued
  requests := h.requests
  results listening := by
    rw [s.reports.listening_add] at listening
    rw [s.reports.results_add result listening, h.results listening]
    rfl

theorem Delivered.drive (h : Delivered k s) (hdrive : s.Drives w d s') :
    Delivered (k.add d) s' := by
  cases hdrive with
  | loadedSealed | ask => exact h.request _ _
  | report => exact h.report _ _
  | loadFailed | loadedPlain | take | giveUp | attempt | fail | conclude =>
    exact ⟨h.issued, h.requests, h.results⟩

theorem Delivered.submit {password : String} {a : SubmitResult} (h : Delivered k s) :
    Delivered (k.add (.submitted password a)) (s.submit password) := by
  cases a <;> exact ⟨h.issued, h.requests, h.results⟩

theorem Delivered.hear {request : PasswordRequest} (h : Delivered k s)
    (heard : s.requests.receive.1 = .item request) :
    Delivered (k.add (.heard request)) { s with requests := s.requests.receive.2 } where
  issued := s.requests.issued_receive.trans h.issued
  requests listening := by
    rw [s.requests.listening_receive] at listening
    rw [UnlockMinutes.add, List.append_assoc, List.singleton_append,
      ← s.requests.pending_of_receive heard]
    exact h.requests listening
  results := h.results

end UnlockSession

namespace Meeting

variable {m m' : Meeting} {d : UnlockDeed} {past later : List UnlockDeed} {passwords : List String}
  {k : UnlockMinutes} {v : Vault} {w : World}

/-- How the passwords of the host are spread over the minutes and the meeting. -/
structure Accounts (passwords : List String) (k : UnlockMinutes) (m : Meeting) : Prop where
  passwords : k.sent ++ k.refused ++ m.unsent = passwords
  left (gone : m.session.submissions.sending = false) : m.unsent = []
  balanced : m.session.Balanced k

theorem accounts_start (v : Vault) (passwords : List String) (w : World) :
    Accounts passwords {} (start v passwords w) where
  passwords := rfl
  left h := by cases h
  balanced := .underway rfl rfl rfl rfl rfl rfl

theorem Accounts.step (h : Accounts passwords k m) (hstep : m.Step d m') :
    Accounts passwords (k.add d) m' := by
  cases hstep with
  | drive next =>
    have hdrive := UnlockSession.next_drives m.world next
    obtain ⟨hsent, hrefused, hsending⟩ := hdrive.keepsSender
    refine ⟨?_, ?_, h.balanced.drive hdrive⟩
    · rw [hsent, hrefused]
      exact h.passwords
    · rw [hsending]
      exact h.left
  | host move =>
    cases move with
    | submit unsent room =>
      obtain ⟨hlists, hsending, hbalanced⟩ := h.balanced.submit room
      refine ⟨?_, fun gone => ?_, hbalanced⟩
      · rw [hlists, ← h.passwords, unsent, List.append_assoc]
        rfl
      · have hnil := h.left (hsending.symm.trans gone)
        rw [unsent] at hnil
        cases hnil
    | leave unsent => exact ⟨h.passwords, fun _ => unsent, h.balanced.congr rfl rfl rfl⟩
    | hear | stopHearing | stopWatching => exact ⟨h.passwords, h.left, h.balanced.congr rfl rfl rfl⟩

theorem delivered_step (h : m.session.Delivered k) (hstep : m.Step d m') :
    m'.session.Delivered (k.add d) := by
  cases hstep with
  | drive next => exact h.drive (UnlockSession.next_drives m.world next)
  | host move =>
    cases move with
    | submit => exact h.submit
    | leave => exact ⟨h.issued, h.requests, h.results⟩
    | hear heard => exact h.hear heard
    | stopHearing => exact ⟨h.issued, nofun, h.results⟩
    | stopWatching => exact ⟨h.issued, h.requests, nofun⟩

theorem Run.delivered (h : Run v passwords w past m) :
    m.session.Delivered (.ofHistory past) := by
  induction h with
  | start => exact ⟨rfl, fun _ => rfl, fun _ => rfl⟩
  | next _ hstep ih => exact delivered_step ih hstep

theorem Run.keepsAccounts (h : Run v passwords w past m) :
    Accounts passwords (.ofHistory past) m := by
  induction h with
  | start => exact accounts_start v passwords w
  | next _ hstep ih => exact ih.step hstep

end Meeting

end IdentityVault
