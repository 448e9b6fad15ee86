import IdentityVault.Proofs.Store.Loading

/-! What one load and one attempt to unlock can come to. What holds of a vault over its whole life
is read off these cases. -/
namespace IdentityVault

/-- What a program makes of the reply to a reading. A file that is not there is no error. -/
inductive ReadsAs (p : Path) :
    Except OsError Bytes → Except StoreError (Option Bytes) → Prop where
  | content (content : Bytes) : ReadsAs p (.ok content) (.ok (some content))
  | absent : ReadsAs p (.error .notFound) (.ok none)
  | unreadable {cause : OsError} (other : cause ≠ .notFound) :
      ReadsAs p (.error cause) (.error (.io p cause))

theorem ReadsAs.unique {p : Path} {read : Except OsError Bytes}
    {reply reply' : Except StoreError (Option Bytes)} (h : ReadsAs p read reply)
    (h' : ReadsAs p read reply') : reply = reply' := by
  cases h with
  | content =>
    cases h'
    rfl
  | absent =>
    cases h' with
    | absent => rfl
    | unreadable other => exact absurd rfl other
  | unreadable other =>
    cases h' with
    | absent => exact absurd rfl other
    | unreadable => rfl

theorem runAmid_readOptional {α : Type} (p : Path)
    (next : Except StoreError (Option Bytes) → Program α) (disks : Nat → FileSystem) (n : Nat)
    (w : World) : ∃ reply, ReadsAs p ((disks n).contentAt p) reply ∧
      ((readOptional p).bind next).runAmid disks n w =
        (next reply).runAmid disks (n + 1) { w with disk := disks n } := by
  simp only [readOptional, Program.perform, Program.bind_eq, Program.call_bind, Program.done_bind,
    Program.runAmid, World.answer]
  cases (disks n).contentAt p with
  | ok content => exact ⟨_, .content content, rfl⟩
  | error cause =>
    cases cause with
    | notFound => exact ⟨_, .absent, rfl⟩
    | noSuchDevice | alreadyExists | notADirectory | isADirectory | directoryNotEmpty | nameTooLong
      | zeroInPath | invalidText | other => exact ⟨_, .unreadable (by simp), rfl⟩

theorem Program.passwordRequests_logAll (log : List LogEvent) (w : World) :
    ((Program.logAll log).run w).2.passwordRequests = w.passwordRequests := by
  induction log generalizing w with
  | nil => rfl
  | cons e rest ih =>
    rw [Program.logAll, Program.run_bind, ih]
    simp [Program.log, Program.perform, World.answer, World.passwordRequests]

namespace Vault

/-- Why a load fails. Its first call finds the disk `disks 0`, its second one `disks 1`. -/
inductive LoadFailure (v : Vault) (disks : Nat → FileSystem) : StoreError → Prop where
  | invalidState (loaded : v.state ≠ .unloaded) : LoadFailure v disks (.invalidState v.state)
  | missing (fresh : v.state = .unloaded)
      (read : (disks 0).contentAt v.layout.identityKey = .error .notFound) :
      LoadFailure v disks (.missingIdentity v.layout.identityKey)
  | unreadable {cause : OsError} (fresh : v.state = .unloaded) (other : cause ≠ .notFound)
      (read : (disks 0).contentAt v.layout.identityKey = .error cause) :
      LoadFailure v disks (.io v.layout.identityKey cause)
  | corrupt {content : Bytes} (fresh : v.state = .unloaded)
      (read : (disks 0).contentAt v.layout.identityKey = .ok content)
      (plain : content.length ≠ Bundle.plainLength)
      (sealed : content.length ≠ Bundle.sealedLength) :
      LoadFailure v disks (.corruptIdentity content.length)
  | unreadableSalt {payload : Bytes} {cause : OsError} (fresh : v.state = .unloaded)
      (read : (disks 0).contentAt v.layout.identityKey = .ok payload)
      (length : payload.length = Bundle.sealedLength) (other : cause ≠ .notFound)
      (salt : (disks 1).contentAt v.layout.salt = .error cause) :
      LoadFailure v disks (.io v.layout.salt cause)

/-- How a load ends: its reply, the vault after it, and how many passwords it asks for. -/
inductive LoadEnd (v : Vault) (disks : Nat → FileSystem) :
    Except StoreError StoreState → Vault → Nat → Prop where
  | failed {e : StoreError} (why : LoadFailure v disks e) : LoadEnd v disks (.error e) v 0
  | plain {identity : Bytes} (fresh : v.state = .unloaded)
      (read : (disks 0).contentAt v.layout.identityKey = .ok identity)
      (length : identity.length = Bundle.plainLength) :
      LoadEnd v disks (.ok .ready) { v with contents := .ready identity none } 0
  | sealed {payload : Bytes} {salt : Option Bytes} (fresh : v.state = .unloaded)
      (read : (disks 0).contentAt v.layout.identityKey = .ok payload)
      (length : payload.length = Bundle.sealedLength)
      (found : ReadsAs v.layout.salt ((disks 1).contentAt v.layout.salt) (.ok salt)) :
      LoadEnd v disks (.ok .awaitingPassword)
        { v with contents := .awaitingPassword payload salt } 1

theorem loadEnd (v : Vault) (disks : Nat → FileSystem) (w : World) :
    ∃ asked, LoadEnd v disks (v.load.runAmid disks 0 w).1.1 (v.load.runAmid disks 0 w).1.2 asked ∧
      (v.load.runAmid disks 0 w).2.passwordRequests = w.passwordRequests + asked := by
  obtain ⟨l, contents⟩ := v
  cases contents with
  | awaitingPassword | ready => exact ⟨0, .failed (.invalidState (by simp [state])), rfl⟩
  | unloaded =>
    simp only [load, Program.bind_eq]
    obtain ⟨reply, hreply, hrun⟩ := runAmid_readOptional l.identityKey _ disks 0 w
    rw [hrun]
    clear hrun
    generalize hread : (disks 0).contentAt l.identityKey = read at hreply
    cases hreply with
    | absent =>
      refine ⟨0, .failed (.missing rfl hread), ?_⟩
      simp [Program.log, Program.perform, Program.runAmid, World.answer, World.passwordRequests]
    | unreadable hother => exact ⟨0, .failed (.unreadable rfl hother hread), rfl⟩
    | content content =>
      by_cases hplain : content.length = Bundle.plainLength
      · simp only [Bundle.ofBytes_of_plainLength hplain]
        refine ⟨0, .plain rfl hread hplain, ?_⟩
        simp [Program.log, Program.perform, Program.runAmid, World.answer, World.passwordRequests]
      by_cases hsealed : content.length = Bundle.sealedLength
      · simp only [Bundle.ofBytes_of_sealedLength hsealed]
        obtain ⟨reply, hreply, hrun⟩ :=
          runAmid_readOptional l.salt _ disks 1 { w with disk := disks 0 }
        rw [hrun]
        clear hrun
        cases reply with
        | ok salt =>
          have hend : LoadEnd ⟨l, .unloaded⟩ disks (.ok .awaitingPassword)
              ⟨l, .awaitingPassword content salt⟩ 1 := .sealed rfl hread hsealed hreply
          refine ⟨1, ?_⟩
          cases salt <;> refine ⟨hend, ?_⟩ <;>
            simp [Program.log, Program.perform, Program.runAmid, World.answer,
              World.passwordRequests]
        | error e =>
          generalize hsalt : (disks 1).contentAt l.salt = read at hreply
          cases hreply with
          | unreadable hother =>
            exact ⟨0, .failed (.unreadableSalt rfl hread hsealed hother hsalt), rfl⟩
      · simp only [Bundle.ofBytes_of_other hplain hsealed]
        refine ⟨0, .failed (.corrupt rfl hread hplain hsealed), ?_⟩
        simp [Program.log, Program.perform, Program.runAmid, World.answer, World.passwordRequests]

/-- On a disk that nobody else changes. -/
theorem run_loadEnd (v : Vault) (w : World) :
    ∃ asked, LoadEnd v (fun _ => w.disk) (v.load.run w).1.1 (v.load.run w).1.2 asked ∧
      (v.load.run w).2.passwordRequests = w.passwordRequests + asked := by
  rw [(readsOnly_load v).run_eq_runAmid w 0]
  exact v.loadEnd (fun _ => w.disk) w

/-- A sealed identity, and this salt beside it if there is one, are there to be loaded. -/
structure FindsSealed (v : Vault) (disk : FileSystem) (payload : Bytes) (salt : Option Bytes) :
    Prop where
  fresh : v.state = .unloaded
  read : disk.contentAt v.layout.identityKey = .ok payload
  length : payload.length = Bundle.sealedLength
  found : ReadsAs v.layout.salt (disk.contentAt v.layout.salt) (.ok salt)

theorem LoadEnd.of_findsSealed {v v' : Vault} {disk : FileSystem} {payload : Bytes}
    {salt : Option Bytes} {reply : Except StoreError StoreState} {asked : Nat}
    (h : v.FindsSealed disk payload salt) (hend : LoadEnd v (fun _ => disk) reply v' asked) :
    reply = .ok .awaitingPassword ∧ v' = { v with contents := .awaitingPassword payload salt } := by
  cases hend with
  | failed why =>
    exfalso
    cases why with
    | invalidState loaded => exact loaded h.fresh
    | missing fresh read | unreadable fresh other read => cases h.read.symm.trans read
    | corrupt fresh read plain sealed =>
      cases h.read.symm.trans read
      exact sealed h.length
    | unreadableSalt fresh read length other salt =>
      have hfound := h.found
      rw [salt] at hfound
      cases hfound with
      | absent => exact other rfl
  | plain fresh read length =>
    cases h.read.symm.trans read
    cases h.length.symm.trans length
  | sealed fresh read length found =>
    cases h.read.symm.trans read
    cases h.found.unique found
    exact ⟨rfl, rfl⟩

/-- Why an attempt fails for good. -/
inductive AttemptFailure (v : Vault) (password : String) : StoreError → Prop where
  | invalidState (other : v.state ≠ .awaitingPassword) :
      AttemptFailure v password (.invalidState v.state)
  | missingSalt {payload : Bytes} {salt : Option Bytes}
      (awaits : v.contents = .awaitingPassword payload salt) (missing : salt.getD [] = []) :
      AttemptFailure v password (.missingSalt v.layout.salt)
  | corruptBody {payload salt : Bytes} {cause : SealError}
      (awaits : v.contents = .awaitingPassword payload (some salt)) (present : salt ≠ [])
      (other : cause ≠ .authentication)
      (opened : Payload.opened (.ofPassword password salt) payload = .error cause) :
      AttemptFailure v password (.corruptBody cause)
  | corruptText {payload salt text : Bytes}
      (awaits : v.contents = .awaitingPassword payload (some salt)) (present : salt ≠ [])
      (opened : Payload.opened (.ofPassword password salt) payload = .ok text)
      (length : text.length ≠ Bundle.plainLength) :
      AttemptFailure v password (.corruptText text.length)

/-- How an attempt ends: its outcome, and the vault after it. -/
inductive AttemptEnd (v : Vault) (password : String) :
    Except StoreError AttemptResult → Vault → Prop where
  | failed {e : StoreError} (why : AttemptFailure v password e) :
      AttemptEnd v password (.error e) v
  | refused {payload salt : Bytes} (awaits : v.contents = .awaitingPassword payload (some salt))
      (present : salt ≠ [])
      (opened : Payload.opened (.ofPassword password salt) payload = .error .authentication) :
      AttemptEnd v password (.ok .decryptionFailure) v
  | unlocked {payload salt text : Bytes}
      (awaits : v.contents = .awaitingPassword payload (some salt)) (present : salt ≠ [])
      (opened : Payload.opened (.ofPassword password salt) payload = .ok text)
      (length : text.length = Bundle.plainLength) :
      AttemptEnd v password (.ok .ready) { v with contents := .ready text (some salt) }

theorem attemptEnd (v : Vault) (password : String) :
    AttemptEnd v password (v.supply password).outcome (v.supply password).vault := by
  obtain ⟨l, contents⟩ := v
  cases contents with
  | unloaded | ready => exact .failed (.invalidState (by simp [state]))
  | awaitingPassword payload salt =>
    rcases salt with _ | _ | ⟨s, salt⟩
    · exact .failed (.missingSalt rfl rfl)
    · exact .failed (.missingSalt rfl rfl)
    · have hpresent : s :: salt ≠ [] := List.cons_ne_nil s salt
      simp only [supply, KeyMaterial.derive_eq]
      cases hopened : Payload.opened (.ofPassword password (s :: salt)) payload with
      | ok text =>
        by_cases hlength : text.length = Bundle.plainLength
        · simp only [if_pos hlength]
          exact .unlocked rfl hpresent hopened hlength
        · simp only [if_neg hlength]
          exact .failed (.corruptText rfl hpresent hopened hlength)
      | error cause =>
        cases cause with
        | authentication => exact .refused rfl hpresent hopened
        | truncated | padding => exact .failed (.corruptBody rfl hpresent (by simp) hopened)

theorem AttemptEnd.eq_of_locked {v v' : Vault} {password : String}
    {outcome : Except StoreError AttemptResult} (h : AttemptEnd v password outcome v')
    (locked : outcome ≠ .ok .ready) : v' = v := by
  cases h with
  | failed | refused => rfl
  | unlocked => exact absurd rfl locked

/-- An attempt logs, and does nothing else to its surroundings. -/
theorem run_attempt (v : Vault) (password : String) (w : World) :
    ((v.attempt password).run w).1 = ((v.supply password).outcome, (v.supply password).vault) ∧
      ((v.attempt password).run w).2.passwordRequests = w.passwordRequests := by
  simp only [attempt, Program.bind_eq, Program.run_bind]
  exact ⟨rfl, Program.passwordRequests_logAll _ _⟩

/-- A disk with an identity below `/d` and a salt beside it. -/
def saltedStore (salt identity : Bytes) : FileSystem :=
  ⟨.directory [("d", .directory [("storage", .directory
    [("salt", .file salt), ("identity", .directory [("identity_key", .file identity)])])])], []⟩

/-- A disk with an identity below `/d` and no salt. -/
def saltlessStore (identity : Bytes) : FileSystem :=
  ⟨.directory [("d", .directory [("storage", .directory
    [("identity", .directory [("identity_key", .file identity)])])])], []⟩

end Vault

end IdentityVault
