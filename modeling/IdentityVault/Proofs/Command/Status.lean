import IdentityVault.Command.Status
import IdentityVault.Proofs.Store.Probing
import IdentityVault.Proofs.Store.Shelf

/-! The report on a store, a load of it and a call that is to seal its identity agree about the
disk. Each of the three is compared with what a probe finds. -/
namespace IdentityVault

/-- What a probe finds where the status of an identity is right. -/
inductive IdentityStatus.Describes : IdentityStatus → Except StoreError Bundle → Prop where
  | missing (p : Path) : Describes .missing (.error (.missingIdentity p))
  | plain (identity : Bytes) : Describes .plain (.ok (.plain identity))
  | sealed (payload : Bytes) : Describes .sealed (.ok (.sealed payload))
  | corrupt (length : Nat) : Describes .corrupt (.error (.corruptIdentity length))

open IdentityStatus

namespace StorageLayout

variable {l : StorageLayout} {disk : FileSystem} {found : Except StoreError Bundle}

theorem identityKey_ne_salt (l : StorageLayout) : l.identityKey ≠ l.salt := by
  intro h
  have hslots := @ShelfSlot.path_injective l (.current .identity) (.current .salt) h
  cases hslots

theorem describes_missing_iff :
    Describes .missing (l.found disk) ↔ l.found disk = .error (.missingIdentity l.identityKey) := by
  constructor
  · generalize hfound : l.found disk = found
    rintro ⟨⟩
    cases findsNone hfound
    rfl
  · intro h
    rw [h]
    exact .missing _

theorem describes_corrupt_iff : Describes .corrupt (l.found disk) ↔
    ∃ content, disk.contentAt l.identityKey = .ok content ∧
      l.found disk = .error (.corruptIdentity content.length) := by
  constructor
  · generalize hfound : l.found disk = found
    rintro ⟨⟩
    cases findsNone hfound with
    | corrupt read => exact ⟨_, read, rfl⟩
  · rintro ⟨content, -, h⟩
    rw [h]
    exact .corrupt _

namespace LoadsAs

variable {reply : Except StoreError StoreState} {v : Vault}

theorem ready_iff (h : l.LoadsAs found reply v) : reply = .ok .ready ↔ Describes .plain found := by
  constructor
  · rintro rfl
    cases h
    exact .plain _
  · rintro ⟨⟩
    cases h
    rfl

/-- Except for a salt that cannot be read, a load fails as a probe does. -/
theorem error_iff (h : l.LoadsAs found reply v) {e : StoreError}
    (hsalt : ∀ cause, e ≠ .io l.salt cause) : reply = .error e ↔ found = .error e := by
  cases h with
  | failed | plain | sealed => simp
  | unreadableSalt payload cause => simpa using (hsalt cause).symm

theorem sealed_iff (h : l.LoadsAs (l.found disk) reply v) :
    Describes .sealed (l.found disk) ↔
      reply = .ok .awaitingPassword ∨ ∃ cause, reply = .error (.io l.salt cause) := by
  generalize hfound : l.found disk = found at h
  constructor
  · rintro ⟨⟩
    cases h with
    | sealed => exact .inl rfl
    | unreadableSalt _ cause => exact .inr ⟨cause, rfl⟩
  · rintro (rfl | ⟨cause, rfl⟩)
    · cases h
      exact .sealed _
    · cases h with
      | unreadableSalt => exact .sealed _
      | failed =>
        -- A probe does not look at the salt.
        exfalso
        generalize hpath : l.salt = p at hfound
        cases findsNone hfound
        exact l.identityKey_ne_salt hpath.symm

end LoadsAs

namespace SealsAs

variable {result : Except StoreError Unit}

theorem alreadySealed_iff (h : SealsAs (l.found disk) result) :
    Describes .sealed (l.found disk) ↔ result = .error .alreadySealed := by
  generalize hfound : l.found disk = found at h
  constructor
  · rintro ⟨⟩
    cases h
    rfl
  · rintro rfl
    cases h with
    | again => exact .sealed _
    | failed => cases findsNone hfound

theorem of_error {e : StoreError} (h : SealsAs (.error e) result) : result = .error e := by
  cases h
  rfl

end SealsAs

/-- A failure to find an identity is a failure to load it and to seal it. -/
theorem found_error_iff {reply : Except StoreError StoreState} {v : Vault}
    {result : Except StoreError Unit} (hload : l.LoadsAs found reply v)
    (hseal : SealsAs found result) {e : StoreError} (hsalt : ∀ cause, e ≠ .io l.salt cause) :
    found = .error e ↔ reply = .error e ∧ result = .error e := by
  rw [hload.error_iff hsalt]
  constructor
  · rintro rfl
    exact ⟨rfl, hseal.of_error⟩
  · exact And.left

end StorageLayout

namespace StatusReport

variable {l : StorageLayout} {disk : FileSystem} {found : Except StoreError Bundle} {salt : Bool}

/-- The report on a store, by what a probe finds and whether there is a salt. -/
def about (l : StorageLayout) (found : Except StoreError Bundle) (salt : Bool) :
    Except StoreError StatusReport :=
  match classify found with
  | .error e => .error e
  | .ok (identity, fingerprint) => .ok ⟨l, identity, salt, fingerprint⟩

theorem run_collect (l : StorageLayout) (w : World) :
    (collect l).run w = (about l (l.found w.disk) (w.disk.exist l.salt), w) := by
  simp only [collect, Program.bind_eq, Program.run_bind, StorageLayout.run_probe, about]
  cases classify (l.found w.disk) <;> rfl

theorem run_collect_of_content {w : World} {content : Bytes} {bundle : Bundle}
    (hread : w.disk.contentAt l.identityKey = .ok content)
    (hbundle : Bundle.ofBytes content = .ok bundle) :
    (collect l).run w = (about l (.ok bundle) (w.disk.exist l.salt), w) := by
  rw [run_collect, StorageLayout.found_of_content hread, hbundle]

/-- There is a report, and this is what it says of the identity. -/
def Reports (report : Except StoreError StatusReport) (status : IdentityStatus) : Prop :=
  ∃ r, report = .ok r ∧ r.identity = status

theorem reports_iff {status : IdentityStatus} :
    Reports (about l found salt) status ↔ Describes status found := by
  constructor
  · rintro ⟨r, h, rfl⟩
    cases found with
    | ok bundle =>
      cases bundle <;> cases h
      · exact .plain _
      · exact .sealed _
    | error e =>
      cases e <;> cases h
      · exact .missing _
      · exact .corrupt _
  · rintro ⟨⟩ <;> exact ⟨_, rfl, rfl⟩

/-- There is no report where a probe fails because the identity cannot be read. -/
theorem about_error_iff {e : StoreError} : about l (l.found disk) salt = .error e ↔
    (∃ cause, e = .io l.identityKey cause) ∧ l.found disk = .error e := by
  constructor
  · intro h
    cases hfound : l.found disk with
    | ok bundle =>
      rw [hfound] at h
      cases bundle <;> cases h
    | error e' =>
      rw [hfound] at h
      cases StorageLayout.findsNone hfound with
      | missing => cases h
      | corrupt => cases h
      | unreadable cause =>
        cases h
        exact ⟨⟨cause, rfl⟩, rfl⟩
  · rintro ⟨⟨cause, rfl⟩, hfound⟩
    rw [hfound]
    rfl

/-- The fingerprint is that of the identity which a load finds. -/
theorem fingerprint_of_plain {reply : Except StoreError StoreState} {v : Vault} {r : StatusReport}
    (hload : l.LoadsAs found reply v) (hreport : about l found salt = .ok r)
    (hplain : r.identity = .plain) :
    ∃ k, v.identity = some k ∧ r.fingerprint = some k.fingerprint := by
  have hdescribes := reports_iff.1 ⟨r, hreport, hplain⟩
  cases hdescribes with
  | plain identity =>
    cases hload with
    | plain hlength =>
      have hkey := KeyPair.ofBytes?_of_plainLength hlength
      cases hreport
      exact ⟨_, hkey, congrArg (Option.map KeyPair.fingerprint) hkey⟩

theorem fingerprint_of_ne_plain {r : StatusReport} (hreport : about l found salt = .ok r)
    (hother : r.identity ≠ .plain) : r.fingerprint = none := by
  cases found with
  | ok bundle =>
    cases bundle with
    | plain =>
      cases hreport
      exact absurd rfl hother
    | sealed =>
      cases hreport
      rfl
  | error e => cases e <;> cases hreport <;> rfl

/-- A report, a load of a fresh vault, and a call that is to seal the identity, each tell from their
reply what the others reply. Only a load looks at the salt. -/
structure Agrees (l : StorageLayout) (disk : FileSystem) (report : Except StoreError StatusReport)
    (loaded : Except StoreError StoreState × Vault) (sealed : Except StoreError Unit) : Prop where
  plain_iff : Reports report .plain ↔ loaded.1 = .ok .ready
  fingerprint {r : StatusReport} (reported : report = .ok r) (plain : r.identity = .plain) :
    ∃ k, loaded.2.identity = some k ∧ r.fingerprint = some k.fingerprint
  sealed_iff_load : Reports report .sealed ↔
    loaded.1 = .ok .awaitingPassword ∨ ∃ cause, loaded.1 = .error (.io l.salt cause)
  sealed_iff_seal : Reports report .sealed ↔ sealed = .error .alreadySealed
  missing_iff : Reports report .missing ↔ loaded.1 = .error (.missingIdentity l.identityKey) ∧
    sealed = .error (.missingIdentity l.identityKey)
  corrupt_iff : Reports report .corrupt ↔ ∃ content, disk.contentAt l.identityKey = .ok content ∧
    loaded.1 = .error (.corruptIdentity content.length) ∧
    sealed = .error (.corruptIdentity content.length)
  fails_iff (e : StoreError) : report = .error e ↔
    (∃ cause, e = .io l.identityKey cause) ∧ loaded.1 = .error e ∧ sealed = .error e
  fingerprint_iff {r : StatusReport} (reported : report = .ok r) :
    r.fingerprint.isSome ↔ r.identity = .plain

theorem agrees_of_found {loaded : Except StoreError StoreState × Vault}
    {sealed : Except StoreError Unit}
    (hload : l.LoadsAs (l.found disk) loaded.1 loaded.2)
    (hseal : StorageLayout.SealsAs (l.found disk) sealed) :
    Agrees l disk (about l (l.found disk) salt) loaded sealed where
  plain_iff := by rw [reports_iff, hload.ready_iff]
  fingerprint reported plain := fingerprint_of_plain hload reported plain
  sealed_iff_load := by rw [reports_iff, hload.sealed_iff]
  sealed_iff_seal := by rw [reports_iff, hseal.alreadySealed_iff]
  missing_iff := by
    rw [reports_iff, StorageLayout.describes_missing_iff]
    exact StorageLayout.found_error_iff hload hseal (by simp)
  corrupt_iff := by
    rw [reports_iff, StorageLayout.describes_corrupt_iff]
    refine exists_congr fun content => and_congr_right fun _ => ?_
    exact StorageLayout.found_error_iff hload hseal (by simp)
  fails_iff e := by
    rw [about_error_iff]
    refine and_congr_right ?_
    rintro ⟨cause, rfl⟩
    exact StorageLayout.found_error_iff hload hseal (by simp [l.identityKey_ne_salt])
  fingerprint_iff {r} reported := by
    constructor
    · intro hsome
      by_contra hother
      rw [fingerprint_of_ne_plain reported hother] at hsome
      cases hsome
    · intro plain
      obtain ⟨k, -, hshown⟩ := fingerprint_of_plain hload reported plain
      rw [hshown]
      rfl

/-- Whatever the disk is, and in whatever surroundings each of the three finds it. -/
theorem collect_agrees (l : StorageLayout) (disk : FileSystem) (w₁ w₂ w₃ : World)
    (password : String) : Agrees l disk ((collect l).run { w₁ with disk := disk }).1
      (l.freshVault.load.run { w₂ with disk := disk }).1
      ((l.sealIdentity password).run { w₃ with disk := disk }).1 := by
  rw [run_collect]
  dsimp only
  exact agrees_of_found (l.loadsAs { w₂ with disk := disk })
    (l.sealsAs password { w₃ with disk := disk })

end StatusReport

end IdentityVault
