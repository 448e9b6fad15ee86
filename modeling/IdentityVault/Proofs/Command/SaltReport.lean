import IdentityVault.Proofs.Command.Status
import IdentityVault.Proofs.Store.Replies

/-! What the report on a store says of the salt, and what the salt is good for. The report asks
whether anything is at the salt's path, a load reads what is there, and an attempt turns an empty
salt down. The three agree except over an empty file and over a directory. -/
namespace IdentityVault

theorem FileSystem.exist_iff (fs : FileSystem) (p : Path) :
    fs.exist p = true ↔ (∃ content, fs.contentAt p = .ok content) ∨ fs.isDirectory p = true := by
  unfold exist contentAt isDirectory
  cases fs.lookup p with
  | error e => simp [bind, Except.bind, Except.isOk, Except.toBool]
  | ok node =>
    cases node <;> simp [bind, Except.bind, Except.isOk, Except.toBool]

theorem FileSystem.contentAt_of_isDirectory {fs : FileSystem} {p : Path}
    (h : fs.isDirectory p = true) : fs.contentAt p = .error .isADirectory := by
  unfold isDirectory at h
  unfold contentAt
  split at h
  case h_1 entries hlookup =>
    rw [hlookup]
    rfl
  case h_2 => cases h

namespace StorageLayout

variable {l : StorageLayout} {disk : FileSystem} {payload : Bytes}

theorem contentAt_of_found_sealed (h : l.found disk = .ok (.sealed payload)) :
    disk.contentAt l.identityKey = .ok payload ∧ payload.length = Bundle.sealedLength := by
  cases hread : disk.contentAt l.identityKey with
  | ok content =>
    rw [found_of_content hread, Bundle.ofBytes_eq_sealed_iff] at h
    obtain ⟨rfl, hlength⟩ := h
    exact ⟨rfl, hlength⟩
  | error cause =>
    unfold found at h
    rw [hread] at h
    cases cause <;> cases h

/-- What a load of a sealed identity comes to, by what is read at the salt's path. -/
inductive LoadsBeside (l : StorageLayout) (payload : Bytes) :
    Except OsError Bytes → Except StoreError StoreState × Vault → Prop where
  | salted (salt : Bytes) : LoadsBeside l payload (.ok salt)
      (.ok .awaitingPassword, ⟨l, .awaitingPassword payload (some salt)⟩)
  | saltless : LoadsBeside l payload (.error .notFound)
      (.ok .awaitingPassword, ⟨l, .awaitingPassword payload none⟩)
  | unreadable {cause : OsError} (other : cause ≠ .notFound) :
      LoadsBeside l payload (.error cause) (.error (.io l.salt cause), l.freshVault)

theorem loadsBeside (h : l.found disk = .ok (.sealed payload)) (w : World) :
    l.LoadsBeside payload (disk.contentAt l.salt)
      (l.freshVault.load.run { w with disk := disk }).1 := by
  obtain ⟨hread, hlength⟩ := contentAt_of_found_sealed h
  obtain ⟨asked, hend, -⟩ := l.freshVault.run_loadEnd { w with disk := disk }
  generalize (l.freshVault.load.run { w with disk := disk }).1 = loaded at hend ⊢
  obtain ⟨reply, v⟩ := loaded
  dsimp only at hend
  cases hend with
  | plain fresh read length =>
    cases hread.symm.trans read
    cases hlength.symm.trans length
  | sealed fresh read length found =>
    cases hread.symm.trans read
    change ReadsAs l.salt (disk.contentAt l.salt) _ at found
    generalize disk.contentAt l.salt = salt at found
    cases found with
    | content salt => exact .salted salt
    | absent => exact .saltless
  | failed why =>
    cases why with
    | invalidState loaded => exact absurd rfl loaded
    | missing fresh read => cases hread.symm.trans read
    | unreadable fresh other read => cases hread.symm.trans read
    | corrupt fresh read plain sealed =>
      cases hread.symm.trans read
      exact absurd hlength sealed
    | unreadableSalt fresh read length other salt =>
      have hsalt : disk.contentAt l.salt = _ := salt
      rw [hsalt]
      exact .unreadable other

/-- A load succeeded, and no password will be turned down for want of a salt. -/
def SaltServes (l : StorageLayout) (loaded : Except StoreError StoreState × Vault) : Prop :=
  (∃ state, loaded.1 = .ok state) ∧
    ∀ password, (loaded.2.supply password).outcome ≠ .error (.missingSalt l.salt)

theorem missingSalt_iff (salt : Option Bytes) (password : String) :
    (Vault.supply ⟨l, .awaitingPassword payload salt⟩ password).outcome =
      .error (.missingSalt l.salt) ↔ salt = none ∨ salt = some [] :=
  (Vault.attemptEnd _ password).missingSalt_iff rfl

theorem LoadsBeside.saltServes_iff {read : Except OsError Bytes}
    {loaded : Except StoreError StoreState × Vault} (h : l.LoadsBeside payload read loaded) :
    l.SaltServes loaded ↔ ∃ salt, read = .ok salt ∧ salt ≠ [] := by
  cases h with
  | salted salt => simp [SaltServes, missingSalt_iff]
  | saltless => simp [SaltServes, missingSalt_iff]
  | unreadable other => simp [SaltServes]

end StorageLayout

namespace StatusReport

variable {l : StorageLayout} {disk : FileSystem} {r : StatusReport} {w u : World}

theorem found_of_sealed {found : Except StoreError Bundle} {salt : Bool}
    (hreport : about l found salt = .ok r) (hsealed : r.identity = .sealed) :
    (∃ payload, found = .ok (.sealed payload)) ∧ r.saltPresent = salt := by
  have hdescribes := reports_iff.1 ⟨r, hreport, hsealed⟩
  cases hdescribes with
  | sealed payload =>
    cases hreport
    exact ⟨⟨payload, rfl⟩, rfl⟩

/-- What the report on a sealed identity says of the salt, and what the salt is good for. -/
structure TellsSalt (l : StorageLayout) (disk : FileSystem) (r : StatusReport)
    (loaded : Except StoreError StoreState × Vault) : Prop where
  present_iff : r.saltPresent = true ↔
    (∃ salt, disk.contentAt l.salt = .ok salt) ∨ disk.isDirectory l.salt = true
  serves_iff : l.SaltServes loaded ↔ ∃ salt, disk.contentAt l.salt = .ok salt ∧ salt ≠ []
  rightly_iff : (r.saltPresent = true ↔ l.SaltServes loaded) ↔
    disk.contentAt l.salt ≠ .ok [] ∧ disk.isDirectory l.salt = false
  empty (h : disk.contentAt l.salt = .ok []) : r.saltPresent = true ∧
    loaded.1 = .ok .awaitingPassword ∧
    ∀ password, (loaded.2.supply password).outcome = .error (.missingSalt l.salt)
  directory (h : disk.isDirectory l.salt = true) : r.saltPresent = true ∧
    loaded.1 = .error (.io l.salt .isADirectory)

/-- The report is right about the salt except over an empty file and over a directory, which are
both reported as a salt. -/
theorem collect_tellsSalt (hreport : ((collect l).run { w with disk := disk }).1 = .ok r)
    (hsealed : r.identity = .sealed) :
    TellsSalt l disk r (l.freshVault.load.run { u with disk := disk }).1 := by
  simp only [run_collect] at hreport
  obtain ⟨⟨payload, hfound⟩, hsalt⟩ := found_of_sealed hreport hsealed
  have hload := StorageLayout.loadsBeside hfound u
  have hpresent : r.saltPresent = true ↔
      (∃ salt, disk.contentAt l.salt = .ok salt) ∨ disk.isDirectory l.salt = true := by
    rw [hsalt, FileSystem.exist_iff]
  have hserves := hload.saltServes_iff
  refine ⟨hpresent, hserves, ?_, fun h => ?_, fun h => ?_⟩
  · rw [hpresent, hserves]
    cases hdirectory : disk.isDirectory l.salt with
    | true => simp [FileSystem.contentAt_of_isDirectory hdirectory]
    | false => cases disk.contentAt l.salt <;> simp
  · refine ⟨hpresent.2 (.inl ⟨[], h⟩), ?_⟩
    rw [h] at hload
    generalize (l.freshVault.load.run { u with disk := disk }).1 = loaded at hload
    cases hload
    exact ⟨rfl, fun password => (StorageLayout.missingSalt_iff _ password).2 (.inr rfl)⟩
  · refine ⟨hpresent.2 (.inr h), ?_⟩
    rw [FileSystem.contentAt_of_isDirectory h] at hload
    generalize (l.freshVault.load.run { u with disk := disk }).1 = loaded at hload
    cases hload
    rfl

set_option maxRecDepth 4000 in
/-- A salt of eight bytes beside a sealed identity. -/
theorem tellsSalt_saltedStore :
    ∃ r, ((collect ⟨"/d"⟩).run
        { disk := Vault.saltedStore (Bytes.ofText "saltsalt") (List.replicate 128 7) }).1 = .ok r ∧
      r.identity = .sealed ∧ r.saltPresent = true ∧
      TellsSalt ⟨"/d"⟩ (Vault.saltedStore (Bytes.ofText "saltsalt") (List.replicate 128 7)) r
        ((StorageLayout.freshVault ⟨"/d"⟩).load.run
          { disk := Vault.saltedStore (Bytes.ofText "saltsalt") (List.replicate 128 7) }).1 :=
  ⟨_, rfl, rfl, rfl, collect_tellsSalt (w := { disk := .empty }) (u := { disk := .empty }) rfl rfl⟩

set_option maxRecDepth 4000 in
/-- An empty salt is reported like any other, and it serves no password. -/
theorem emptySalt_reported :
    ∃ r loaded, ((collect ⟨"/d"⟩).run
        { disk := Vault.saltedStore [] (List.replicate 128 7) }).1 = .ok r ∧
      ((StorageLayout.freshVault ⟨"/d"⟩).load.run
        { disk := Vault.saltedStore [] (List.replicate 128 7) }).1 = loaded ∧
      r.identity = .sealed ∧ r.saltPresent = true ∧
      (∀ password, (loaded.2.supply password).outcome =
        .error (.missingSalt "/d/storage/salt")) ∧
      ¬(r.saltPresent = true ↔ StorageLayout.SaltServes ⟨"/d"⟩ loaded) :=
  ⟨_, _, rfl, rfl, rfl, rfl, fun _ => rfl, fun h => (h.1 rfl).2 "" rfl⟩

end StatusReport

end IdentityVault
