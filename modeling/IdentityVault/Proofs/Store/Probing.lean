import IdentityVault.Proofs.Store.Outcomes
import IdentityVault.Store.Sealing

/-! What is found where the identity should be. A probe, a load and a sealing each read it with
steps of their own, and make the same of it. -/
namespace IdentityVault

namespace StorageLayout

/-- What a probe finds on a disk. -/
def found (l : StorageLayout) (disk : FileSystem) : Except StoreError Bundle :=
  match disk.contentAt l.identityKey with
  | .ok content => Bundle.ofBytes content
  | .error .notFound => .error (.missingIdentity l.identityKey)
  | .error cause => .error (.io l.identityKey cause)

variable {l : StorageLayout} {disk : FileSystem}

theorem found_of_content {content : Bytes} (h : disk.contentAt l.identityKey = .ok content) :
    l.found disk = Bundle.ofBytes content := by
  unfold found
  rw [h]

theorem found_of_notFound (h : disk.contentAt l.identityKey = .error .notFound) :
    l.found disk = .error (.missingIdentity l.identityKey) := by
  unfold found
  rw [h]

theorem found_of_error {cause : OsError} (h : disk.contentAt l.identityKey = .error cause)
    (hother : cause ≠ .notFound) : l.found disk = .error (.io l.identityKey cause) := by
  unfold found
  rw [h]
  cases cause with
  | notFound => exact absurd rfl hother
  | noSuchDevice | alreadyExists | notADirectory | isADirectory | directoryNotEmpty | nameTooLong
    | zeroInPath | invalidText | other => rfl

theorem run_probe (l : StorageLayout) (w : World) : l.probe.run w = (l.found w.disk, w) := by
  have hread : w.answer (.read l.identityKey) = (w.disk.contentAt l.identityKey, w) := rfl
  simp only [probe, readOptional, Program.perform, Program.bind_eq, Program.call_bind,
    Program.done_bind, Program.pure_eq, Program.run_call, hread]
  unfold found
  generalize w.disk.contentAt l.identityKey = read
  cases read with
  | ok content => rfl
  | error cause => cases cause <;> rfl

/-- A plain identity that is found is the content of the file. -/
theorem contentAt_of_found_plain {identity : Bytes} (h : l.found disk = .ok (.plain identity)) :
    disk.contentAt l.identityKey = .ok identity ∧ identity.length = Bundle.plainLength := by
  cases hread : disk.contentAt l.identityKey with
  | ok content =>
    rw [found_of_content hread, Bundle.ofBytes_eq_plain_iff] at h
    obtain ⟨rfl, hlength⟩ := h
    exact ⟨rfl, hlength⟩
  | error cause =>
    unfold found at h
    rw [hread] at h
    cases cause <;> cases h

/-- Why no identity is found. -/
inductive FindsNone (l : StorageLayout) (disk : FileSystem) : StoreError → Prop where
  | missing : FindsNone l disk (.missingIdentity l.identityKey)
  | corrupt {content : Bytes} (read : disk.contentAt l.identityKey = .ok content) :
      FindsNone l disk (.corruptIdentity content.length)
  | unreadable (cause : OsError) : FindsNone l disk (.io l.identityKey cause)

theorem findsNone {e : StoreError} (h : l.found disk = .error e) : l.FindsNone disk e := by
  cases hread : disk.contentAt l.identityKey with
  | ok content =>
    rw [found_of_content hread, Bundle.ofBytes_eq_error_iff] at h
    obtain ⟨rfl, -⟩ := h
    exact .corrupt hread
  | error cause =>
    by_cases hmissing : cause = .notFound
    · rw [hmissing] at hread
      rw [found_of_notFound hread] at h
      cases h
      exact .missing
    · rw [found_of_error hread hmissing] at h
      cases h
      exact .unreadable cause

/-- What a load of a fresh vault comes to, by what is found: its reply, and the vault then. -/
inductive LoadsAs (l : StorageLayout) :
    Except StoreError Bundle → Except StoreError StoreState → Vault → Prop where
  | failed (e : StoreError) : LoadsAs l (.error e) (.error e) l.freshVault
  | plain {identity : Bytes} (length : identity.length = Bundle.plainLength) :
      LoadsAs l (.ok (.plain identity)) (.ok .ready) ⟨l, .ready identity none⟩
  | sealed (payload : Bytes) (salt : Option Bytes) :
      LoadsAs l (.ok (.sealed payload)) (.ok .awaitingPassword)
        ⟨l, .awaitingPassword payload salt⟩
  | unreadableSalt (payload : Bytes) (cause : OsError) :
      LoadsAs l (.ok (.sealed payload)) (.error (.io l.salt cause)) l.freshVault

theorem loadsAs (l : StorageLayout) (w : World) :
    l.LoadsAs (l.found w.disk) (l.freshVault.load.run w).1.1 (l.freshVault.load.run w).1.2 := by
  obtain ⟨asked, hend, -⟩ := l.freshVault.run_loadEnd w
  generalize (l.freshVault.load.run w).1 = loaded at hend ⊢
  obtain ⟨reply, v⟩ := loaded
  dsimp only at hend ⊢
  cases hend with
  | failed hwhy =>
    cases hwhy with
    | invalidState hloaded => exact absurd rfl hloaded
    | missing _ hread =>
      have hfound : l.found w.disk = _ := found_of_notFound hread
      rw [hfound]
      exact .failed _
    | unreadable _ hother hread =>
      have hfound : l.found w.disk = _ := found_of_error hread hother
      rw [hfound]
      exact .failed _
    | corrupt _ hread hplain hsealed =>
      have hfound : l.found w.disk = _ := found_of_content hread
      rw [hfound, Bundle.ofBytes_of_other hplain hsealed]
      exact .failed _
    | unreadableSalt _ hread hlength =>
      have hfound : l.found w.disk = _ := found_of_content hread
      rw [hfound, Bundle.ofBytes_of_sealedLength hlength]
      exact .unreadableSalt _ _
  | plain _ hread hlength =>
    have hfound : l.found w.disk = _ := found_of_content hread
    rw [hfound, Bundle.ofBytes_of_plainLength hlength]
    exact .plain hlength
  | sealed _ hread hlength =>
    have hfound : l.found w.disk = _ := found_of_content hread
    rw [hfound, Bundle.ofBytes_of_sealedLength hlength]
    exact .sealed _ _

/-- What a call that is to seal the identity comes to, by what is found. -/
inductive SealsAs : Except StoreError Bundle → Except StoreError Unit → Prop where
  | failed (e : StoreError) : SealsAs (.error e) (.error e)
  | again (payload : Bytes) : SealsAs (.ok (.sealed payload)) (.error .alreadySealed)
  | sealed (identity : Bytes) : SealsAs (.ok (.plain identity)) (.ok ())
  | blocked (identity : Bytes) (p : Path) (cause : OsError) :
      SealsAs (.ok (.plain identity)) (.error (.io p cause))

/-- What an attempt to put a file in place comes to. -/
inductive ReplacesAs : Except StoreError Unit → Prop where
  | replaced : ReplacesAs (.ok ())
  | failed (p : Path) (cause : OsError) : ReplacesAs (.error (.io p cause))

theorem replacesAs {directory p : Path} {content : Bytes} {w : World}
    {replaced : Except StoreError Unit × World}
    (h : (replaceFile directory p content).run w = replaced) : ReplacesAs replaced.1 := by
  rw [← h]
  simp only [replaceFile, Program.perform, Program.bind_eq, Program.call_bind, Program.done_bind,
    Program.pure_eq, Program.run_call]
  -- Three changes, each of which may fail.
  split
  · exact .failed _ _
  simp only [Program.run_call]
  split
  · exact .failed _ _
  simp only [Program.run_call]
  split
  · exact .failed _ _
  · exact .replaced

theorem sealsAs (l : StorageLayout) (password : String) (w : World) :
    SealsAs (l.found w.disk) ((l.sealIdentity password).run w).1 := by
  simp only [sealIdentity, Program.bind_eq, Program.run_bind, run_probe]
  cases l.found w.disk with
  | error e => exact .failed e
  | ok bundle =>
    cases bundle with
    | sealed payload => exact .again payload
    | plain identity =>
      simp only [KeyMaterial.derive_eq, Program.run_bind]
      generalize hsalt : (replaceFile l.storageDirectory l.salt _).run _ = salt
      have hsalt := replacesAs hsalt
      obtain ⟨reply, w₁⟩ := salt
      cases hsalt with
      | failed p cause => exact .blocked identity p cause
      | replaced =>
        simp only [Program.run_bind]
        generalize hidentity : (replaceFile l.identityDirectory l.identityKey _).run _ = replaced
        have hidentity := replacesAs hidentity
        obtain ⟨reply, w₂⟩ := replaced
        cases hidentity with
        | failed p cause => exact .blocked identity p cause
        | replaced => exact .sealed identity

end StorageLayout

end IdentityVault
