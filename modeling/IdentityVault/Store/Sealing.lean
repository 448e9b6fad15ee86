import IdentityVault.Store.Vault

/-! Protecting a plain identity with a password. The salt is written before the identity, and
each file is written under another name and then moved: whatever step is the last, the identity
on disk is whole. -/
namespace IdentityVault

/-- Bytes of a new salt. -/
def saltLength : Nat := 8

/-- Put a file in place at once. -/
def replaceFile (directory p : Path) (content : Bytes) : Program (Except StoreError Unit) := do
  match ← Program.perform (.change (.makeDirectories directory)) with
  | .error e => return .error (.io directory e)
  | .ok () =>
    match ← Program.perform (.change (.write (StorageLayout.temporary p) content)) with
    | .error e => return .error (.io (StorageLayout.temporary p) e)
    | .ok () =>
      match ← Program.perform (.change (.rename (StorageLayout.temporary p) p)) with
      | .error e => return .error (.io p e)
      | .ok () => return .ok ()

/-- Seal the identity on disk under a new salt and a new vector. -/
def StorageLayout.sealIdentity (l : StorageLayout) (password : String) :
    Program (Except StoreError Unit) := do
  match ← l.probe with
  | .error e => return .error e
  | .ok (.sealed _) => return .error .alreadySealed
  | .ok (.plain identity) =>
    let salt ← Program.perform (.random saltLength)
    let vector ← Program.perform (.random Payload.vectorLength)
    match KeyMaterial.derive password salt with
    | .error e => return .error (.keyDerivation e)
    | .ok keys =>
      Program.logAll (Vault.derivationLog salt)
      match ← replaceFile l.storageDirectory l.salt salt with
      | .error e => return .error e
      | .ok () =>
        match ← replaceFile l.identityDirectory l.identityKey
            (Payload.sealed keys (Block.ofBytes vector) identity) with
        | .error e => return .error e
        | .ok () =>
          Program.log ⟨.info, .identity, "Sealed identity with password",
            [("path", l.identityKey)]⟩
          return .ok ()

end IdentityVault
