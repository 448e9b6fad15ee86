import IdentityVault.Store.Bundle
import IdentityVault.Store.Layout

/-! Reading the files of the store. -/
namespace IdentityVault

/-- The content of a file, if there is one. -/
def readOptional (p : Path) : Program (Except StoreError (Option Bytes)) := do
  match ← Program.perform (.read p) with
  | .ok content => return .ok (some content)
  | .error .notFound => return .ok none
  | .error e => return .error (.io p e)

/-- The identity on disk, which is not unlocked. -/
def StorageLayout.probe (l : StorageLayout) : Program (Except StoreError Bundle) := do
  match ← readOptional l.identityKey with
  | .error e => return .error e
  | .ok none => return .error (.missingIdentity l.identityKey)
  | .ok (some content) => return Bundle.ofBytes content

end IdentityVault
