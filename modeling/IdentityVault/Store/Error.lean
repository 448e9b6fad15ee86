import IdentityVault.Disk.OsError
import IdentityVault.Disk.Path
import IdentityVault.Seal.Payload

/-! How far a vault is unlocked, how an attempt ends, and what can go wrong. -/
namespace IdentityVault

inductive StoreState where
  | unloaded
  | awaitingPassword
  | ready
  deriving DecidableEq

def StoreState.name : StoreState → String
  | .unloaded => "Unloaded"
  | .awaitingPassword => "AwaitingPassword"
  | .ready => "Ready"

/-- A wrong password is no error: the next may be tried. -/
inductive AttemptResult where
  | ready
  | decryptionFailure
  deriving DecidableEq

def AttemptResult.name : AttemptResult → String
  | .ready => "Ready"
  | .decryptionFailure => "DecryptionFailure"

inductive StoreError where
  | missingIdentity (p : Path)
  | corruptIdentity (length : Nat)
  | missingSalt (p : Path)
  | keyDerivation (cause : KeyDerivationError)
  | corruptBody (cause : SealError)
  | corruptText (length : Nat)
  | alreadySealed
  | io (p : Path) (cause : OsError)
  | invalidState (state : StoreState)
  deriving DecidableEq

namespace StoreError

def message : StoreError → String
  | .missingIdentity p => s!"No identity found at {p}: generating identities is not supported"
  | .corruptIdentity n => s!"Identity bundle has unexpected length {n} (expected 64 or 128)"
  | .missingSalt p => s!"Sealed identity requires a salt file at {p}"
  | .keyDerivation cause => cause.message
  | .corruptBody cause => s!"Identity bundle authenticated but did not decrypt: {cause.message}"
  | .corruptText n => s!"Decrypted identity has unexpected length {n}"
  | .alreadySealed => "Identity is already sealed"
  | .io p cause => s!"I/O error on {p}: {cause.message}"
  | .invalidState state => s!"Operation not valid while store is {state.name}"

/-- Whether the installation is unusable. The other errors are mistakes of the caller. -/
def isFatal : StoreError → Bool
  | .invalidState _ => false
  | .alreadySealed => false
  | _ => true

end StoreError

end IdentityVault
