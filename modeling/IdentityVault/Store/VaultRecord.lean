import IdentityVault.Store.Vault

/-! A vault whose parts are kept apart: the state, the stored identity and the salt are each set on
their own, and nothing in the type says that they fit each other. -/
namespace IdentityVault

structure VaultRecord where
  layout : StorageLayout
  state : StoreState := .unloaded
  bundle : Option Bundle := none
  salt : Option Bytes := none
  deriving DecidableEq

namespace VaultRecord

open Vault (logged derivationLog)

/-- Keep an identity that was read. The salt is set first, and the state last. -/
def keep (r : VaultRecord) (bundle : Bundle) :
    Program (Except StoreError StoreState × VaultRecord) := do
  let mut r := r
  if bundle.isSealed then
    match ← readOptional r.layout.salt with
    | .error e => return (.error e, r)
    | .ok salt =>
      r := { r with salt := salt }
      if r.salt.isSome then Program.log (logged .debug "Read salt file")
  r := { r with bundle := some bundle }
  if bundle.isSealed then
    r := { r with state := .awaitingPassword }
    Program.log (logged .info "Asking for password")
    Program.perform (.emit .passwordRequested)
  else
    r := { r with state := .ready }
    Program.log (logged .info "Unencrypted identity")
  return (.ok r.state, r)

/-- Read the identity, and keep it if it has the length of one. -/
def load (r : VaultRecord) : Program (Except StoreError StoreState × VaultRecord) := do
  if r.state ≠ .unloaded then
    return (.error (.invalidState r.state), r)
  match ← readOptional r.layout.identityKey with
  | .error e => return (.error e, r)
  | .ok none =>
    Program.log (logged .warning "Generating identities not yet supported")
    Program.log ⟨.info, .identity, "Looked for identity", [("path", r.layout.identityKey)]⟩
    return (.error (.missingIdentity r.layout.identityKey), r)
  | .ok (some content) =>
    match Bundle.ofBytes content with
    | .error e =>
      Program.log (logged .warning "Identity key of strange length")
      return (.error e, r)
    | .ok bundle => r.keep bundle

/-- Open what is kept. The identity is set first, and the state last. -/
def unlock (r : VaultRecord) (keys : KeyMaterial) (payload : Bytes) :
    Program (Except StoreError AttemptResult × VaultRecord) := do
  let mut r := r
  match Payload.opened keys payload with
  | .ok text =>
    if text.length = Bundle.plainLength then
      r := { r with bundle := some (.plain text) }
      r := { r with state := .ready }
      Program.log (logged .info "Decrypted identity")
      return (.ok .ready, r)
    return (.error (.corruptText text.length), r)
  | .error .authentication =>
    Program.log (logged .warning "Failure decrypting identity")
    return (.ok .decryptionFailure, r)
  | .error e => return (.error (.corruptBody e), r)

/-- Try a password. To await one and to keep nothing sealed is a wrong state as well. -/
def attempt (r : VaultRecord) (password : String) :
    Program (Except StoreError AttemptResult × VaultRecord) := do
  if r.state ≠ .awaitingPassword then
    return (.error (.invalidState r.state), r)
  match r.bundle with
  | some (.sealed payload) =>
    match r.salt with
    | some (s :: salt) =>
      Program.log (logged .debug "Store received password")
      match KeyMaterial.derive password (s :: salt) with
      | .error e => return (.error (.keyDerivation e), r)
      | .ok keys =>
        Program.logAll (derivationLog (s :: salt))
        r.unlock keys payload
    | _ => return (.error (.missingSalt r.layout.salt), r)
  | _ => return (.error (.invalidState r.state), r)

/-- The key pair of an unlocked vault. -/
def identity (r : VaultRecord) : Option KeyPair :=
  match r.state, r.bundle with
  | .ready, some (.plain identity) => KeyPair.ofBytes? identity
  | _, _ => none

end VaultRecord

/-- The parts of a vault, each on its own. -/
def Vault.record (v : Vault) : VaultRecord := ⟨v.layout, v.state, v.bundle, v.salt⟩

end IdentityVault
