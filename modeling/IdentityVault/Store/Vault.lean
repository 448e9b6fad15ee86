import IdentityVault.Store.Reading

/-! A vault: the identity that was loaded, and whether it is unlocked. A vault is loaded once. A
failed step and a wrong password leave it as it was. -/
namespace IdentityVault

/-- What a vault holds. The salt is kept with a sealed identity even when it is missing, because
only an attempt to unlock needs it. -/
inductive VaultContents where
  | unloaded
  | awaitingPassword (payload : Bytes) (salt : Option Bytes)
  | ready (identity : Bytes) (salt : Option Bytes)
  deriving DecidableEq

structure Vault where
  layout : StorageLayout
  contents : VaultContents := .unloaded
  deriving DecidableEq

namespace Vault

def state (v : Vault) : StoreState :=
  match v.contents with
  | .unloaded => .unloaded
  | .awaitingPassword _ _ => .awaitingPassword
  | .ready _ _ => .ready

def bundle (v : Vault) : Option Bundle :=
  match v.contents with
  | .unloaded => none
  | .awaitingPassword payload _ => some (.sealed payload)
  | .ready identity _ => some (.plain identity)

def salt (v : Vault) : Option Bytes :=
  match v.contents with
  | .unloaded => none
  | .awaitingPassword _ salt => salt
  | .ready _ salt => salt

/-- The key pair of an unlocked vault. -/
def identity (v : Vault) : Option KeyPair :=
  match v.contents with
  | .ready identity _ => KeyPair.ofBytes? identity
  | _ => none

def logged (level : Level) (message : String) : LogEvent := ⟨level, .identity, message, []⟩

/-- Read the identity, and the salt beside a sealed one. A sealed identity asks for a password. -/
def load (v : Vault) : Program (Except StoreError StoreState × Vault) := do
  match v.contents with
  | .unloaded =>
    match ← readOptional v.layout.identityKey with
    | .error e => return (.error e, v)
    | .ok none =>
      Program.log (logged .warning "Generating identities not yet supported")
      Program.log ⟨.info, .identity, "Looked for identity", [("path", v.layout.identityKey)]⟩
      return (.error (.missingIdentity v.layout.identityKey), v)
    | .ok (some content) =>
      match Bundle.ofBytes content with
      | .error e =>
        Program.log (logged .warning "Identity key of strange length")
        return (.error e, v)
      | .ok (.plain identity) =>
        Program.log (logged .info "Unencrypted identity")
        return (.ok .ready, { v with contents := .ready identity none })
      | .ok (.sealed payload) =>
        match ← readOptional v.layout.salt with
        | .error e => return (.error e, v)
        | .ok salt =>
          if salt.isSome then Program.log (logged .debug "Read salt file")
          Program.log (logged .info "Asking for password")
          Program.perform (.emit .passwordRequested)
          return (.ok .awaitingPassword, { v with contents := .awaitingPassword payload salt })
  | _ => return (.error (.invalidState v.state), v)

/-- How an attempt to unlock ended, the vault after it, and what was logged. -/
structure Attempt where
  outcome : Except StoreError AttemptResult
  vault : Vault
  log : List LogEvent

/-- The events of one key derivation. -/
def derivationLog (salt : Bytes) : List LogEvent :=
  [⟨.trace, .keyMaterial, "derived identity key material", [("salt_len", toString salt.length)]⟩]

/-- Try a password. Without a salt, or with an empty one, there is nothing to derive keys from. -/
def supply (v : Vault) (password : String) : Attempt :=
  match v.contents with
  | .awaitingPassword payload (some (s :: salt)) =>
    let received := [logged .debug "Store received password"]
    match KeyMaterial.derive password (s :: salt) with
    | .error e => ⟨.error (.keyDerivation e), v, received⟩
    | .ok keys =>
      let log := received ++ derivationLog (s :: salt)
      match Payload.opened keys payload with
      | .ok text =>
        if text.length = Bundle.plainLength then
          ⟨.ok .ready, { v with contents := .ready text (some (s :: salt)) },
            log ++ [logged .info "Decrypted identity"]⟩
        else ⟨.error (.corruptText text.length), v, log⟩
      | .error .authentication =>
        ⟨.ok .decryptionFailure, v, log ++ [logged .warning "Failure decrypting identity"]⟩
      | .error e => ⟨.error (.corruptBody e), v, log⟩
  | .awaitingPassword _ _ => ⟨.error (.missingSalt v.layout.salt), v, []⟩
  | _ => ⟨.error (.invalidState v.state), v, []⟩

/-- An attempt as a part of a program. -/
def attempt (v : Vault) (password : String) :
    Program (Except StoreError AttemptResult × Vault) := do
  let a := v.supply password
  Program.logAll a.log
  return (a.outcome, a.vault)

def inspectOption {α : Type} (f : α → String) : Option α → String
  | some a => "Some(" ++ f a ++ ")"
  | none => "None"

def inspectBytes (b : Bytes) : String :=
  "[" ++ String.intercalate ", " (b.map fun x => toString x.toNat) ++ "]"

def inspect (v : Vault) : String :=
  "IdentityStore \x7b paths: " ++ v.layout.inspect ++ ", state: " ++ v.state.name ++
    ", bundle: " ++ inspectOption Bundle.inspect v.bundle ++
    ", salt: " ++ inspectOption inspectBytes v.salt ++ " \x7d"

end Vault

end IdentityVault
