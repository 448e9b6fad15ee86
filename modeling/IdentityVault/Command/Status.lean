import IdentityVault.Store.Reading
import IdentityVault.Text.JsonString

/-! The state of an identity store, found out without unlocking it. -/
namespace IdentityVault

inductive IdentityStatus where
  | missing
  | plain
  | sealed
  | corrupt
  deriving DecidableEq

namespace IdentityStatus

def name : IdentityStatus → String
  | .missing => "missing"
  | .plain => "plain"
  | .sealed => "sealed"
  | .corrupt => "corrupt"

def description : IdentityStatus → String
  | .missing => "❌ missing"
  | .plain => "⚠️  plain (not password protected)"
  | .sealed => "🔒 sealed"
  | .corrupt => "❌ corrupt (unexpected length)"

end IdentityStatus

structure StatusReport where
  layout : StorageLayout
  identity : IdentityStatus
  saltPresent : Bool
  /-- The fingerprint of a plain identity. -/
  fingerprint : Option String
  deriving DecidableEq

namespace StatusReport

/-- A missing or misshapen identity is a finding and not an error. -/
def classify : Except StoreError Bundle → Except StoreError (IdentityStatus × Option String)
  | .ok (.plain content) => .ok (.plain, (KeyPair.ofBytes? content).map KeyPair.fingerprint)
  | .ok (.sealed _) => .ok (.sealed, none)
  | .error (.missingIdentity _) => .ok (.missing, none)
  | .error (.corruptIdentity _) => .ok (.corrupt, none)
  | .error e => .error e

def collect (l : StorageLayout) : Program (Except StoreError StatusReport) := do
  match classify (← l.probe) with
  | .error e => return .error e
  | .ok (identity, fingerprint) =>
    let salt ← Program.perform (.exist l.salt)
    return .ok ⟨l, identity, salt, fingerprint⟩

/-- The report for a reader. -/
def lines (r : StatusReport) : List String :=
  ["📊 Sigil Status", "",
    "  Data directory: " ++ r.layout.dataDirectory,
    "  Identity key:   " ++ r.layout.identityKey,
    "  Identity:       " ++ r.identity.description,
    "  Salt:           " ++ (if r.saltPresent then "present" else "absent")] ++
  match r.fingerprint with
  | some fingerprint => ["  Fingerprint:    " ++ fingerprint]
  | none => []

/-- The report for a program. -/
def json (r : StatusReport) : String :=
  let field (key value : String) : String := "  " ++ Text.jsonString key ++ ": " ++ value
  "\x7b\n" ++ String.intercalate ",\n"
    [field "data_dir" (Text.jsonString r.layout.dataDirectory),
      field "identity_key" (Text.jsonString r.layout.identityKey),
      field "identity" (Text.jsonString r.identity.name),
      field "salt_present" (if r.saltPresent then "true" else "false"),
      field "fingerprint" ((r.fingerprint.map Text.jsonString).getD "null")] ++ "\n\x7d"

end StatusReport

end IdentityVault
