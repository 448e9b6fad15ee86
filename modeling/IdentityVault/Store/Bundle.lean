import IdentityVault.Hash.Sha256
import IdentityVault.Store.Error
import IdentityVault.Text.Quoted

/-! The identity as it is stored. Its length alone tells whether it is sealed. -/
namespace IdentityVault

inductive Bundle where
  | plain (content : Bytes)
  | sealed (content : Bytes)
  deriving DecidableEq

namespace Bundle

def plainLength : Nat := 64

def sealedLength : Nat := 128

def ofBytes (b : Bytes) : Except StoreError Bundle :=
  if b.length = plainLength then .ok (.plain b)
  else if b.length = sealedLength then .ok (.sealed b)
  else .error (.corruptIdentity b.length)

def content : Bundle → Bytes
  | .plain b => b
  | .sealed b => b

def isSealed : Bundle → Bool
  | .plain _ => false
  | .sealed _ => true

def inspect : Bundle → String
  | .plain b => s!"IdentityBundle::Plain({b.length} bytes)"
  | .sealed b => s!"IdentityBundle::Sealed({b.length} bytes)"

theorem plainLength_ne_sealedLength : plainLength ≠ sealedLength := by decide

theorem ofBytes_eq_plain_iff {b content : Bytes} :
    ofBytes b = .ok (.plain content) ↔ content = b ∧ b.length = plainLength := by
  unfold ofBytes
  split
  case isTrue hplain => simp [hplain, eq_comm]
  case isFalse hplain => split <;> simp [hplain]

theorem ofBytes_eq_sealed_iff {b content : Bytes} :
    ofBytes b = .ok (.sealed content) ↔ content = b ∧ b.length = sealedLength := by
  unfold ofBytes
  split
  case isTrue hplain => simp [hplain, plainLength_ne_sealedLength]
  case isFalse =>
    split
    case isTrue hsealed => simp [hsealed, eq_comm]
    case isFalse hsealed => simp [hsealed]

theorem ofBytes_eq_error_iff {b : Bytes} {e : StoreError} : ofBytes b = .error e ↔
    e = .corruptIdentity b.length ∧ b.length ≠ plainLength ∧ b.length ≠ sealedLength := by
  unfold ofBytes
  split
  case isTrue hplain => simp [hplain]
  case isFalse hplain =>
    split
    case isTrue hsealed => simp [hsealed]
    case isFalse hsealed => simp [hplain, hsealed, eq_comm]

theorem ofBytes_of_plainLength {b : Bytes} (h : b.length = plainLength) :
    ofBytes b = .ok (.plain b) := ofBytes_eq_plain_iff.2 ⟨rfl, h⟩

theorem ofBytes_of_sealedLength {b : Bytes} (h : b.length = sealedLength) :
    ofBytes b = .ok (.sealed b) := ofBytes_eq_sealed_iff.2 ⟨rfl, h⟩

theorem ofBytes_of_other {b : Bytes} (hplain : b.length ≠ plainLength)
    (hsealed : b.length ≠ sealedLength) : ofBytes b = .error (.corruptIdentity b.length) :=
  ofBytes_eq_error_iff.2 ⟨rfl, hplain, hsealed⟩

end Bundle

/-- A public key and the private key behind it. -/
structure KeyPair where
  publicKey : Bytes
  privateKey : Bytes
  deriving DecidableEq

namespace KeyPair

def publicKeyLength : Nat := 32

def ofBytes? (b : Bytes) : Option KeyPair :=
  if b.length = Bundle.plainLength then some ⟨b.take publicKeyLength, b.drop publicKeyLength⟩
  else none

def toBytes (k : KeyPair) : Bytes := k.publicKey ++ k.privateKey

/-- The digest of the public key, which may be shown. -/
def fingerprint (k : KeyPair) : String := (sha256.digest k.publicKey).toHex

def inspect (k : KeyPair) : String :=
  "IdentityKeyPair \x7b public_key: " ++ Text.quoted k.publicKey.toHex ++ ", .. \x7d"

theorem ofBytes?_of_plainLength {b : Bytes} (h : b.length = Bundle.plainLength) :
    ofBytes? b = some ⟨b.take publicKeyLength, b.drop publicKeyLength⟩ := if_pos h

theorem toBytes_of_ofBytes? {b : Bytes} {k : KeyPair} (h : ofBytes? b = some k) :
    k.toBytes = b := by
  unfold ofBytes? at h
  split at h
  · cases h
    exact List.take_append_drop _ _
  · cases h

end KeyPair

end IdentityVault
