import IdentityVault.Hash.Pbkdf2

/-! Keys for one sealed payload, derived from a password and a salt. -/
namespace IdentityVault

inductive KeyDerivationError where
  | zeroIterations
  deriving DecidableEq

def KeyDerivationError.message : KeyDerivationError → String
  | .zeroIterations => "Key derivation failed: iteration count must be non-zero"

structure KeyMaterial where
  encryptionKey : Bytes
  macKey : Bytes
  deriving DecidableEq

namespace KeyMaterial

def encryptionKeyLength : Nat := 16

def macKeyLength : Nat := 20

def iterations : Nat := 1024

/-- The encryption key comes first, the authentication key after it. -/
def ofBytes (b : Bytes) : KeyMaterial :=
  ⟨b.take encryptionKeyLength, (b.drop encryptionKeyLength).take macKeyLength⟩

def deriveWith (iterations : Nat) (password : String) (salt : Bytes) :
    Except KeyDerivationError KeyMaterial :=
  if iterations = 0 then .error .zeroIterations
  else .ok (ofBytes (pbkdf2 sha1 iterations (Bytes.ofText password) salt
    (encryptionKeyLength + macKeyLength)))

def derive (password : String) (salt : Bytes) : Except KeyDerivationError KeyMaterial :=
  deriveWith iterations password salt

/-- The inspection text names the keys and hides their bytes. -/
def inspect (_ : KeyMaterial) : String :=
  "KeyMaterial \x7b encryption_key: \"<redacted>\", mac_key: \"<redacted>\" \x7d"

end KeyMaterial

end IdentityVault
