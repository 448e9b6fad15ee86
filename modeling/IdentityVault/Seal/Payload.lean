import IdentityVault.Cipher.Aes
import IdentityVault.Cipher.BlockPadding
import IdentityVault.Cipher.Chaining
import IdentityVault.Seal.KeyMaterial

/-! Sealed payloads: an initialisation vector, a padded ciphertext, and a tag over both.
Opening checks the tag before it looks at the ciphertext. -/
namespace IdentityVault

inductive SealError where
  | truncated (length : Nat)
  | authentication
  | padding
  deriving DecidableEq

def SealError.message : SealError → String
  | .truncated n => s!"Sealed payload too short: {n} bytes"
  | .authentication => "Authentication failed: tag mismatch"
  | .padding => "Decryption failed: invalid block alignment or padding"

namespace Payload

def vectorLength : Nat := Block.size

def tagLength : Nat := 32

/-- One vector, one ciphertext block, one tag. -/
def minimumLength : Nat := vectorLength + Block.size + tagLength

def tag (keys : KeyMaterial) (region : Bytes) : Bytes := hmac sha256 keys.macKey region

def schedule (keys : KeyMaterial) : Aes.KeySchedule :=
  Aes.KeySchedule.ofKey (Block.ofBytes keys.encryptionKey)

/-- The ciphertext of a text of any length. -/
def encryptBody (keys : KeyMaterial) (vector : Block) (text : Bytes) : Bytes :=
  let padded := BlockPadding.pad text
  Block.join (Chaining.encrypt (Aes.encrypt (schedule keys)) vector
    (Block.split (padded.length / Block.size) padded))

/-- The text of a ciphertext of whole blocks. -/
def decryptBody? (keys : KeyMaterial) (vector : Block) (body : Bytes) : Option Bytes :=
  BlockPadding.unpad? (Block.join (Chaining.decrypt (Aes.decrypt (schedule keys)) vector
    (Block.split (body.length / Block.size) body)))

/-- The sealed form of a text under a vector. -/
def sealed (keys : KeyMaterial) (vector : Block) (text : Bytes) : Bytes :=
  let region := vector.toBytes ++ encryptBody keys vector text
  region ++ tag keys region

/-- The text of a payload, if its tag and its padding are right. -/
def opened (keys : KeyMaterial) (payload : Bytes) : Except SealError Bytes :=
  if payload.length < minimumLength then .error (.truncated payload.length)
  else
    let region := payload.take (payload.length - tagLength)
    if tag keys region ≠ payload.drop (payload.length - tagLength) then .error .authentication
    else
      let body := region.drop vectorLength
      if body.length % Block.size ≠ 0 then .error .padding
      else match decryptBody? keys (Block.ofBytes region) body with
        | some text => .ok text
        | none => .error .padding

/-- The length of the sealed form of `n` bytes, in 64-bit arithmetic. -/
def sealedLength (n : UInt64) : UInt64 := 16 + (n / 16 + 1) * 16 + 32

end Payload

end IdentityVault
