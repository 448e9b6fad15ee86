import IdentityVault.Hash.Sha1
import IdentityVault.Hash.Sha256

/-! Keyed hashing. A prepared key holds the two states that have absorbed the masked key block,
so that signing a message only hashes the message and the inner digest. -/
namespace IdentityVault

namespace Hmac

variable {σ : Type}

/-- The key as one block: hashed when longer, then filled up with zeros. -/
def keyBlock (H : BlockHash σ) (key : Bytes) : Bytes :=
  let k := if key.length ≤ BlockHash.blockLength then key else H.digest key
  k ++ List.replicate (BlockHash.blockLength - k.length) 0

/-- The states after the inner and the outer key block. -/
structure PreparedKey (σ : Type) where
  inner : σ
  outer : σ

def prepare (H : BlockHash σ) (key : Bytes) : PreparedKey σ :=
  let block := keyBlock H key
  ⟨H.compress H.initial (block.map (· ^^^ 0x36)), H.compress H.initial (block.map (· ^^^ 0x5c))⟩

def PreparedKey.sign (H : BlockHash σ) (key : PreparedKey σ) (message : Bytes) : Bytes :=
  H.finish key.outer BlockHash.blockLength (H.finish key.inner BlockHash.blockLength message)

end Hmac

def hmac {σ : Type} (H : BlockHash σ) (key message : Bytes) : Bytes :=
  (Hmac.prepare H key).sign H message

@[simp] theorem length_hmac_sha256 (key message : Bytes) :
    (hmac sha256 key message).length = 32 := rfl

end IdentityVault
