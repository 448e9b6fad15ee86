import IdentityVault.Bytes

/-! Iterated hash functions with blocks of 64 bytes: padding, absorbing a message from any
state, and the digest. -/
namespace IdentityVault

/-- A compression function with its initial state and the text of its final state. -/
structure BlockHash (σ : Type) where
  initial : σ
  compress : σ → Bytes → σ
  output : σ → Bytes
  outputLength : Nat

namespace BlockHash

/-- Bytes in one block. -/
def blockLength : Nat := 64

/-- One bit, zeros, and the length in bits as eight bytes, up to the end of a block. -/
def padding (length : Nat) : Bytes :=
  0x80 :: (List.replicate ((119 - length % 64) % 64) 0 ++ Bytes.bigEndian 8 (8 * length))

variable {σ : Type} (H : BlockHash σ)

/-- Compress the first `n` blocks of a message into a state. -/
def absorb : Nat → σ → Bytes → σ
  | 0, s, _ => s
  | n + 1, s, m => absorb n (H.compress s (m.take blockLength)) (m.drop blockLength)

/-- The digest of a message whose first `absorbed` bytes are already in the state. -/
def finish (s : σ) (absorbed : Nat) (message : Bytes) : Bytes :=
  let padded := message ++ padding (absorbed + message.length)
  H.output (H.absorb (padded.length / blockLength) s padded)

def digest (message : Bytes) : Bytes := H.finish H.initial 0 message

end BlockHash

end IdentityVault
