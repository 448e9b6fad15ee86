import IdentityVault.Cipher.Block

/-! Padding to whole blocks: between one and sixteen bytes, each holding their number. -/
namespace IdentityVault.BlockPadding

/-- Bytes that fill up a text of the given length; a whole block if it fits exactly. -/
def count (length : Nat) : Nat := Block.size - length % Block.size

def pad (text : Bytes) : Bytes :=
  text ++ List.replicate (count text.length) (UInt8.ofNat (count text.length))

/-- Undo `pad`; every padding byte is checked. -/
def unpad? (padded : Bytes) : Option Bytes :=
  let n := (padded.getLastD 0).toNat
  if 1 ≤ n ∧ n ≤ Block.size ∧ n ≤ padded.length ∧
      padded.drop (padded.length - n) = List.replicate n (UInt8.ofNat n) then
    some (padded.take (padded.length - n))
  else none

theorem count_pos (length : Nat) : 1 ≤ count length := by
  simp only [count, Block.size]
  omega

theorem count_le (length : Nat) : count length ≤ Block.size := by
  simp only [count, Block.size]
  omega

theorem length_pad (text : Bytes) :
    (pad text).length = (text.length / Block.size + 1) * Block.size := by
  simp only [pad, List.length_append, List.length_replicate, count, Block.size]
  omega

end IdentityVault.BlockPadding
