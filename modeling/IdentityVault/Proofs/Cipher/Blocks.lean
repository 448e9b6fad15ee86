import IdentityVault.Cipher.BlockPadding
import IdentityVault.Cipher.Chaining

/-! Byte strings of whole blocks are lists of blocks, chaining is a bijection on lists of blocks,
and padding has exactly one inverse. -/
namespace IdentityVault

namespace Block

theorem toBytes_ofBytes {x : Bytes} (h : x.length = size) : (ofBytes x).toBytes = x := by
  have hx : x = (List.range size).map fun i => x.getD i 0 := by
    apply List.ext_getElem?
    intro i
    by_cases hi : i < size
    · have hlt : i < x.length := h ▸ hi
      simp [List.getElem?_range hi, List.getElem?_eq_getElem hlt]
    · have hle : x.length ≤ i := by omega
      have hge : size ≤ i := by omega
      simp [List.getElem?_eq_none hle, hge]
  rw [hx]
  rfl

/-- Only the first sixteen bytes matter. -/
theorem ofBytes_take (x : Bytes) : ofBytes (x.take size) = ofBytes x := by
  have hget (i : Nat) (hi : i < size) : (x.take size).getD i 0 = x.getD i 0 := by
    rw [List.getD_eq_getElem?_getD, List.getD_eq_getElem?_getD, List.getElem?_take_of_lt hi]
  simp only [size] at hget
  simp only [ofBytes, size, hget, Nat.reduceLT, Nat.reduceAdd]

@[simp] theorem length_join (blocks : List Block) :
    (join blocks).length = blocks.length * size := by
  induction blocks with
  | nil => rfl
  | cons b blocks ih =>
    rw [join, List.flatMap_cons, List.length_append, length_toBytes, List.length_cons,
      Nat.add_mul, Nat.one_mul, Nat.add_comm, ← ih, join]

theorem split_join (blocks : List Block) : split blocks.length (join blocks) = blocks := by
  induction blocks with
  | nil => rfl
  | cons b blocks ih =>
    have htake : (join (b :: blocks)).take size = b.toBytes := List.take_left' rfl
    have hdrop : (join (b :: blocks)).drop size = join blocks := List.drop_left' rfl
    rw [List.length_cons, split, htake, hdrop, ofBytes_toBytes, ih]

theorem join_split {n : Nat} {x : Bytes} (h : x.length = n * size) : join (split n x) = x := by
  induction n generalizing x with
  | zero =>
    rw [Nat.zero_mul] at h
    rw [List.length_eq_zero_iff.1 h]
    rfl
  | succ n ih =>
    rw [Nat.succ_mul] at h
    have htake : (x.take size).length = size := by
      rw [List.length_take]
      omega
    have hdrop : (x.drop size).length = n * size := by
      rw [List.length_drop]
      omega
    rw [split, join, List.flatMap_cons, toBytes_ofBytes htake]
    have := ih hdrop
    rw [join] at this
    rw [this, List.take_append_drop]

end Block

namespace Chaining

/-- Encryption undoes decryption when the block ciphers do. -/
theorem encrypt_decrypt {cipher inverse : Block → Block} (h : ∀ b, cipher (inverse b) = b)
    (chain : Block) (cs : List Block) :
    encrypt cipher chain (decrypt inverse chain cs) = cs := by
  induction cs generalizing chain with
  | nil => rfl
  | cons c cs ih => simp [encrypt, decrypt, h, ih]

end Chaining

namespace BlockPadding

theorem getLastD_append_replicate (x : Bytes) {n : Nat} (h : 1 ≤ n) (b : UInt8) :
    (x ++ List.replicate n b).getLastD 0 = b := by
  rw [List.getLastD_eq_getLast?, List.getLast?_append, List.getLast?_replicate, if_neg (by omega)]
  rfl

theorem getLastD_pad (text : Bytes) :
    (pad text).getLastD 0 = UInt8.ofNat (count text.length) :=
  getLastD_append_replicate text (count_pos _) _

/-- A number of padding bytes fits in a byte. -/
theorem toNat_ofNat_of_le {n : Nat} (h : n ≤ Block.size) : (UInt8.ofNat n).toNat = n := by
  unfold Block.size at h
  rw [UInt8.toNat_ofNat']
  omega

theorem toNat_ofNat_count (length : Nat) : (UInt8.ofNat (count length)).toNat = count length :=
  toNat_ofNat_of_le (count_le length)

theorem unpad?_pad (text : Bytes) : unpad? (pad text) = some text := by
  have hlen : (pad text).length = text.length + count text.length := by
    unfold pad
    rw [List.length_append, List.length_replicate]
  have hsub : (pad text).length - count text.length = text.length := by omega
  simp only [unpad?, getLastD_pad, toNat_ofNat_count, hsub]
  rw [if_pos, pad, List.take_left]
  refine ⟨count_pos _, count_le _, by omega, ?_⟩
  unfold pad
  rw [List.drop_left]

/-- Padding that is accepted is the padding of the text it gives: every padding byte is checked,
and their number is fixed by the length. -/
theorem eq_pad_of_unpad? {padded text : Bytes} (hlen : padded.length % Block.size = 0)
    (h : unpad? padded = some text) : padded = pad text := by
  simp only [unpad?] at h
  split at h
  case isFalse => cases h
  case isTrue hc =>
    obtain ⟨hpos, hle, hfit, hdrop⟩ := hc
    generalize (padded.getLastD 0).toNat = n at hpos hle hfit hdrop h
    have htext : text = padded.take (padded.length - n) := (Option.some.inj h).symm
    have hcount : count text.length = n := by
      rw [htext, List.length_take, count]
      simp only [Block.size] at hlen hle ⊢
      omega
    unfold pad
    rw [hcount, ← hdrop, htext, List.take_append_drop]

end BlockPadding

end IdentityVault
