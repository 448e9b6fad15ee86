import IdentityVault.Hash.Pbkdf2
import Mathlib.Data.List.Basic

/-! Which keys a keyed hash does not tell apart before it hashes anything. A key enters as one
block, hashed when it is longer and filled up with zeros, so zeros at its end do not count. -/
namespace IdentityVault.Hmac

variable {σ : Type} {H : BlockHash σ} {key other : Bytes}

/-- A key as it is filled up with zeros. -/
def condensed (H : BlockHash σ) (key : Bytes) : Bytes :=
  if key.length ≤ BlockHash.blockLength then key else H.digest key

theorem keyBlock_eq (H : BlockHash σ) (key : Bytes) : keyBlock H key =
    condensed H key ++ List.replicate (BlockHash.blockLength - (condensed H key).length) 0 := rfl

theorem length_condensed_le (hdigest : (H.digest key).length ≤ BlockHash.blockLength) :
    (condensed H key).length ≤ BlockHash.blockLength := by
  unfold condensed
  split
  case isTrue hshort => exact hshort
  case isFalse => exact hdigest

/-- One of two texts is the other with zeros behind it. -/
def ZerosApart (a b : Bytes) : Prop :=
  ∃ n, b = a ++ List.replicate n 0 ∨ a = b ++ List.replicate n 0

theorem ZerosApart.symm {a b : Bytes} (h : ZerosApart a b) : ZerosApart b a := by
  obtain ⟨n, hn⟩ := h
  exact ⟨n, hn.symm⟩

/-- Where the shorter text filled up with zeros begins with the longer one, only zeros part them. -/
theorem zerosApart_of_filled {a b : Bytes} {m n : Nat} (hle : a.length ≤ b.length)
    (h : a ++ List.replicate m 0 = b ++ List.replicate n 0) : ZerosApart a b := by
  refine ⟨b.length - a.length, .inl ?_⟩
  have hlengths := congrArg List.length h
  simp only [List.length_append, List.length_replicate] at hlengths
  have hmin : min (b.length - a.length) m = b.length - a.length := by omega
  have hb : b = (a ++ List.replicate m 0).take b.length := by
    rw [h, List.take_left]
  rw [List.take_append, List.take_of_length_le hle, List.take_replicate, hmin] at hb
  exact hb

/-- Texts that fit into a block fill it up in the same way if they are zeros apart. -/
theorem filled_eq_iff {a b : Bytes} {size : Nat} (ha : a.length ≤ size) (hb : b.length ≤ size) :
    a ++ List.replicate (size - a.length) 0 = b ++ List.replicate (size - b.length) 0 ↔
      ZerosApart a b := by
  constructor
  · intro h
    rcases Nat.le_total a.length b.length with hle | hle
    · exact zerosApart_of_filled hle h
    · exact (zerosApart_of_filled hle h.symm).symm
  · have hfill {a : Bytes} {n : Nat} (hn : (a ++ List.replicate n (0 : UInt8)).length ≤ size) :
        a ++ List.replicate (size - a.length) 0 = (a ++ List.replicate n 0) ++
          List.replicate (size - (a ++ List.replicate n (0 : UInt8)).length) 0 := by
      simp only [List.length_append, List.length_replicate] at hn ⊢
      rw [List.append_assoc, List.replicate_append_replicate]
      congr 2
      omega
    rintro ⟨n, rfl | rfl⟩
    · exact hfill hb
    · exact (hfill ha).symm

theorem length_digest_sha1_le (message : Bytes) :
    (sha1.digest message).length ≤ BlockHash.blockLength := by
  have hlength : (sha1.digest message).length = 20 := rfl
  rw [hlength]
  decide

/-- Two keys enter a keyed hash as the same block exactly when, hashed where they are long, they are
zeros apart. -/
theorem keyBlock_eq_iff (hkey : (H.digest key).length ≤ BlockHash.blockLength)
    (hother : (H.digest other).length ≤ BlockHash.blockLength) :
    keyBlock H key = keyBlock H other ↔ ZerosApart (condensed H key) (condensed H other) := by
  rw [keyBlock_eq, keyBlock_eq]
  exact filled_eq_iff (length_condensed_le hkey) (length_condensed_le hother)

/-- Nothing that is derived from a key depends on more than its block. -/
theorem prepare_congr (h : keyBlock H key = keyBlock H other) :
    prepare H key = prepare H other := by
  simp only [prepare, h]

end IdentityVault.Hmac
