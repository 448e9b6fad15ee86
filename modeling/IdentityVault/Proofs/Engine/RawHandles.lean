import IdentityVault.Proofs.Engine.Slots
import Mathlib.Data.Nat.Bitwise

/-! Which handle a word stands for, in numbers. -/
namespace IdentityVault.Handle

variable {h : Handle} {raw : UInt64}

/-- The lower half of a raw handle counts the slots from one. The number of the last slot would
spill over into the upper half. -/
theorem toNat_toRaw (hindex : h.index.toNat ≤ SlotTable.maximumSlots) :
    h.toRaw.toNat = 2 ^ 32 * h.generation.toNat + (h.index.toNat + 1) := by
  rw [SlotTable.maximumSlots] at hindex
  have hgeneration := h.generation.toNat_lt
  have hupper : (h.generation.toUInt64 <<< 32).toNat = 2 ^ 32 * h.generation.toNat := by
    rw [UInt64.toNat_shiftLeft, UInt32.toNat_toUInt64, Nat.shiftLeft_eq]
    simp only [UInt64.reduceToNat, Nat.reduceMod]
    omega
  have hlower : (h.index.toUInt64 + 1).toNat = h.index.toNat + 1 := by
    rw [UInt64.toNat_add, UInt32.toNat_toUInt64, UInt64.toNat_one]
    omega
  rw [toRaw, UInt64.toNat_or, hupper, hlower, Nat.two_pow_add_eq_or_of_lt (by omega)]

theorem toNat_lowerHalf (raw : UInt64) : (raw &&& 0xffffffff).toNat = raw.toNat % 2 ^ 32 := by
  rw [UInt64.toNat_and]
  exact Nat.and_two_pow_sub_one_eq_mod raw.toNat 32

/-- Any generation will do, so that only the lower half can be wrong. -/
theorem ofRaw?_eq_none_iff : ofRaw? raw = none ↔ raw.toNat % 2 ^ 32 = 0 := by
  rw [← toNat_lowerHalf, ← UInt64.toNat_zero, UInt64.toNat_inj]
  simp only [ofRaw?]
  split_ifs with hzero <;> simp [hzero]

theorem ofRaw?_eq_some_iff : ofRaw? raw = some h ↔
    raw.toNat % 2 ^ 32 = h.index.toNat + 1 ∧ raw.toNat / 2 ^ 32 = h.generation.toNat := by
  have hraw := raw.toNat_lt
  have hslot := toNat_lowerHalf raw
  have hgeneration : (raw >>> 32).toUInt32.toNat = raw.toNat / 2 ^ 32 := by
    rw [UInt64.toNat_toUInt32, UInt64.toNat_shiftRight, Nat.shiftRight_eq_div_pow]
    simp only [UInt64.reduceToNat, Nat.reduceMod]
    omega
  simp only [ofRaw?]
  split_ifs with hzero
  · have hnone : raw.toNat % 2 ^ 32 = 0 := by
      rw [← hslot, hzero]
      rfl
    rw [hnone]
    simp
  · have hpositive : 0 < raw.toNat % 2 ^ 32 := by
      rw [← hslot]
      exact Nat.pos_of_ne_zero fun h => hzero (UInt64.toNat_inj.1 h)
    have hindex : ((raw &&& 0xffffffff) - 1).toUInt32.toNat = raw.toNat % 2 ^ 32 - 1 := by
      have hone : (1 : UInt64) ≤ raw &&& 0xffffffff := by
        rw [UInt64.le_iff_toNat_le, hslot]
        exact hpositive
      rw [UInt64.toNat_toUInt32, UInt64.toNat_sub_of_le _ _ hone, hslot, UInt64.toNat_one]
      omega
    rw [Option.some.injEq]
    constructor
    · rintro rfl
      refine ⟨?_, hgeneration.symm⟩
      change _ = ((raw &&& 0xffffffff) - 1).toUInt32.toNat + 1
      omega
    · rintro ⟨hlower, hupper⟩
      exact eq_of (UInt32.toNat_inj.1 (hindex.trans (by omega)))
        (UInt32.toNat_inj.1 (hgeneration.trans hupper))

/-- The word of a handle is the only word that stands for it. -/
theorem toRaw_of_ofRaw? (hraw : ofRaw? raw = some h) : h.toRaw = raw := by
  obtain ⟨hlower, hupper⟩ := ofRaw?_eq_some_iff.1 hraw
  have hindex : h.index.toNat ≤ SlotTable.maximumSlots := by
    rw [SlotTable.maximumSlots]
    omega
  rw [← UInt64.toNat_inj, toNat_toRaw hindex]
  omega

theorem ofRaw?_toRaw (hindex : h.index.toNat ≤ SlotTable.maximumSlots) :
    ofRaw? h.toRaw = some h := by
  rw [ofRaw?_eq_some_iff, toNat_toRaw hindex]
  rw [SlotTable.maximumSlots] at hindex
  omega

theorem toRaw_ne_zero (hindex : h.index.toNat ≤ SlotTable.maximumSlots) : h.toRaw ≠ 0 := by
  rw [ne_eq, ← UInt64.toNat_inj, toNat_toRaw hindex, UInt64.toNat_zero]
  omega

end IdentityVault.Handle
