import IdentityVault.Proofs.Seal.Canonical
import IdentityVault.Store.Bundle
import Mathlib.Algebra.Group.Nat.Defs
import Mathlib.Tactic.SplitIfs

/-! How long a sealed text is, which word is computed for that length, and what a store takes the
payload for. The word is right as long as one can hold the length, and the length tells only how
many whole blocks the text has. -/
namespace IdentityVault

namespace Payload

/-- The word of a number that fits one. -/
def word? (n : Nat) : Option UInt64 := if n < 2 ^ 64 then some (.ofNat n) else none

theorem word?_eq_some_iff {n : Nat} {w : UInt64} : word? n = some w ↔ w.toNat = n := by
  have hw := w.toNat_lt
  unfold word?
  split_ifs with hfits
  · rw [Option.some.injEq, ← UInt64.toNat_inj, UInt64.toNat_ofNat_of_lt' hfits, eq_comm]
  · constructor
    · intro hnone
      cases hnone
    · intro heq
      omega

theorem exists_word {n : Nat} (hfits : n < 2 ^ 64) : ∃ w : UInt64, w.toNat = n :=
  ⟨.ofNat n, UInt64.toNat_ofNat_of_lt' hfits⟩

/-- `sealedLength` with a word for every sum and product, as long as it fits. -/
def sealedLength? (n : UInt64) : Option UInt64 := do
  let blocks ← word? (n.toNat / 16 + 1)
  let body ← word? (blocks.toNat * 16)
  let region ← word? (16 + body.toNat)
  word? (region.toNat + 32)

/-- What is computed without wrapping is the length. -/
theorem sealedLength?_eq_some_iff {n w : UInt64} :
    sealedLength? n = some w ↔ w.toNat = 64 + 16 * (n.toNat / 16) := by
  have hw := w.toNat_lt
  simp only [sealedLength?, Option.bind_eq_bind, Option.bind_eq_some_iff, word?_eq_some_iff]
  constructor
  · rintro ⟨blocks, hblocks, body, hbody, region, hregion, htotal⟩
    omega
  · intro htotal
    -- The total is the largest of the numbers, so that the others fit when it does.
    obtain ⟨blocks, hblocks⟩ := exists_word (n := n.toNat / 16 + 1) (by omega)
    obtain ⟨body, hbody⟩ := exists_word (n := blocks.toNat * 16) (by omega)
    obtain ⟨region, hregion⟩ := exists_word (n := 16 + body.toNat) (by omega)
    exact ⟨blocks, hblocks, body, hbody, region, hregion, by omega⟩

theorem toNat_sealedLength (n : UInt64) :
    (sealedLength n).toNat = (64 + 16 * (n.toNat / 16)) % 2 ^ 64 := by
  simp only [sealedLength, UInt64.toNat_add, UInt64.toNat_mul, UInt64.toNat_div,
    UInt64.reduceToNat]
  omega

theorem sealedLength?_eq_sealedLength_iff (n : UInt64) :
    sealedLength? n = some (sealedLength n) ↔ n.toNat ≤ 2 ^ 64 - 65 := by
  rw [sealedLength?_eq_some_iff, toNat_sealedLength]
  omega

theorem sealedLength?_eq_none_iff (n : UInt64) :
    sealedLength? n = none ↔ 2 ^ 64 - 65 < n.toNat := by
  constructor
  · intro hnone
    apply Nat.lt_of_not_le
    intro hle
    rw [(sealedLength?_eq_sealedLength_iff n).2 hle] at hnone
    cases hnone
  · intro hlarge
    rw [Option.eq_none_iff_forall_ne_some]
    intro w hsome
    have hw := w.toNat_lt
    rw [sealedLength?_eq_some_iff] at hsome
    omega

/-- The word that is computed for a text is the length of the sealed text, less all that a word
cannot hold. -/
theorem sealedLength_ofNat (keys : KeyMaterial) (vector : Block) (text : Bytes) :
    sealedLength (.ofNat text.length) = .ofNat (sealed keys vector text).length := by
  rw [← UInt64.toNat_inj, toNat_sealedLength, UInt64.toNat_ofNat', UInt64.toNat_ofNat',
    length_sealed_eq]
  omega

/-- As numbers the two are equal for every text but those that are too long for a machine. -/
theorem toNat_sealedLength_eq_iff (keys : KeyMaterial) (vector : Block) (text : Bytes) :
    (sealedLength (.ofNat text.length)).toNat = (sealed keys vector text).length ↔
      text.length ≤ 2 ^ 64 - 65 := by
  rw [sealedLength_ofNat keys vector, UInt64.toNat_ofNat', length_sealed_eq]
  omega

/-- What a store takes a payload for, by the length of the text that was sealed. -/
structure Stored (payload : Bytes) (length : Nat) : Prop where
  plain_iff : Bundle.ofBytes payload = .ok (.plain payload) ↔ length ≤ 15
  sealed_iff : Bundle.ofBytes payload = .ok (.sealed payload) ↔ 64 ≤ length ∧ length ≤ 79
  corrupt_iff : Bundle.ofBytes payload = .error (.corruptIdentity payload.length) ↔
    ¬length ≤ 15 ∧ ¬(64 ≤ length ∧ length ≤ 79)
  sealed_of_identity (identity : length = Bundle.plainLength) :
    Bundle.ofBytes payload = .ok (.sealed payload)

theorem stored_of_length {payload : Bytes} {length : Nat}
    (hlength : payload.length = 64 + 16 * (length / 16)) : Stored payload length := by
  have hsealed : Bundle.ofBytes payload = .ok (.sealed payload) ↔ 64 ≤ length ∧ length ≤ 79 := by
    rw [Bundle.ofBytes_eq_sealed_iff, eq_self, true_and, hlength, Bundle.sealedLength]
    omega
  refine ⟨?_, hsealed, ?_, fun identity => hsealed.2 ?_⟩
  · rw [Bundle.ofBytes_eq_plain_iff, eq_self, true_and, hlength, Bundle.plainLength]
    omega
  · rw [Bundle.ofBytes_eq_error_iff, eq_self, true_and, hlength, Bundle.plainLength,
      Bundle.sealedLength]
    omega
  · rw [identity, Bundle.plainLength]
    omega

/-- The length of a sealed text, the word for it, and what becomes of it. -/
structure SealedLengths : Prop where
  length_eq (keys : KeyMaterial) (vector : Block) (text : Bytes) :
    (sealed keys vector text).length = 64 + 16 * (text.length / 16)
  word_eq (keys : KeyMaterial) (vector : Block) (text : Bytes) :
    sealedLength (.ofNat text.length) = .ofNat (sealed keys vector text).length
  toNat_word_eq_iff (keys : KeyMaterial) (vector : Block) (text : Bytes) :
    (sealedLength (.ofNat text.length)).toNat = (sealed keys vector text).length ↔
      text.length ≤ 2 ^ 64 - 65
  exact_iff (n : UInt64) : sealedLength? n = some (sealedLength n) ↔ n.toNat ≤ 2 ^ 64 - 65
  wraps_iff (n : UInt64) : sealedLength? n = none ↔ 2 ^ 64 - 65 < n.toNat
  /-- The word for a length, whether or not it wraps. -/
  toNat_eq (n : UInt64) : (sealedLength n).toNat = 64 + 16 * (n.toNat / 16) -
    if n.toNat ≤ 2 ^ 64 - 65 then 0 else 2 ^ 64
  stored (keys : KeyMaterial) (vector : Block) (text : Bytes) :
    Stored (sealed keys vector text) text.length

theorem sealed_lengths : SealedLengths where
  length_eq := length_sealed_eq
  word_eq := sealedLength_ofNat
  toNat_word_eq_iff := toNat_sealedLength_eq_iff
  exact_iff := sealedLength?_eq_sealedLength_iff
  wraps_iff := sealedLength?_eq_none_iff
  toNat_eq n := by
    have hn := n.toNat_lt
    rw [toNat_sealedLength]
    split_ifs with hexact
    · omega
    · omega
  stored keys vector text := stored_of_length (length_sealed_eq keys vector text)

/-- The last length that is computed exactly, and the first that is not. -/
example : [sealedLength? 18446744073709551551, sealedLength? 18446744073709551552] =
    [some 18446744073709551600, none] := by decide

end Payload

end IdentityVault
