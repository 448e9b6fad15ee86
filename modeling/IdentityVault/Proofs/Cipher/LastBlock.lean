import IdentityVault.Proofs.Cipher.Blocks

/-! Where the padding of a decrypted text is looked for: only the last block of it matters, and that
block comes from the last two blocks that were received. -/
namespace IdentityVault

namespace Block

/-- The block before the place where `n` blocks end, read from a list of blocks behind the first. -/
theorem getLastD_split (n : Nat) (x : Bytes) :
    (split n (x.drop size)).getLastD (ofBytes x) = ofBytes (x.drop (n * size)) := by
  induction n generalizing x with
  | zero =>
    rw [Nat.zero_mul, List.drop_zero]
    rfl
  | succ n ih =>
    rw [split, List.getLastD_cons, ofBytes_take, ih, List.drop_drop, Nat.succ_mul,
      Nat.add_comm size]

theorem split_succ (n : Nat) (x : Bytes) :
    split (n + 1) x = split n x ++ [ofBytes (x.drop (n * size))] := by
  induction n generalizing x with
  | zero => simp [split, ofBytes_take]
  | succ n ih =>
    rw [split, ih, split, List.cons_append, List.drop_drop, Nat.succ_mul, Nat.add_comm size]

theorem join_concat (blocks : List Block) (b : Block) :
    join (blocks ++ [b]) = join blocks ++ b.toBytes := by
  rw [join, join, List.flatMap_append, List.flatMap_singleton]

end Block

/-- The last block is combined with the block received before it. -/
theorem Chaining.decrypt_concat (cipher : Block → Block) (chain : Block) (cs : List Block)
    (c : Block) : decrypt cipher chain (cs ++ [c]) =
      decrypt cipher chain cs ++ [(cipher c).xor (cs.getLastD chain)] := by
  induction cs generalizing chain with
  | nil => rfl
  | cons first rest ih =>
    rw [List.cons_append, decrypt, decrypt, ih, List.getLastD_cons, List.cons_append]

namespace BlockPadding

/-- The bytes end in `n` bytes of value `n`, for some `n` from one to the size of a block. -/
def Padded (x : Bytes) : Prop :=
  ∃ n, 1 ≤ n ∧ n ≤ Block.size ∧ List.replicate n (UInt8.ofNat n) <:+ x

/-- The number of padding bytes is read off the last byte, which is the only one it can be. -/
theorem unpad?_eq_none_iff (x : Bytes) : unpad? x = none ↔ ¬Padded x := by
  simp only [unpad?, ite_eq_right_iff, reduceCtorEq, imp_false]
  refine not_congr ⟨?_, ?_⟩
  · rintro ⟨hpos, hle, -, hdrop⟩
    exact ⟨_, hpos, hle, hdrop ▸ List.drop_suffix _ x⟩
  · rintro ⟨n, hpos, hle, before, rfl⟩
    have hlength : (before ++ List.replicate n (UInt8.ofNat n)).length - n = before.length := by
      rw [List.length_append, List.length_replicate, Nat.add_sub_cancel]
    rw [getLastD_append_replicate before hpos, toNat_ofNat_of_le hle, hlength]
    refine ⟨hpos, hle, ?_, List.drop_left⟩
    rw [List.length_append, List.length_replicate]
    exact Nat.le_add_left ..

/-- Whether bytes are padded is seen in their last block. -/
theorem padded_append_iff (x : Bytes) (b : Block) :
    Padded (x ++ b.toBytes) ↔ Padded b.toBytes := by
  constructor
  · rintro ⟨n, hpos, hle, hsuffix⟩
    have hshort : (List.replicate n (UInt8.ofNat n)).length ≤ b.toBytes.length := by
      rw [List.length_replicate]
      exact hle
    exact ⟨n, hpos, hle,
      List.suffix_of_suffix_length_le hsuffix (List.suffix_append x b.toBytes) hshort⟩
  · rintro ⟨n, hpos, hle, hsuffix⟩
    exact ⟨n, hpos, hle, hsuffix.trans (List.suffix_append x b.toBytes)⟩

end BlockPadding

end IdentityVault
