import IdentityVault.Cipher.Aes

/-! AES decryption and encryption under one key schedule undo each other. Every layer of a round
has an inverse, and the rounds are undone from the last to the first. -/
namespace IdentityVault.Aes

section Substitution

theorem substitute_eq (x : UInt8) : substitute x = substitution.toList.getD x.toNat 0 := by
  simp [substitute, Array.getD_eq_getD_getElem?, List.getD_eq_getElem?_getD]

theorem unsubstitute_eq (x : UInt8) :
    unsubstitute x = inverseSubstitution.toList.getD x.toNat 0 := by
  simp [unsubstitute, Array.getD_eq_getD_getElem?, List.getD_eq_getElem?_getD]

private theorem inverse_of_table {table inverse : List UInt8}
    (h : (table.map fun y => inverse.getD y.toNat 0) = (List.range 256).map UInt8.ofNat)
    (x : UInt8) : inverse.getD (table.getD x.toNat 0).toNat 0 = x := by
  have hx : x.toNat < 256 := x.toNat_lt
  have hlen := congrArg List.length h
  simp only [List.length_map, List.length_range] at hlen
  have hlt : x.toNat < table.length := by omega
  have hget := congrArg (fun l => l[x.toNat]?) h
  simp only [List.getElem?_map, List.getElem?_range hx, Option.map_some,
    List.getElem?_eq_getElem hlt, Option.some.injEq] at hget
  have htable : table.getD x.toNat 0 = table[x.toNat] := by
    rw [List.getD_eq_getElem?_getD, List.getElem?_eq_getElem hlt, Option.getD_some]
  rw [htable, hget]
  exact UInt8.ofNat_toNat

private theorem table_inverse :
    (substitution.toList.map fun y => inverseSubstitution.toList.getD y.toNat 0) =
      (List.range 256).map UInt8.ofNat := by decide +kernel

private theorem inverse_table :
    (inverseSubstitution.toList.map fun y => substitution.toList.getD y.toNat 0) =
      (List.range 256).map UInt8.ofNat := by decide +kernel

theorem unsubstitute_substitute (x : UInt8) : unsubstitute (substitute x) = x := by
  rw [substitute_eq, unsubstitute_eq]
  exact inverse_of_table table_inverse x

theorem substitute_unsubstitute (x : UInt8) : substitute (unsubstitute x) = x := by
  rw [substitute_eq, unsubstitute_eq]
  exact inverse_of_table inverse_table x

theorem map_map_cancel {f g : UInt8 → UInt8} (h : ∀ x, g (f x) = x) (b : Block) :
    (b.map f).map g = b := by
  simp only [Block.map, Column.map, h]

end Substitution

section MixColumns

private theorem xor_left_cancel (a b : UInt8) : a ^^^ (a ^^^ b) = b := by
  rw [← UInt8.xor_assoc, UInt8.xor_self, UInt8.zero_xor]

private theorem xor_left_comm (a b c : UInt8) : a ^^^ (b ^^^ c) = b ^^^ (a ^^^ c) := by
  rw [← UInt8.xor_assoc, ← UInt8.xor_assoc, UInt8.xor_comm a]

private theorem highBit_cases (b : UInt8) : b &&& 0x80 = 0 ∨ b &&& 0x80 = 0x80 := by
  have h : (b &&& 0x80).toBitVec = if b.toBitVec.getLsbD 7 then 0x80#8 else 0#8 := by
    rw [UInt8.toBitVec_and]
    exact BitVec.and_twoPow b.toBitVec 7
  rw [← UInt8.toBitVec_inj, ← UInt8.toBitVec_inj, h]
  split
  · exact Or.inr rfl
  · exact Or.inl rfl

private theorem highBit_xor (a b : UInt8) :
    (a ^^^ b) &&& 0x80 = (a &&& 0x80) ^^^ (b &&& 0x80) := by
  apply UInt8.toBitVec_inj.1
  simp only [UInt8.toBitVec_and, UInt8.toBitVec_xor]
  ext i
  simp [Bool.and_xor_distrib_right]

/-- Doubling is linear: the reduction is made twice, or not at all, where the high bits agree. -/
theorem double_xor (a b : UInt8) : double (a ^^^ b) = double a ^^^ double b := by
  unfold double
  rw [highBit_xor, UInt8.shiftLeft_xor]
  rcases highBit_cases a with ha | ha <;> rcases highBit_cases b with hb | hb <;>
    simp [ha, hb]
  · ac_rfl
  · ac_rfl
  · rw [UInt8.xor_assoc, UInt8.xor_comm (b <<< 1), xor_left_cancel]

theorem mixColumn_mk (a b c d : UInt8) :
    mixColumn ⟨a, b, c, d⟩ =
      ⟨double (a ^^^ b) ^^^ (b ^^^ c ^^^ d), double (b ^^^ c) ^^^ (c ^^^ d ^^^ a),
        double (c ^^^ d) ^^^ (d ^^^ a ^^^ b), double (d ^^^ a) ^^^ (a ^^^ b ^^^ c)⟩ := by
  simp only [mixColumn, triple, double_xor, Column.mk.injEq]
  refine ⟨?_, ?_, ?_, ?_⟩ <;> ac_rfl

/-- What `unmixColumn` does before it mixes. -/
def foldColumn (x : Column) : Column :=
  let u := double (double (x.r0 ^^^ x.r2))
  let v := double (double (x.r1 ^^^ x.r3))
  ⟨x.r0 ^^^ u, x.r1 ^^^ v, x.r2 ^^^ u, x.r3 ^^^ v⟩

theorem unmixColumn_eq (x : Column) : unmixColumn x = mixColumn (foldColumn x) := rfl

/-- The square of the matrix of `mixColumn`. -/
theorem mixColumn_mixColumn (x : Column) : mixColumn (mixColumn x) = foldColumn x := by
  obtain ⟨a, b, c, d⟩ := x
  simp only [foldColumn, mixColumn_mk, double_xor, Column.mk.injEq]
  refine ⟨?_, ?_, ?_, ?_⟩ <;>
    simp only [UInt8.xor_assoc, UInt8.xor_comm, xor_left_comm, xor_left_cancel, UInt8.xor_self,
      UInt8.zero_xor]

theorem foldColumn_foldColumn (x : Column) : foldColumn (foldColumn x) = x := by
  obtain ⟨a, b, c, d⟩ := x
  have cancel (p q u : UInt8) : p ^^^ u ^^^ (q ^^^ u) = p ^^^ q := by
    rw [UInt8.xor_comm q, UInt8.xor_assoc, xor_left_cancel]
  have twice (p u : UInt8) : p ^^^ u ^^^ u = p := by
    rw [UInt8.xor_assoc, UInt8.xor_self, UInt8.xor_zero]
  simp only [foldColumn, cancel, twice]

/-- Mixing four times changes nothing, so mixing three times undoes it. -/
theorem unmixColumn_mixColumn (x : Column) : unmixColumn (mixColumn x) = x := by
  rw [unmixColumn_eq, ← mixColumn_mixColumn, mixColumn_mixColumn, mixColumn_mixColumn,
    foldColumn_foldColumn]

theorem mixColumn_unmixColumn (x : Column) : mixColumn (unmixColumn x) = x := by
  rw [unmixColumn_eq, mixColumn_mixColumn, foldColumn_foldColumn]

theorem unmixColumns_mixColumns (b : Block) : unmixColumns (mixColumns b) = b := by
  simp only [unmixColumns, mixColumns, unmixColumn_mixColumn]

theorem mixColumns_unmixColumns (b : Block) : mixColumns (unmixColumns b) = b := by
  simp only [unmixColumns, mixColumns, mixColumn_unmixColumn]

end MixColumns

section Rounds

theorem unshiftRows_shiftRows (b : Block) : unshiftRows (shiftRows b) = b := rfl

theorem shiftRows_unshiftRows (b : Block) : shiftRows (unshiftRows b) = b := rfl

theorem decryptRound_encryptRound (state key : Block) :
    decryptRound (encryptRound state key) key = state := by
  unfold encryptRound decryptRound
  rw [Block.xor_xor_cancel_right, unmixColumns_mixColumns, unshiftRows_shiftRows,
    map_map_cancel unsubstitute_substitute]

theorem encryptRound_decryptRound (state key : Block) :
    encryptRound (decryptRound state key) key = state := by
  unfold encryptRound decryptRound
  rw [map_map_cancel substitute_unsubstitute, shiftRows_unshiftRows, mixColumns_unmixColumns,
    Block.xor_xor_cancel_right]

/-- Steps that are undone one by one, from the last to the first. -/
theorem foldl_reverse_foldl {σ κ : Type} {f g : σ → κ → σ} (h : ∀ s k, g (f s k) k = s)
    (keys : List κ) (s : σ) : keys.reverse.foldl g (keys.foldl f s) = s := by
  induction keys generalizing s with
  | nil => rfl
  | cons k keys ih =>
    rw [List.foldl_cons, List.reverse_cons, List.foldl_append, ih]
    exact h s k

theorem decrypt_encrypt (keys : KeySchedule) (b : Block) : decrypt keys (encrypt keys b) = b := by
  rw [encrypt, decrypt]
  simp only [Block.xor_xor_cancel_right, unshiftRows_shiftRows,
    map_map_cancel unsubstitute_substitute, foldl_reverse_foldl decryptRound_encryptRound]

theorem encrypt_decrypt (keys : KeySchedule) (b : Block) : encrypt keys (decrypt keys b) = b := by
  have hfold (s : Block) : keys.middle.foldl encryptRound
      (keys.middle.reverse.foldl decryptRound s) = s := by
    have := foldl_reverse_foldl encryptRound_decryptRound keys.middle.reverse s
    rwa [List.reverse_reverse] at this
  rw [encrypt, decrypt]
  simp only [Block.xor_xor_cancel_right, hfold, map_map_cancel substitute_unsubstitute,
    shiftRows_unshiftRows]

end Rounds

end IdentityVault.Aes
