import IdentityVault.Proofs.Cipher.AesInverse
import IdentityVault.Proofs.Cipher.Blocks
import IdentityVault.Seal.Payload

/-! Opening accepts exactly what sealing produces: a payload has one text, and a text under one
key and one vector has one payload. -/
namespace IdentityVault.Payload

variable (keys : KeyMaterial)

theorem length_encryptBody (vector : Block) (text : Bytes) :
    (encryptBody keys vector text).length = (text.length / Block.size + 1) * Block.size := by
  have hpos : 0 < Block.size := by decide
  simp only [encryptBody, Block.length_join, Chaining.length_encrypt, Block.length_split,
    BlockPadding.length_pad, Nat.mul_div_cancel _ hpos]

theorem length_sealed (vector : Block) (text : Bytes) :
    (sealed keys vector text).length =
      vectorLength + (text.length / Block.size + 1) * Block.size + tagLength := by
  unfold sealed
  rw [List.length_append, List.length_append, length_encryptBody]
  rfl

/-- One vector, one tag, the whole blocks of the text, and the block that the padding completes. -/
theorem length_sealed_eq (vector : Block) (text : Bytes) :
    (sealed keys vector text).length = 64 + 16 * (text.length / 16) := by
  rw [length_sealed, vectorLength, tagLength, Block.size]
  omega

theorem take_sealed (vector : Block) (text : Bytes) :
    (sealed keys vector text).take vectorLength = vector.toBytes := by
  unfold sealed
  rw [List.append_assoc]
  exact List.take_left' rfl

/-- A payload shows its vector. -/
theorem vector_of_sealed_eq {keys keys' : KeyMaterial} {vector vector' : Block} {text text' : Bytes}
    (h : sealed keys vector text = sealed keys' vector' text') : vector = vector' :=
  congrArg Block.ofBytes h

/-- The first block of a text is encrypted together with the vector. -/
theorem first_block_sealed (vector : Block) {text : Bytes} (h : Block.size ≤ text.length) :
    Block.ofBytes ((sealed keys vector text).drop vectorLength) =
      Aes.encrypt (schedule keys) ((Block.ofBytes text).xor vector) := by
  have hpadded : (BlockPadding.pad text).take Block.size = text.take Block.size :=
    List.take_append_of_le_length h
  have hcount : (BlockPadding.pad text).length / Block.size = text.length / Block.size + 1 := by
    rw [BlockPadding.length_pad, Nat.mul_div_cancel _ (by decide)]
  have hdrop (rest : Bytes) : (vector.toBytes ++ rest).drop vectorLength = rest :=
    List.drop_left' rfl
  unfold sealed
  rw [List.append_assoc, hdrop, encryptBody, hcount, Block.split, hpadded,
    Block.ofBytes_take, Chaining.encrypt, Block.join, List.flatMap_cons, List.append_assoc,
    ← Block.ofBytes_take, Block.ofBytes_toBytes_append]

/-- Keys that seal a text to the same bytes encrypt its first block to the same block. -/
theorem encrypt_eq_of_sealed_eq {keys keys' : KeyMaterial} {vector : Block} {text : Bytes}
    (h : Block.size ≤ text.length) (heq : sealed keys vector text = sealed keys' vector text) :
    Aes.encrypt (schedule keys) ((Block.ofBytes text).xor vector) =
      Aes.encrypt (schedule keys') ((Block.ofBytes text).xor vector) := by
  rw [← first_block_sealed keys vector h, heq, first_block_sealed keys' vector h]

theorem decryptBody?_encryptBody (vector : Block) (text : Bytes) :
    decryptBody? keys vector (encryptBody keys vector text) = some text := by
  have hpos : 0 < Block.size := by decide
  have hwhole := BlockPadding.length_pad text
  -- The ciphertext splits into the blocks it was joined from.
  have hsplit : Block.split ((encryptBody keys vector text).length / Block.size)
      (encryptBody keys vector text) = Chaining.encrypt (Aes.encrypt (schedule keys)) vector
        (Block.split ((BlockPadding.pad text).length / Block.size) (BlockPadding.pad text)) := by
    have hcount : (encryptBody keys vector text).length / Block.size =
        (Chaining.encrypt (Aes.encrypt (schedule keys)) vector (Block.split
          ((BlockPadding.pad text).length / Block.size) (BlockPadding.pad text))).length := by
      unfold encryptBody
      rw [Block.length_join, Nat.mul_div_cancel _ hpos]
    rw [hcount]
    exact Block.split_join _
  unfold decryptBody?
  rw [hsplit, Chaining.decrypt_encrypt (Aes.decrypt_encrypt (schedule keys)),
    Block.join_split, BlockPadding.unpad?_pad]
  rw [hwhole, Nat.mul_div_cancel _ hpos]

theorem encryptBody_of_decryptBody? {vector : Block} {body text : Bytes}
    (hbody : body.length % Block.size = 0) (h : decryptBody? keys vector body = some text) :
    encryptBody keys vector text = body := by
  have hpos : 0 < Block.size := by decide
  have hwhole : body.length = body.length / Block.size * Block.size :=
    (Nat.div_mul_cancel (Nat.dvd_of_mod_eq_zero hbody)).symm
  unfold decryptBody? at h
  generalize hblocks : Chaining.decrypt (Aes.decrypt (schedule keys)) vector
    (Block.split (body.length / Block.size) body) = blocks at h
  have hcount : blocks.length = body.length / Block.size := by
    rw [← hblocks, Chaining.length_decrypt, Block.length_split]
  -- The padded text is the joined blocks, since every padding byte was checked.
  have hpad : Block.join blocks = BlockPadding.pad text := by
    apply BlockPadding.eq_pad_of_unpad? _ h
    rw [Block.length_join, Nat.mul_mod_left]
  rw [encryptBody, ← hpad, Block.length_join, Nat.mul_div_cancel _ hpos, Block.split_join,
    ← hblocks, Chaining.encrypt_decrypt (Aes.encrypt_decrypt (schedule keys)),
    Block.join_split hwhole]

/-- What the tag of a sealed text is taken over. -/
def region (vector : Block) (text : Bytes) : Bytes := vector.toBytes ++ encryptBody keys vector text

/-- Other keys open a sealed text as far as they give its region the same tag. -/
theorem opened_sealed_other (other : KeyMaterial) (vector : Block) (text : Bytes) :
    opened other (sealed keys vector text) =
      if tag other (region keys vector text) ≠ tag keys (region keys vector text) then
        .error .authentication
      else match decryptBody? other vector (encryptBody keys vector text) with
        | some found => .ok found
        | none => .error .padding := by
  have hlen := length_sealed keys vector text
  have hlong : ¬ (sealed keys vector text).length < minimumLength := by
    rw [hlen, minimumLength, vectorLength, Block.size]
    omega
  have hregion : (sealed keys vector text).length - tagLength =
      (region keys vector text).length := by
    rw [hlen, region, List.length_append, length_encryptBody]
    exact Nat.add_sub_cancel _ _
  have htake : (sealed keys vector text).take ((sealed keys vector text).length - tagLength) =
      region keys vector text := List.take_left' hregion.symm
  have hdrop : (sealed keys vector text).drop ((sealed keys vector text).length - tagLength) =
      tag keys (region keys vector text) := List.drop_left' hregion.symm
  have hbody : (region keys vector text).drop vectorLength =
      encryptBody keys vector text := List.drop_left' rfl
  have hvector : Block.ofBytes (region keys vector text) = vector := rfl
  have hwhole : (encryptBody keys vector text).length % Block.size = 0 := by
    rw [length_encryptBody, Nat.mul_mod_left]
  cases hfound : decryptBody? other vector (encryptBody keys vector text) <;>
    simp only [opened, htake, hdrop, hbody, hvector, if_neg hlong, hwhole, hfound, ne_eq,
      not_true_eq_false, if_false]

/-- A payload that a seal produced opens to the text that was sealed. -/
theorem opened_sealed (vector : Block) (text : Bytes) :
    opened keys (sealed keys vector text) = .ok text := by
  rw [opened_sealed_other, if_neg (not_not_intro rfl), decryptBody?_encryptBody]

/-- What opens is what sealing its text under its own vector gives, byte for byte. -/
theorem eq_sealed_of_opened {payload text : Bytes} (h : opened keys payload = .ok text) :
    ∃ vector : Block, payload = sealed keys vector text := by
  unfold opened at h
  split at h
  case isTrue => cases h
  case isFalse hlong =>
    generalize hregion : payload.take (payload.length - tagLength) = region at h
    dsimp only at h
    split at h
    case isTrue => cases h
    case isFalse htag =>
      split at h
      case isTrue => cases h
      case isFalse hwhole =>
        have hlen : vectorLength ≤ region.length := by
          rw [← hregion, List.length_take]
          simp only [minimumLength, vectorLength, tagLength, Block.size] at hlong ⊢
          omega
        have hvector : (Block.ofBytes region).toBytes = region.take vectorLength := by
          have htake : (region.take vectorLength).length = Block.size := by
            rw [List.length_take]
            exact Nat.min_eq_left hlen
          rw [← Block.toBytes_ofBytes htake, vectorLength, Block.ofBytes_take]
        have htext : decryptBody? keys (Block.ofBytes region) (region.drop vectorLength) =
            some text := by
          split at h
          case h_1 found hfound =>
            rw [hfound, Except.ok.inj h]
          case h_2 => cases h
        have hbody := encryptBody_of_decryptBody? keys (Decidable.not_not.1 hwhole) htext
        refine ⟨Block.ofBytes region, ?_⟩
        rw [sealed, hbody, hvector, List.take_append_drop, Decidable.not_not.1 htag, ← hregion,
          List.take_append_drop]

/-- Opening accepts exactly the image of sealing, whose first bytes are the vector. -/
theorem opened_eq_ok_iff (payload text : Bytes) :
    (opened keys payload = .ok text ↔ ∃ vector : Block, payload = sealed keys vector text) ∧
      ∀ vector : Block, (sealed keys vector text).take vectorLength = vector.toBytes := by
  constructor
  · constructor
    · exact eq_sealed_of_opened keys
    · rintro ⟨vector, rfl⟩
      exact opened_sealed keys vector text
  · intro vector
    exact take_sealed keys vector text

end IdentityVault.Payload
