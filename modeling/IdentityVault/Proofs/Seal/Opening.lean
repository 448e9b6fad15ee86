import IdentityVault.Proofs.Cipher.LastBlock
import IdentityVault.Seal.Payload

/-! What opening a payload comes to. A payload that is too short or has a wrong tag is refused
before its text is looked at, so that the refusal tells nothing of the text or of its key. -/
namespace IdentityVault

/-- Split at a place that has to be inside. -/
def Bytes.splitAt? (b : Bytes) (n : Nat) : Option (Bytes × Bytes) :=
  if n ≤ b.length then some (b.take n, b.drop n) else none

theorem Bytes.splitAt?_of_le {b : Bytes} {n : Nat} (h : n ≤ b.length) :
    b.splitAt? n = some (b.take n, b.drop n) := if_pos h

namespace Payload

/-- The part of a payload that its tag covers. -/
def covered (payload : Bytes) : Bytes := payload.take (payload.length - tagLength)

/-- The tag that a payload brings along. -/
def attached (payload : Bytes) : Bytes := payload.drop (payload.length - tagLength)

/-- A payload that is long enough and has the right tag. -/
structure Authentic (macKey payload : Bytes) : Prop where
  long : 64 ≤ payload.length
  tag : attached payload = hmac sha256 macKey (covered payload)

/-- The last block of the text: the last ciphertext block, decrypted and combined with the block
before it. Before the first ciphertext block stands the vector. -/
def lastBlock (keys : KeyMaterial) (payload : Bytes) : Block :=
  let region := covered payload
  (Aes.decrypt (schedule keys) (Block.ofBytes (region.drop (region.length - Block.size)))).xor
    (Block.ofBytes (region.drop (region.length - 2 * Block.size)))

/-- Opening with a check before every split; `none` where one would be out of range. -/
def openedChecked? (keys : KeyMaterial) (payload : Bytes) : Option (Except SealError Bytes) :=
  if payload.length < minimumLength then some (.error (.truncated payload.length))
  else if payload.length < tagLength then none
  else (payload.splitAt? (payload.length - tagLength)).bind fun (region, found) =>
    if tag keys region ≠ found then some (.error .authentication)
    else (region.splitAt? vectorLength).bind fun (vector, body) =>
      if body.length % Block.size ≠ 0 then some (.error .padding)
      else some <| match decryptBody? keys (Block.ofBytes vector) body with
        | some text => .ok text
        | none => .error .padding

/-- How opening a payload ends, and what that says about the payload. -/
inductive OpenedAs (keys : KeyMaterial) (payload : Bytes) : Except SealError Bytes → Prop where
  | truncated (short : payload.length < 64) :
      OpenedAs keys payload (.error (.truncated payload.length))
  | unauthentic (long : 64 ≤ payload.length)
      (forged : attached payload ≠ hmac sha256 keys.macKey (covered payload)) :
      OpenedAs keys payload (.error .authentication)
  | unaligned (authentic : Authentic keys.macKey payload) (broken : payload.length % 16 ≠ 0) :
      OpenedAs keys payload (.error .padding)
  | unpadded (authentic : Authentic keys.macKey payload) (aligned : payload.length % 16 = 0)
      (broken : ¬BlockPadding.Padded (lastBlock keys payload).toBytes) :
      OpenedAs keys payload (.error .padding)
  | text {text : Bytes} (authentic : Authentic keys.macKey payload)
      (aligned : payload.length % 16 = 0)
      (padded : BlockPadding.Padded (lastBlock keys payload).toBytes) :
      OpenedAs keys payload (.ok text)

variable (keys : KeyMaterial) {payload : Bytes}

theorem not_authentic_of_lt {macKey : Bytes} (h : payload.length < 64) :
    ¬Authentic macKey payload :=
  fun hauthentic => Nat.not_lt.2 hauthentic.long h

theorem not_authentic_of_ne {macKey : Bytes}
    (h : attached payload ≠ hmac sha256 macKey (covered payload)) : ¬Authentic macKey payload :=
  fun hauthentic => h hauthentic.tag

theorem length_covered (payload : Bytes) : (covered payload).length = payload.length - 32 := by
  rw [covered, List.length_take]
  exact Nat.min_eq_left (Nat.sub_le ..)

theorem length_body (payload : Bytes) :
    ((covered payload).drop vectorLength).length = payload.length - 48 := by
  rw [List.length_drop, length_covered]
  exact Nat.sub_sub ..

/-- Of the decrypted blocks only the last is asked for padding. -/
theorem decryptBody?_eq_none_iff (hlong : 64 ≤ payload.length)
    (haligned : payload.length % 16 = 0) :
    decryptBody? keys (Block.ofBytes (covered payload)) ((covered payload).drop vectorLength) =
        none ↔ ¬BlockPadding.Padded (lastBlock keys payload).toBytes := by
  -- The tag covers the vector and `n + 1` blocks.
  obtain ⟨n, hn⟩ : ∃ n, payload.length = 64 + n * Block.size := by
    refine ⟨(payload.length - 64) / 16, ?_⟩
    rw [Block.size]
    omega
  have hsize : Block.size = 16 := rfl
  have hcount : (payload.length - 48) / Block.size = n + 1 := by
    rw [hn, hsize]
    omega
  have hlast : payload.length - 32 - Block.size = vectorLength + n * Block.size := by
    rw [vectorLength]
    omega
  have hbefore : payload.length - 32 - 2 * Block.size = n * Block.size := by omega
  unfold decryptBody? lastBlock
  dsimp only
  rw [length_body, hcount, Block.split_succ, Chaining.decrypt_concat, Block.join_concat,
    BlockPadding.unpad?_eq_none_iff, BlockPadding.padded_append_iff, List.drop_drop,
    length_covered, hlast, hbefore, vectorLength, Block.getLastD_split]

theorem openedAs (payload : Bytes) : OpenedAs keys payload (opened keys payload) := by
  unfold opened
  split
  case isTrue hshort => exact .truncated hshort
  case isFalse hlong =>
    have hlong : 64 ≤ payload.length := Nat.not_lt.1 hlong
    have hbody : ((covered payload).drop vectorLength).length % Block.size =
        payload.length % 16 := by
      rw [length_body, Block.size]
      omega
    have hblocks := decryptBody?_eq_none_iff keys hlong
    dsimp only
    split
    case isTrue hforged => exact .unauthentic hlong (Ne.symm hforged)
    case isFalse htag =>
      have hauthentic : Authentic keys.macKey payload :=
        ⟨hlong, (Decidable.not_not.1 htag).symm⟩
      split
      case isTrue hbroken => exact .unaligned hauthentic fun haligned => hbroken (hbody ▸ haligned)
      case isFalse haligned =>
        have haligned : payload.length % 16 = 0 := hbody ▸ Decidable.not_not.1 haligned
        split
        case h_1 text hfound =>
          refine .text hauthentic haligned (Classical.byContradiction fun hbroken => ?_)
          cases hfound.symm.trans ((hblocks haligned).2 hbroken)
        case h_2 hnone => exact .unpadded hauthentic haligned ((hblocks haligned).1 hnone)

/-- No check before a split ever fails. -/
theorem openedChecked?_eq (payload : Bytes) :
    openedChecked? keys payload = some (opened keys payload) := by
  unfold openedChecked? opened
  split
  case isTrue hshort => rfl
  case isFalse hlong =>
    have hlong : 64 ≤ payload.length := Nat.not_lt.1 hlong
    have htag : ¬payload.length < tagLength := by
      rw [tagLength]
      omega
    have hvector : vectorLength ≤ (covered payload).length := by
      rw [length_covered, vectorLength, Block.size]
      omega
    rw [if_neg htag, Bytes.splitAt?_of_le (Nat.sub_le ..), Option.bind_some]
    dsimp only
    split
    case isTrue => rfl
    case isFalse =>
      unfold covered at hvector
      rw [Bytes.splitAt?_of_le hvector, Option.bind_some]
      dsimp only
      rw [vectorLength, Block.ofBytes_take]
      split
      case isTrue => rfl
      case isFalse => rfl

/-- What is told of a payload that does not have the right tag. -/
def refusal (length : Nat) : SealError :=
  if length < 64 then .truncated length else .authentication

namespace OpenedAs

variable {keys} {result : Except SealError Bytes}

theorem truncated_iff (h : OpenedAs keys payload result) (n : Nat) :
    result = .error (.truncated n) ↔ payload.length < 64 ∧ n = payload.length := by
  cases h with
  | truncated hshort =>
    simp only [Except.error.injEq, SealError.truncated.injEq]
    omega
  | unauthentic hlong =>
    simp only [Except.error.injEq, reduceCtorEq, false_iff]
    omega
  | unaligned h | unpadded h | text h =>
    have hlong := h.long
    simp only [Except.error.injEq, reduceCtorEq, false_iff]
    omega

theorem authentication_iff (h : OpenedAs keys payload result) :
    result = .error .authentication ↔
      64 ≤ payload.length ∧ attached payload ≠ hmac sha256 keys.macKey (covered payload) := by
  cases h with
  | truncated hshort => simp [Nat.not_le.2 hshort]
  | unauthentic hlong hforged => simp [hlong, hforged]
  | unaligned h | unpadded h | text h => simp [h.tag]

theorem padding_iff (h : OpenedAs keys payload result) :
    result = .error .padding ↔ Authentic keys.macKey payload ∧
      (payload.length % 16 ≠ 0 ∨ ¬BlockPadding.Padded (lastBlock keys payload).toBytes) := by
  cases h with
  | truncated hshort => simp [not_authentic_of_lt hshort]
  | unauthentic hlong hforged => simp [not_authentic_of_ne hforged]
  | unaligned h hbroken => simp [h, hbroken]
  | unpadded h haligned hbroken => simp [h, hbroken]
  | text h haligned hpadded => simp [haligned, hpadded]

theorem ok_iff (h : OpenedAs keys payload result) :
    (∃ text, result = .ok text) ↔ Authentic keys.macKey payload ∧
      payload.length % 16 = 0 ∧ BlockPadding.Padded (lastBlock keys payload).toBytes := by
  cases h with
  | truncated hshort => simp [not_authentic_of_lt hshort]
  | unauthentic hlong hforged => simp [not_authentic_of_ne hforged]
  | unaligned h hbroken => simp [hbroken]
  | unpadded h haligned hbroken => simp [hbroken]
  | text h haligned hpadded => simp [h, haligned, hpadded]

theorem eq_refusal (h : OpenedAs keys payload result) (hnot : ¬Authentic keys.macKey payload) :
    result = .error (refusal payload.length) := by
  cases h with
  | truncated hshort => rw [refusal, if_pos hshort]
  | unauthentic hlong => rw [refusal, if_neg (Nat.not_lt.2 hlong)]
  | unaligned h | unpadded h | text h => exact absurd h hnot

end OpenedAs

/-- What opening a payload comes to, and what that depends on. -/
structure Outcomes (keys : KeyMaterial) (payload : Bytes) : Prop where
  truncated_iff (n : Nat) :
    opened keys payload = .error (.truncated n) ↔ payload.length < 64 ∧ n = payload.length
  authentication_iff : opened keys payload = .error .authentication ↔
    64 ≤ payload.length ∧ attached payload ≠ hmac sha256 keys.macKey (covered payload)
  padding_iff : opened keys payload = .error .padding ↔ Authentic keys.macKey payload ∧
    (payload.length % 16 ≠ 0 ∨ ¬BlockPadding.Padded (lastBlock keys payload).toBytes)
  ok_iff : (∃ text, opened keys payload = .ok text) ↔ Authentic keys.macKey payload ∧
    payload.length % 16 = 0 ∧ BlockPadding.Padded (lastBlock keys payload).toBytes
  /-- Under another encryption key the same payloads are refused, for the same reasons. -/
  early_iff (encryptionKey : Bytes) {e : SealError} (early : e ≠ .padding) :
    opened { keys with encryptionKey } payload = .error e ↔ opened keys payload = .error e
  /-- Of a payload without the right tag only the length is told. -/
  blind (encryptionKey other : Bytes) (length : other.length = payload.length)
    (here : ¬Authentic keys.macKey payload) (there : ¬Authentic keys.macKey other) :
    opened { keys with encryptionKey } other = opened keys payload
  inBounds : openedChecked? keys payload = some (opened keys payload)

/-- A payload is refused for its length, then for its tag, then for its shape. -/
theorem opened_outcomes (keys : KeyMaterial) (payload : Bytes) : Outcomes keys payload where
  truncated_iff := (openedAs keys payload).truncated_iff
  authentication_iff := (openedAs keys payload).authentication_iff
  padding_iff := (openedAs keys payload).padding_iff
  ok_iff := (openedAs keys payload).ok_iff
  early_iff encryptionKey e hearly := by
    have hother := openedAs { keys with encryptionKey } payload
    cases e with
    | truncated n => rw [hother.truncated_iff, (openedAs keys payload).truncated_iff]
    | authentication => rw [hother.authentication_iff, (openedAs keys payload).authentication_iff]
    | padding => exact absurd rfl hearly
  blind encryptionKey other hlength hhere hthere := by
    have hother := openedAs { keys with encryptionKey } other
    rw [hother.eq_refusal hthere, (openedAs keys payload).eq_refusal hhere, hlength]
  inBounds := openedChecked?_eq keys payload

end Payload

end IdentityVault
