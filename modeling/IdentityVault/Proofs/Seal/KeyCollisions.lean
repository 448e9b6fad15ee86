import IdentityVault.Proofs.Hash.KeyBlocks
import IdentityVault.Proofs.Seal.Derivation
import Mathlib.Data.FinEnum
import Mathlib.Data.Fintype.BigOperators
import Mathlib.Data.Fintype.Pigeonhole
import Mathlib.Data.Fintype.Vector
import Mathlib.Data.String.Basic
import Mathlib.Tactic.NormNum

/-! Passwords are more than keys are. Under every salt two of them give the same keys that enter the
derivation as different blocks, so no condition on the passwords alone keeps their keys apart. -/
namespace IdentityVault

theorem Bytes.length_ofText (s : String) : (ofText s).length = s.utf8ByteSize :=
  Array.length_toList ..

theorem Bytes.ofText_injective : Function.Injective ofText := by
  intro s t h
  have hdata : s.toUTF8.data = t.toUTF8.data := Array.toList_inj.1 h
  exact String.toByteArray_inj.1 (ByteArray.ext hdata)

namespace KeyMaterial

theorem length_iterate (key : Hmac.PreparedKey Sha1.State) (n : Nat) (u : Bytes) {acc : Bytes}
    (h : acc.length = 20) : (Pbkdf2.iterate sha1 key n u acc).length = 20 := by
  induction n generalizing u acc with
  | zero => exact h
  | succ n ih =>
    have hnext : (acc.xor (key.sign sha1 u)).length = 20 := by
      rw [Bytes.length_xor, h]
      rfl
    exact ih _ hnext

theorem length_pbkdf2 (password salt : Bytes) :
    (pbkdf2 sha1 iterations password salt (encryptionKeyLength + macKeyLength)).length = 36 := by
  have hblock (i : Nat) :
      (Pbkdf2.block sha1 (Hmac.prepare sha1 password) iterations salt i).length = 20 :=
    length_iterate _ _ _ rfl
  have hcount : (encryptionKeyLength + macKeyLength + sha1.outputLength - 1) /
      sha1.outputLength = 2 := rfl
  have hblocks (f : Nat → Bytes) : (List.range 2).flatMap f = f 0 ++ (f 1 ++ []) := rfl
  rw [pbkdf2, hcount, hblocks, List.length_take, List.append_nil, List.length_append, hblock,
    hblock]
  rfl

/-- A password of 64 characters from an alphabet of 32. -/
def spelled (letters : Fin 64 → Fin 32) : String :=
  String.ofList (List.ofFn fun i => Char.ofNat (64 + letters i))

theorem spelled_injective : Function.Injective spelled := by
  have hletter : ∀ a b : Fin 32, Char.ofNat (64 + a) = Char.ofNat (64 + b) → a = b := by decide
  intro f g h
  have hlist := congrArg String.toList h
  simp only [spelled, String.toList_ofList] at hlist
  funext i
  exact hletter _ _ (congrFun (List.ofFn_injective hlist) i)

theorem utf8ByteSize_ofList {chars : List Char} (h : ∀ c ∈ chars, c.utf8Size = 1) :
    (String.ofList chars).utf8ByteSize = chars.length := by
  rw [String.utf8ByteSize_ofList]
  induction chars with
  | nil => rfl
  | cons c rest ih =>
    rw [List.forall_mem_cons] at h
    rw [String.utf8Len_cons, ih h.2, h.1, List.length_cons]

theorem length_spelled (letters : Fin 64 → Fin 32) :
    (Bytes.ofText (spelled letters)).length = BlockHash.blockLength := by
  have hletter : ∀ a : Fin 32, (Char.ofNat (64 + a)).utf8Size = 1 := by decide
  rw [Bytes.length_ofText, spelled, utf8ByteSize_ofList, List.length_ofFn]
  · rfl
  · simp only [List.forall_mem_ofFn_iff]
    intro i
    exact hletter (letters i)

/-- A password that fills a block is its block. -/
theorem keyBlock_spelled_injective :
    Function.Injective fun letters => Hmac.keyBlock sha1 (Bytes.ofText (spelled letters)) := by
  have hblock (letters : Fin 64 → Fin 32) :
      Hmac.keyBlock sha1 (Bytes.ofText (spelled letters)) = Bytes.ofText (spelled letters) := by
    have hlength := length_spelled letters
    rw [Hmac.keyBlock_eq, Hmac.condensed, if_pos (Nat.le_of_eq hlength), hlength, Nat.sub_self,
      List.replicate_zero, List.append_nil]
  intro f g h
  simp only [hblock] at h
  exact spelled_injective (Bytes.ofText_injective h)

/-- The bytes that the keys of such a password are cut from. -/
def derived (salt : Bytes) (letters : Fin 64 → Fin 32) : List.Vector UInt8 36 :=
  ⟨pbkdf2 sha1 iterations (Bytes.ofText (spelled letters)) salt
    (encryptionKeyLength + macKeyLength), length_pbkdf2 _ salt⟩

theorem exists_keys_eq_of_keyBlock_ne (salt : Bytes) : ∃ p q : String,
    Hmac.keyBlock sha1 (Bytes.ofText p) ≠ Hmac.keyBlock sha1 (Bytes.ofText q) ∧
      ofPassword p salt = ofPassword q salt := by
  have hfewer : Fintype.card (List.Vector UInt8 36) < Fintype.card (Fin 64 → Fin 32) := by
    rw [card_vector, Fintype.card_fun, Fintype.card_fin, Fintype.card_fin,
      ← FinEnum.card_eq_fintypeCard]
    change 256 ^ 36 < 32 ^ 64
    norm_num
  obtain ⟨f, g, hne, hsame⟩ := Fintype.exists_ne_map_eq_of_card_lt (derived salt) hfewer
  have hkeys (letters : Fin 64 → Fin 32) :
      ofPassword (spelled letters) salt = ofBytes (derived salt letters).toList := by
    rw [ofPassword, derived, List.Vector.toList_mk]
  refine ⟨spelled f, spelled g, fun hblock => hne (keyBlock_spelled_injective hblock), ?_⟩
  rw [hkeys, hkeys, hsame]

end KeyMaterial

end IdentityVault
