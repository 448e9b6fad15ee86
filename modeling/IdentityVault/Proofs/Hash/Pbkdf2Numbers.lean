import IdentityVault.Hash.Pbkdf2
import IdentityVault.Proofs.Hash.Sha1Numbers

/-! Keyed SHA-1 and its iteration on packed states. -/
namespace IdentityVault

theorem Bytes.word_ofWord (w : UInt32) :
    Bytes.word (w >>> 24).toUInt8 (w >>> 16).toUInt8 (w >>> 8).toUInt8 w.toUInt8 = w := by
  apply UInt32.toBitVec_inj.1
  apply BitVec.eq_of_getLsbD_eq
  intro i hi
  simp only [Bytes.word, UInt32.toBitVec_or, UInt32.toBitVec_shiftLeft, UInt8.toBitVec_toUInt32,
    UInt32.toBitVec_toUInt8, UInt32.toBitVec_shiftRight, BitVec.getLsbD_or, BitVec.getLsbD_setWidth]
  simp
  grind

/-- A message that fills one block with its padding. -/
theorem BlockHash.finish_of_length {σ : Type} (H : BlockHash σ) (s : σ) (absorbed : Nat)
    (message : Bytes) (h : (message ++ padding (absorbed + message.length)).length = 64) :
    H.finish s absorbed message =
      H.output (H.compress s (message ++ padding (absorbed + message.length))) := by
  have hcount : 64 / blockLength = 1 := by decide
  have htake : (message ++ padding (absorbed + message.length)).take blockLength =
      message ++ padding (absorbed + message.length) := List.take_of_length_le (Nat.le_of_eq h)
  simp only [finish, h, hcount, absorb, htake]

namespace Sha1

/-- The word by word exclusive or of two states. -/
def State.xor (s t : State) : State :=
  ⟨s.a ^^^ t.a, s.b ^^^ t.b, s.c ^^^ t.c, s.d ^^^ t.d, s.e ^^^ t.e⟩

theorem xor_output (s t : State) : (output s).xor (output t) = output (s.xor t) := by
  simp [output, Bytes.ofWord, Bytes.xor, State.xor, UInt32.shiftRight_xor]

/-- The state after the padded digest that another state gives. -/
def compressOutput (s u : State) : State := compress s (output u ++ BlockHash.padding 84)

theorem finish_output (s u : State) :
    sha1.finish s BlockHash.blockLength (output u) = output (compressOutput s u) := by
  have hlength : (output u ++ BlockHash.padding (BlockHash.blockLength + (output u).length)).length
      = 64 := by
    rw [List.length_append, length_output]
    rfl
  exact sha1.finish_of_length s _ _ hlength

theorem sign_output (key : Hmac.PreparedKey State) (u : State) :
    key.sign sha1 (output u) = output (compressOutput key.outer (compressOutput key.inner u)) := by
  unfold Hmac.PreparedKey.sign
  rw [finish_output, finish_output]

theorem toWords_output (u : State) :
    Bytes.toWords (output u ++ BlockHash.padding 84) =
      [u.a, u.b, u.c, u.d, u.e, 0x80000000, 0, 0, 0, 0, 0, 0, 0, 0, 0, 672] := by
  have hpadding : Bytes.toWords (BlockHash.padding 84) =
      [0x80000000, 0, 0, 0, 0, 0, 0, 0, 0, 0, 672] := by decide +kernel
  simp only [output, Bytes.ofWord, List.cons_append, List.nil_append, Bytes.toWords,
    Bytes.word_ofWord, hpadding]

namespace Numbers

noncomputable def compressOutput (s u : Nat) : Nat :=
  unpack u fun u0 u1 u2 u3 u4 => compress s u0 u1 u2 u3 u4 0x80000000 0 0 0 0 0 0 0 0 0 672

/-- Sign `u` again `n` times and combine all results into `t`. -/
noncomputable def iterate (inner outer n : Nat) : (u t : Nat) → Nat :=
  Nat.rec (fun _ t => t)
    (fun _ rest u t =>
      force (compressOutput inner u) fun v =>
      force (compressOutput outer v) fun u =>
      force (Nat.xor t u) fun t => rest u t)
    n

theorem compressOutput_eq (s u : State) :
    compressOutput (packed s) (packed u) = packed (Sha1.compressOutput s u) := by
  have heq := compress_eq s (toWords_output u) rfl
  simp only [List.getD_cons_zero, List.getD_cons_succ, UInt32.reduceToNat] at heq
  unfold compressOutput
  rw [unpack_packed, heq, Sha1.compressOutput]

theorem xor_join (m n : Nat) (v w : UInt32) :
    Nat.xor (join m v.toNat) (join n w.toNat) = join (Nat.xor m n) (v ^^^ w).toNat := by
  have hv := v.toNat_lt
  have hw := w.toNat_lt
  have hxor := (v ^^^ w).toNat_lt
  show join m v.toNat ^^^ join n w.toNat = join (m ^^^ n) (v ^^^ w).toNat
  have hjoin (n w : Nat) : join n w = 2 ^ 32 * n + w := by rw [join_eq]; omega
  simp only [hjoin]
  apply Nat.eq_of_testBit_eq
  intro i
  rw [Nat.testBit_xor, Nat.testBit_two_pow_mul_add _ hv, Nat.testBit_two_pow_mul_add _ hw,
    Nat.testBit_two_pow_mul_add _ hxor, UInt32.toNat_xor]
  split
  · rw [Nat.testBit_xor]
  · rw [Nat.testBit_xor]

theorem xor_packed (s t : State) : Nat.xor (packed s) (packed t) = packed (s.xor t) := by
  have hfirst : Nat.xor s.a.toNat t.a.toNat = (s.a ^^^ t.a).toNat :=
    (UInt32.toNat_xor s.a t.a).symm
  simp only [packed, pack, xor_join, State.xor, hfirst]

theorem iterate_succ (inner outer n u t : Nat) :
    iterate inner outer (n + 1) u t =
      iterate inner outer n (compressOutput outer (compressOutput inner u))
        (Nat.xor t (compressOutput outer (compressOutput inner u))) := by
  have hforce : iterate inner outer (n + 1) u t =
      force (compressOutput inner u) fun v =>
      force (compressOutput outer v) fun u =>
      force (Nat.xor t u) fun t => iterate inner outer n u t := rfl
  rw [hforce, force_eq, force_eq, force_eq]

/-- The iteration of a keyed hash is the iteration on packed states. -/
theorem iterate_eq (key : Hmac.PreparedKey State) (n : Nat) (u t : State) :
    Pbkdf2.iterate sha1 key n (output u) (output t) =
      output (state (iterate (packed key.inner) (packed key.outer) n (packed u) (packed t))) := by
  induction n generalizing u t with
  | zero => exact congrArg output (state_packed t).symm
  | succ n ih =>
    rw [Pbkdf2.iterate, sign_output, xor_output, ih, iterate_succ, compressOutput_eq,
      compressOutput_eq, xor_packed]

/-- The first block of the iteration, for a salt of two words. -/
noncomputable def block (inner outer n salt0 salt1 : Nat) : Nat :=
  force (compress inner salt0 salt1 1 0x80000000 0 0 0 0 0 0 0 0 0 0 0 608) fun v =>
  force (compressOutput outer v) fun u => iterate inner outer n u u

theorem toWords_salt (salt0 salt1 : UInt32) :
    Bytes.toWords (Bytes.ofWord salt0 ++ Bytes.ofWord salt1 ++ Bytes.bigEndian 4 1 ++
      BlockHash.padding 76) =
      [salt0, salt1, 1, 0x80000000, 0, 0, 0, 0, 0, 0, 0, 0, 0, 0, 0, 608] := by
  have hrest : Bytes.toWords (Bytes.bigEndian 4 1 ++ BlockHash.padding 76) =
      [1, 0x80000000, 0, 0, 0, 0, 0, 0, 0, 0, 0, 0, 0, 608] := by decide +kernel
  rw [List.append_assoc]
  simp only [Bytes.ofWord, List.cons_append, List.nil_append, Bytes.toWords, Bytes.word_ofWord,
    hrest]

theorem block_eq (key : Hmac.PreparedKey State) (n : Nat) (salt0 salt1 : UInt32) :
    Pbkdf2.block sha1 key (n + 1) (Bytes.ofWord salt0 ++ Bytes.ofWord salt1) 1 =
      output (state (block (packed key.inner) (packed key.outer) n salt0.toNat salt1.toNat)) := by
  have hfirst := compress_eq key.inner (toWords_salt salt0 salt1) rfl
  simp only [List.getD_cons_zero, List.getD_cons_succ, UInt32.reduceToNat] at hfirst
  have hinner : sha1.finish key.inner BlockHash.blockLength
      (Bytes.ofWord salt0 ++ Bytes.ofWord salt1 ++ Bytes.bigEndian 4 1) =
      output (Sha1.compress key.inner (Bytes.ofWord salt0 ++ Bytes.ofWord salt1 ++
        Bytes.bigEndian 4 1 ++ BlockHash.padding 76)) := by
    refine sha1.finish_of_length key.inner _ _ ?_
    simp only [List.length_append, Bytes.length_ofWord, Bytes.length_bigEndian]
    rfl
  unfold Pbkdf2.block Hmac.PreparedKey.sign
  rw [hinner, finish_output, Nat.add_sub_cancel, iterate_eq,
    block, force_eq, force_eq, hfirst, compressOutput_eq]

end Numbers

end Sha1

end IdentityVault
