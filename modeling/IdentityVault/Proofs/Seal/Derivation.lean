import IdentityVault.Proofs.Hash.Pbkdf2Numbers
import IdentityVault.Seal.Payload

/-! The keys that a password and a salt give. Deriving them does not fail, because the number of
iterations is fixed and positive. -/
namespace IdentityVault.KeyMaterial

/-- The keys of a password and a salt. -/
def ofPassword (password : String) (salt : Bytes) : KeyMaterial :=
  ofBytes (pbkdf2 sha1 iterations (Bytes.ofText password) salt
    (encryptionKeyLength + macKeyLength))

theorem derive_eq (password : String) (salt : Bytes) :
    derive password salt = .ok (ofPassword password salt) := by
  have hpos : iterations ≠ 0 := by decide
  unfold derive deriveWith
  rw [if_neg hpos]
  rfl

open Sha1 Numbers

/-- The encryption key is a part of the first block of the iteration. -/
theorem encryptionKey_ofPassword (password : String) (salt0 salt1 : UInt32) :
    (ofPassword password (Bytes.ofWord salt0 ++ Bytes.ofWord salt1)).encryptionKey =
      (output (state (block (packed (Hmac.prepare sha1 (Bytes.ofText password)).inner)
        (packed (Hmac.prepare sha1 (Bytes.ofText password)).outer) 1023 salt0.toNat
        salt1.toNat))).take encryptionKeyLength := by
  have hcount : (encryptionKeyLength + macKeyLength + sha1.outputLength - 1) /
      sha1.outputLength = 2 := rfl
  have hblocks (f : Nat → Bytes) : (List.range 2).flatMap f = f 0 ++ (f 1 ++ []) := rfl
  have htake (first rest : Bytes) (hfirst : first.length = 20) :
      ((first ++ rest).take (encryptionKeyLength + macKeyLength)).take encryptionKeyLength =
        first.take encryptionKeyLength := by
    have hle : encryptionKeyLength ≤ first.length := by
      rw [hfirst]
      decide
    rw [List.take_take, Nat.min_eq_left (Nat.le_add_right ..), List.take_append_of_le_length hle]
  have hkey (b : Bytes) : (ofBytes b).encryptionKey = b.take encryptionKeyLength := rfl
  have hiterations : iterations = 1023 + 1 := rfl
  rw [← block_eq, ofPassword, hkey, pbkdf2, hcount, hblocks, hiterations, htake]
  rw [block_eq, length_output]

/-- Compress a block of one word sixteen times. -/
noncomputable def compressUniform (s w : Nat) : Nat := compress s w w w w w w w w w w w w w w w w

theorem compressUniform_eq (s : State) {w : UInt32} {message : Bytes}
    (h : Bytes.toWords message = [w, w, w, w, w, w, w, w, w, w, w, w, w, w, w, w]) :
    compressUniform (packed s) w.toNat = packed (Sha1.compress s message) := by
  have heq := compress_eq s h rfl
  simp only [List.getD_cons_zero, List.getD_cons_succ] at heq
  exact heq

/-- The first block of the iteration for the empty password, whose key block is zeros. -/
noncomputable def emptyBlock (salt0 salt1 : Nat) : Nat :=
  force (compressUniform (packed initial) 0x36363636) fun inner =>
  force (compressUniform (packed initial) 0x5c5c5c5c) fun outer =>
  block inner outer 1023 salt0 salt1

theorem encryptionKey_empty (salt0 salt1 : UInt32) :
    (ofPassword "" (Bytes.ofWord salt0 ++ Bytes.ofWord salt1)).encryptionKey =
      (output (state (emptyBlock salt0.toNat salt1.toNat))).take encryptionKeyLength := by
  have hinner : compressUniform (packed initial) 0x36363636 =
      packed (Hmac.prepare sha1 (Bytes.ofText "")).inner :=
    compressUniform_eq initial (w := 0x36363636) (by decide +kernel)
  have houter : compressUniform (packed initial) 0x5c5c5c5c =
      packed (Hmac.prepare sha1 (Bytes.ofText "")).outer :=
    compressUniform_eq initial (w := 0x5c5c5c5c) (by decide +kernel)
  rw [encryptionKey_ofPassword, emptyBlock, force_eq, force_eq, hinner, houter]

theorem emptyBlock_zeros : emptyBlock 0 0 = 0xe33bca35a6695cf54cdf90597c3d7fce73b998bc := by
  decide +kernel

theorem emptyBlock_ones :
    emptyBlock 0x01010101 0x01010101 = 0x978e7a97f5e3dd4e9730d44e125366b67f3d9822 := by
  decide +kernel

/-- Two salts under one password give keys that encrypt a block to different blocks. -/
theorem encrypt_zeros_ne_ones :
    Aes.encrypt (Payload.schedule (ofPassword "" (List.replicate 8 0)))
        (Block.ofBytes (List.replicate 16 7)) ≠
      Aes.encrypt (Payload.schedule (ofPassword "" (List.replicate 8 1)))
        (Block.ofBytes (List.replicate 16 7)) := by
  have hzeros := encryptionKey_empty 0 0
  have hones := encryptionKey_empty 0x01010101 0x01010101
  simp only [UInt32.reduceToNat, emptyBlock_zeros, emptyBlock_ones] at hzeros hones
  have hsalts : List.replicate 8 0 = Bytes.ofWord 0 ++ Bytes.ofWord 0 ∧
      List.replicate 8 1 = Bytes.ofWord 0x01010101 ++ Bytes.ofWord 0x01010101 := by decide +kernel
  rw [Payload.schedule, Payload.schedule, hsalts.1, hsalts.2, hzeros, hones]
  decide +kernel

end IdentityVault.KeyMaterial
