import IdentityVault.Hash.Hmac

/-! Password-based key derivation: iterated keyed hashes of a salt, combined by exclusive or. -/
namespace IdentityVault

namespace Pbkdf2

variable {σ : Type}

/-- Sign `u` again `n` times and combine all results into `acc`. -/
def iterate (H : BlockHash σ) (key : Hmac.PreparedKey σ) : Nat → Bytes → Bytes → Bytes
  | 0, _, acc => acc
  | n + 1, u, acc =>
      let next := key.sign H u
      iterate H key n next (acc.xor next)

/-- The output block with number `i`, counted from one. -/
def block (H : BlockHash σ) (key : Hmac.PreparedKey σ) (iterations : Nat) (salt : Bytes)
    (i : Nat) : Bytes :=
  let first := key.sign H (salt ++ Bytes.bigEndian 4 i)
  iterate H key (iterations - 1) first first

end Pbkdf2

/-- The first `length` bytes of the blocks for one password and salt. -/
def pbkdf2 {σ : Type} (H : BlockHash σ) (iterations : Nat) (password salt : Bytes)
    (length : Nat) : Bytes :=
  let key := Hmac.prepare H password
  let count := (length + H.outputLength - 1) / H.outputLength
  ((List.range count).flatMap fun i => Pbkdf2.block H key iterations salt (i + 1)).take length

end IdentityVault
