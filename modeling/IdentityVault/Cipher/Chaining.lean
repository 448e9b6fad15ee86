import IdentityVault.Cipher.Block

/-! Cipher block chaining: every block is combined with the ciphertext block before it. -/
namespace IdentityVault.Chaining

def encrypt (cipher : Block → Block) : Block → List Block → List Block
  | _, [] => []
  | chain, p :: ps => let c := cipher (p.xor chain); c :: encrypt cipher c ps

def decrypt (cipher : Block → Block) : Block → List Block → List Block
  | _, [] => []
  | chain, c :: cs => (cipher c).xor chain :: decrypt cipher c cs

@[simp] theorem length_encrypt (cipher : Block → Block) (chain : Block) (ps : List Block) :
    (encrypt cipher chain ps).length = ps.length := by
  induction ps generalizing chain with
  | nil => rfl
  | cons p ps ih => simp [encrypt, ih]

@[simp] theorem length_decrypt (cipher : Block → Block) (chain : Block) (cs : List Block) :
    (decrypt cipher chain cs).length = cs.length := by
  induction cs generalizing chain with
  | nil => rfl
  | cons c cs ih => simp [decrypt, ih]

/-- Decryption undoes encryption when the block ciphers do. -/
theorem decrypt_encrypt {cipher inverse : Block → Block} (h : ∀ b, inverse (cipher b) = b)
    (chain : Block) (ps : List Block) :
    decrypt inverse chain (encrypt cipher chain ps) = ps := by
  induction ps generalizing chain with
  | nil => rfl
  | cons p ps ih => simp [encrypt, decrypt, h, ih]

end IdentityVault.Chaining
