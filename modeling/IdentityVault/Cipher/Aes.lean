import IdentityVault.Cipher.Block
import IdentityVault.Cipher.SubstitutionBox

/-! AES with a key of 128 bits, one block at a time. -/
namespace IdentityVault.Aes

/-- Multiplication by `x` in GF(2^8). -/
def double (b : UInt8) : UInt8 := if b &&& 0x80 = 0 then b <<< 1 else (b <<< 1) ^^^ 0x1b

/-- Row `i` of the columns moves `i` columns to the left. -/
def shiftRows (b : Block) : Block :=
  ⟨⟨b.c0.r0, b.c1.r1, b.c2.r2, b.c3.r3⟩, ⟨b.c1.r0, b.c2.r1, b.c3.r2, b.c0.r3⟩,
   ⟨b.c2.r0, b.c3.r1, b.c0.r2, b.c1.r3⟩, ⟨b.c3.r0, b.c0.r1, b.c1.r2, b.c2.r3⟩⟩

def unshiftRows (b : Block) : Block :=
  ⟨⟨b.c0.r0, b.c3.r1, b.c2.r2, b.c1.r3⟩, ⟨b.c1.r0, b.c0.r1, b.c3.r2, b.c2.r3⟩,
   ⟨b.c2.r0, b.c1.r1, b.c0.r2, b.c3.r3⟩, ⟨b.c3.r0, b.c2.r1, b.c1.r2, b.c0.r3⟩⟩

def triple (b : UInt8) : UInt8 := double b ^^^ b

/-- Multiplication of a column by the circulant matrix of 2, 3, 1, 1. -/
def mixColumn (x : Column) : Column :=
  ⟨double x.r0 ^^^ triple x.r1 ^^^ x.r2 ^^^ x.r3, x.r0 ^^^ double x.r1 ^^^ triple x.r2 ^^^ x.r3,
   x.r0 ^^^ x.r1 ^^^ double x.r2 ^^^ triple x.r3, triple x.r0 ^^^ x.r1 ^^^ x.r2 ^^^ double x.r3⟩

/-- Multiplication by 4 on the rows two apart turns the inverse matrix into `mixColumn`. -/
def unmixColumn (x : Column) : Column :=
  let u := double (double (x.r0 ^^^ x.r2))
  let v := double (double (x.r1 ^^^ x.r3))
  mixColumn ⟨x.r0 ^^^ u, x.r1 ^^^ v, x.r2 ^^^ u, x.r3 ^^^ v⟩

def mixColumns (b : Block) : Block :=
  ⟨mixColumn b.c0, mixColumn b.c1, mixColumn b.c2, mixColumn b.c3⟩

def unmixColumns (b : Block) : Block :=
  ⟨unmixColumn b.c0, unmixColumn b.c1, unmixColumn b.c2, unmixColumn b.c3⟩

/-- The round key that follows `k`, for one round constant. -/
def nextKey (k : Block) (constant : UInt8) : Block :=
  let turned : Column :=
    ⟨substitute k.c3.r1 ^^^ constant, substitute k.c3.r2, substitute k.c3.r3, substitute k.c3.r0⟩
  let c0 := k.c0.xor turned
  let c1 := k.c1.xor c0
  let c2 := k.c2.xor c1
  ⟨c0, c1, c2, k.c3.xor c2⟩

/-- Round keys from the first to the last: the key itself, those of the nine full rounds, and
the one of the final round. -/
structure KeySchedule where
  first : Block
  middle : List Block
  last : Block

def roundConstants : List UInt8 := [0x01, 0x02, 0x04, 0x08, 0x10, 0x20, 0x40, 0x80, 0x1b]

/-- The round keys after `k`, one for each constant. -/
def roundKeys (k : Block) : List UInt8 → List Block
  | [] => []
  | c :: cs => let next := nextKey k c; next :: roundKeys next cs

def KeySchedule.ofKey (key : Block) : KeySchedule :=
  let middle := roundKeys key roundConstants
  ⟨key, middle, nextKey (middle.getLastD key) 0x36⟩

def encryptRound (state key : Block) : Block :=
  (mixColumns (shiftRows (state.map substitute))).xor key

def decryptRound (state key : Block) : Block :=
  (unshiftRows (unmixColumns (state.xor key))).map unsubstitute

def encrypt (keys : KeySchedule) (b : Block) : Block :=
  let state := keys.middle.foldl encryptRound (b.xor keys.first)
  (shiftRows (state.map substitute)).xor keys.last

def decrypt (keys : KeySchedule) (b : Block) : Block :=
  let state := (unshiftRows (b.xor keys.last)).map unsubstitute
  (keys.middle.reverse.foldl decryptRound state).xor keys.first

end IdentityVault.Aes
