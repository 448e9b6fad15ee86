import IdentityVault.Bytes

/-! Cipher blocks of sixteen bytes, as four columns of four, and their byte strings. -/
namespace IdentityVault

/-- Four bytes of a block, from row 0 to row 3. -/
structure Column where
  r0 : UInt8
  r1 : UInt8
  r2 : UInt8
  r3 : UInt8
  deriving DecidableEq

structure Block where
  c0 : Column
  c1 : Column
  c2 : Column
  c3 : Column
  deriving DecidableEq

namespace Column

def map (f : UInt8 → UInt8) (x : Column) : Column := ⟨f x.r0, f x.r1, f x.r2, f x.r3⟩

def xor (x y : Column) : Column := ⟨x.r0 ^^^ y.r0, x.r1 ^^^ y.r1, x.r2 ^^^ y.r2, x.r3 ^^^ y.r3⟩

def toBytes (x : Column) : Bytes := [x.r0, x.r1, x.r2, x.r3]

end Column

namespace Block

/-- Bytes in one block. -/
def size : Nat := 16

def map (f : UInt8 → UInt8) (b : Block) : Block :=
  ⟨b.c0.map f, b.c1.map f, b.c2.map f, b.c3.map f⟩

def xor (a b : Block) : Block :=
  ⟨a.c0.xor b.c0, a.c1.xor b.c1, a.c2.xor b.c2, a.c3.xor b.c3⟩

def toBytes (b : Block) : Bytes :=
  b.c0.toBytes ++ b.c1.toBytes ++ b.c2.toBytes ++ b.c3.toBytes

/-- The block of the first sixteen bytes; missing ones are zero. -/
def ofBytes (x : Bytes) : Block :=
  let column (i : Nat) : Column :=
    ⟨x.getD i 0, x.getD (i + 1) 0, x.getD (i + 2) 0, x.getD (i + 3) 0⟩
  ⟨column 0, column 4, column 8, column 12⟩

/-- The first `n` blocks of a byte string. -/
def split : Nat → Bytes → List Block
  | 0, _ => []
  | n + 1, x => ofBytes (x.take size) :: split n (x.drop size)

def join (blocks : List Block) : Bytes := blocks.flatMap toBytes

@[simp] theorem length_toBytes (b : Block) : b.toBytes.length = size := rfl

@[simp] theorem length_split (n : Nat) (x : Bytes) : (split n x).length = n := by
  induction n generalizing x with
  | zero => rfl
  | succ n ih => simp [split, ih]

@[simp] theorem ofBytes_toBytes (b : Block) : ofBytes b.toBytes = b := rfl

theorem ofBytes_toBytes_append (b : Block) (rest : Bytes) :
    ofBytes ((b.toBytes ++ rest).take size) = b := rfl

@[simp] theorem xor_xor_cancel_right (a b : Block) : (a.xor b).xor b = a := by
  simp only [xor, Column.xor, UInt8.xor_assoc, UInt8.xor_self, UInt8.xor_zero]

end Block

end IdentityVault
