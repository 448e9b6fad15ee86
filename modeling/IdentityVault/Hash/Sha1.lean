import IdentityVault.Hash.BlockHash

/-! SHA-1. -/
namespace IdentityVault

namespace Sha1

structure State where
  a : UInt32
  b : UInt32
  c : UInt32
  d : UInt32
  e : UInt32

def initial : State := ⟨0x67452301, 0xefcdab89, 0x98badcfe, 0x10325476, 0xc3d2e1f0⟩

def rotateLeft (w : UInt32) (n : UInt32) : UInt32 := (w <<< n) ||| (w >>> (32 - n))

/-- Append `n` words to a message schedule of at least sixteen. -/
def extend : Nat → Array UInt32 → Array UInt32
  | 0, w => w
  | n + 1, w =>
      let t := w.size
      extend n (w.push (rotateLeft
        (w.getD (t - 3) 0 ^^^ w.getD (t - 8) 0 ^^^ w.getD (t - 14) 0 ^^^ w.getD (t - 16) 0) 1))

/-- The eighty words of a block. -/
def schedule (block : Bytes) : Array UInt32 := extend 64 (Bytes.toWords block).toArray

/-- The mixing word of round `t`: choice, parity, majority, parity, each with its constant. -/
def mixing (t : Nat) (b c d : UInt32) : UInt32 :=
  if t < 20 then ((b &&& c) ||| (~~~b &&& d)) + 0x5a827999
  else if t < 40 then (b ^^^ c ^^^ d) + 0x6ed9eba1
  else if t < 60 then ((b &&& c) ||| (b &&& d) ||| (c &&& d)) + 0x8f1bbcdc
  else (b ^^^ c ^^^ d) + 0xca62c1d6

def round (t : Nat) (w : UInt32) (s : State) : State :=
  ⟨rotateLeft s.a 5 + mixing t s.b s.c s.d + s.e + w, s.a, rotateLeft s.b 30, s.c, s.d⟩

/-- Run `n` rounds from round `t` on. -/
def rounds (w : Array UInt32) : Nat → Nat → State → State
  | 0, _, s => s
  | n + 1, t, s => rounds w n (t + 1) (round t (w.getD t 0) s)

def compress (s : State) (block : Bytes) : State :=
  let r := rounds (schedule block) 80 0 s
  ⟨s.a + r.a, s.b + r.b, s.c + r.c, s.d + r.d, s.e + r.e⟩

def output (s : State) : Bytes :=
  Bytes.ofWord s.a ++ Bytes.ofWord s.b ++ Bytes.ofWord s.c ++ Bytes.ofWord s.d ++
    Bytes.ofWord s.e

@[simp] theorem length_output (s : State) : (output s).length = 20 := rfl

end Sha1

def sha1 : BlockHash Sha1.State := ⟨Sha1.initial, Sha1.compress, Sha1.output, 20⟩

end IdentityVault
