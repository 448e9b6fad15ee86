/-! Handles: a slot number with the generation of its value. A raw handle is one 64-bit word that
is never zero. -/
namespace IdentityVault

structure Handle where
  index : UInt32
  generation : UInt32
  deriving DecidableEq

namespace Handle

/-- The generation in the upper half, the slot number plus one in the lower. -/
def toRaw (h : Handle) : UInt64 := (h.generation.toUInt64 <<< 32) ||| (h.index.toUInt64 + 1)

/-- A word with a lower half of zero is no handle. -/
def ofRaw? (raw : UInt64) : Option Handle :=
  let slot := raw &&& 0xffffffff
  if slot = 0 then none else some ⟨(slot - 1).toUInt32, (raw >>> 32).toUInt32⟩

def inspect (h : Handle) : String :=
  "Handle \x7b index: " ++ toString h.index.toNat ++ ", generation: " ++
    toString h.generation.toNat ++ " \x7d"

end Handle

end IdentityVault
