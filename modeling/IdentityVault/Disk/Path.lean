/-! File paths as texts, and the names along them. -/
namespace IdentityVault

abbrev Path := String

namespace Path

def isAbsolute (p : Path) : Bool := p.toList.head? = some '/'

/-- The path `q` below `p`. An absolute `q` stands for itself; a slash is put between the two only
where `p` is not empty and does not end in one. -/
def join (p q : Path) : Path :=
  if isAbsolute q then q
  else if p.toList.isEmpty ∨ p.toList.getLast? = some '/' then p ++ q
  else p ++ "/" ++ q

/-- The texts between slashes, empty ones included. -/
def segments (p : Path) : List String := (p.toList.splitOn '/').map String.ofList

/-- The names along a path; empty segments and single dots lead nowhere. -/
def names (p : Path) : List String := p.segments.filter fun s => s ≠ "" ∧ s ≠ "."

def ofNames (absolute : Bool) (names : List String) : Path :=
  (if absolute then "/" else "") ++ String.intercalate "/" names

/-- The directory that a path names its last part in. -/
def parent (p : Path) : Path := ofNames p.isAbsolute p.names.dropLast

/-- The directories above a path, the nearest first; the starting point is left out. -/
def ancestors (p : Path) : List Path :=
  let above := p.names.dropLast
  (List.range above.length).reverse.map fun n => ofNames p.isAbsolute (above.take (n + 1))

end Path

end IdentityVault
