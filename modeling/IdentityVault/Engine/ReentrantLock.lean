/-! A lock that its owner may take again. A level is taken by a lock call and given back by an
unlock call, or is taken and given back with a guard. Unlocking gives back only levels that lock
calls took. -/
namespace IdentityVault

inductive LockError where
  | notOwner
  | unbalanced
  deriving DecidableEq

def LockError.name : LockError → String
  | .notOwner => "NotOwner"
  | .unbalanced => "Unbalanced"

def LockError.message : LockError → String
  | .notOwner => "unlock called by a thread that does not own the engine lock"
  | .unbalanced => "unlock called more times than lock"

/-- The owner, all levels it has taken, and how many of them lock calls took. -/
structure ReentrantLock (τ : Type) where
  owner : Option τ := none
  levels : Nat := 0
  depth : Nat := 0
  deriving DecidableEq

namespace ReentrantLock

variable {τ : Type} [DecidableEq τ]

def isLocked (l : ReentrantLock τ) : Bool := l.owner.isSome

def isHeldBy (l : ReentrantLock τ) (t : τ) : Bool := l.owner = some t

/-- Another level for a thread, or nothing where the thread has to wait. -/
def enter? (l : ReentrantLock τ) (t : τ) : Option (ReentrantLock τ) :=
  match l.owner with
  | none => some { l with owner := some t, levels := 1 }
  | some owner => if owner = t then some { l with levels := l.levels + 1 } else none

/-- Give a level back. The lock is free after the last. -/
def leave (l : ReentrantLock τ) : ReentrantLock τ :=
  if l.levels ≤ 1 then { l with owner := none, levels := 0 }
  else { l with levels := l.levels - 1 }

/-- A lock call. -/
def lock? (l : ReentrantLock τ) (t : τ) : Option (ReentrantLock τ) :=
  (l.enter? t).map fun l => { l with depth := l.depth + 1 }

def unlock (l : ReentrantLock τ) (t : τ) : Except LockError (ReentrantLock τ) :=
  if !l.isHeldBy t then .error .notOwner
  else if l.depth = 0 then .error .unbalanced
  else .ok { l with depth := l.depth - 1 }.leave

end ReentrantLock

end IdentityVault
