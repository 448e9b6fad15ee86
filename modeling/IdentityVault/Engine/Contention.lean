import IdentityVault.Engine.ReentrantLock

/-! Several threads at one lock. A thread that finds the lock taken waits and is let in when the
lock is free. -/
namespace IdentityVault

/-- The two ways to take a level. -/
inductive Entry where
  | lockCall
  | guarded
  deriving DecidableEq

inductive LockAction where
  | enter (entry : Entry)
  | unlock
  | release
  | ask
  deriving DecidableEq

inductive LockAnswer where
  | done
  | waits
  | refused (e : LockError)
  | noGuard
  | held (yes : Bool)
  deriving DecidableEq

/-- The lock, the number of guards of each thread, and the threads that wait, the first in
front. -/
structure Contention (τ : Type) where
  lock : ReentrantLock τ := {}
  guards : τ → Nat := fun _ => 0
  waiting : List (τ × Entry) := []

namespace Contention

variable {τ : Type} [DecidableEq τ]

def setGuards (c : Contention τ) (t : τ) (count : Nat) : Contention τ :=
  { c with guards := fun u => if u = t then count else c.guards u }

/-- Take a level at once, or nothing where the thread has to wait. -/
def enter? (c : Contention τ) (t : τ) : Entry → Option (Contention τ)
  | .lockCall => (c.lock.lock? t).map fun lock => { c with lock := lock }
  | .guarded => (c.lock.enter? t).map fun lock =>
      { c with lock := lock }.setGuards t (c.guards t + 1)

/-- What one thread does. -/
def act (c : Contention τ) (t : τ) : LockAction → LockAnswer × Contention τ
  | .enter entry =>
      match c.enter? t entry with
      | some c => (.done, c)
      | none => (.waits, { c with waiting := c.waiting ++ [(t, entry)] })
  | .unlock =>
      match c.lock.unlock t with
      | .ok lock => (.done, { c with lock := lock })
      | .error e => (.refused e, c)
  | .release =>
      match c.guards t with
      | 0 => (.noGuard, c)
      | count + 1 => (.done, { c with lock := c.lock.leave }.setGuards t count)
  | .ask => (.held (c.lock.isHeldBy t), c)

/-- Let the first waiting thread in if the lock is free. -/
def letIn (c : Contention τ) : List τ × Contention τ :=
  match c.waiting with
  | [] => ([], c)
  | (t, entry) :: rest =>
      match { c with waiting := rest }.enter? t entry with
      | some c => ([t], c)
      | none => ([], c)

/-- What one thread does, and who is let in after it. -/
def step (c : Contention τ) (t : τ) (a : LockAction) : LockAnswer × List τ × Contention τ :=
  let (answer, c) := c.act t a
  let (admitted, c) := c.letIn
  (answer, admitted, c)

end Contention

end IdentityVault
