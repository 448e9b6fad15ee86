import IdentityVault.Bytes
import IdentityVault.Engine.SlotTable
import IdentityVault.Logging.Event

/-! What an engine needs from its host: keyed hashing in pieces and a lock. A provider keeps its
own state; each of its callbacks returns, fails or panics. -/
namespace IdentityVault

inductive CallbackError where
  | noMemory
  | invalidArgument
  | computation
  | unknown
  deriving DecidableEq

namespace CallbackError

def message : CallbackError → String
  | .noMemory => "out of memory"
  | .invalidArgument => "invalid argument"
  | .computation => "HMAC computation failed"
  | .unknown => "unknown error"

/-- The number that the engine knows a failure by. -/
def code : CallbackError → Int
  | .noMemory => -12
  | .invalidArgument => -22
  | .computation => -1
  | .unknown => -1000

def ofSlotTable : SlotTableError → CallbackError
  | .outOfMemory => .noMemory
  | .exhausted => .unknown

end CallbackError

/-- How a callback ends. -/
inductive Outcome (α : Type) where
  | returned (a : α)
  | failed (e : CallbackError)
  | panicked
  deriving DecidableEq

/-- The state of a provider, and what was logged. -/
structure Traced (σ : Type) where
  state : σ
  log : List LogEvent := []

/-- Something done by or with a provider. -/
abbrev Callback (σ α : Type) : Type := StateM (Traced σ) α

namespace Callback

variable {σ : Type}

def record (e : LogEvent) : Callback σ Unit := modify fun s => { s with log := s.log ++ [e] }

def state : Callback σ σ := do return (← get).state

def setState (state : σ) : Callback σ Unit := modify fun s => { s with state := state }

end Callback

structure Provider (σ : Type) where
  init : (key : Bytes) → Callback σ (Outcome Handle)
  update : Handle → (data : Bytes) → Callback σ (Outcome Unit)
  finish : Handle → Callback σ (Outcome Bytes)
  cleanup : Option Handle → Callback σ (Outcome Unit)
  lock : Callback σ (Outcome Unit)
  unlock : Callback σ (Outcome Unit)

end IdentityVault
