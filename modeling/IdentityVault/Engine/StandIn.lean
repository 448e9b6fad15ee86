import IdentityVault.Engine.CallbackTable
import IdentityVault.Store.Bundle

/-! A stand-in for the protocol engine. It keeps the tables that it is given and uses them as an
engine does, every hash under the lock. -/
namespace IdentityVault

/-- The tables by which an engine and its host are joined. -/
inductive EnginePart where
  | hmac
  | locking
  deriving DecidableEq

def EnginePart.name : EnginePart → String
  | .hmac => "crypto provider"
  | .locking => "locking functions"

inductive EngineError where
  | rejected (what : String)
  | notRegistered (part : EnginePart)
  | callback (code : Int)
  deriving DecidableEq

def EngineError.message : EngineError → String
  | .rejected what => "rejected " ++ what
  | .notRegistered part => part.name ++ " not registered"
  | .callback code => "crypto callback failed with code " ++ toString code

structure StandIn (σ : Type) where
  hmacTable : Option (HmacTable σ) := none
  lockTable : Option (LockTable σ) := none
  identity : Option Bytes := none
  /-- A table that this engine refuses. -/
  refuses : Option EnginePart := none
  /-- Whether it unlocks once too often when it is given an identity. -/
  unlocksTooOften : Bool := false

namespace StandIn

variable {σ : Type}

/-- Whether both tables are there. -/
def isReady (e : StandIn σ) : Bool := e.hmacTable.isSome && e.lockTable.isSome

def setHmacTable (e : StandIn σ) (table : HmacTable σ) : Except EngineError (StandIn σ) :=
  if e.refuses = some .hmac then .error (.rejected EnginePart.hmac.name)
  else .ok { e with hmacTable := some table }

def setLockTable (e : StandIn σ) (table : LockTable σ) : Except EngineError (StandIn σ) :=
  if e.refuses = some .locking then .error (.rejected EnginePart.locking.name)
  else .ok { e with lockTable := some table }

def lock (e : StandIn σ) : Callback σ (Except EngineError Unit) := do
  match e.lockTable with
  | none => return .error (.notRegistered .locking)
  | some table =>
    table.lock .valid
    return .ok ()

def unlock (e : StandIn σ) : Callback σ (Except EngineError Unit) := do
  match e.lockTable with
  | none => return .error (.notRegistered .locking)
  | some table =>
    table.unlock .valid
    return .ok ()

/-- Do something that may fail `n` times, up to the first failure. -/
def replicate (action : Callback σ (Except EngineError Unit)) :
    Nat → Callback σ (Except EngineError Unit)
  | 0 => return .ok ()
  | n + 1 => do
      match ← action with
      | .error e => return .error e
      | .ok () => replicate action n

/-- Something done inside a number of locks. -/
def nested {α : Type} (e : StandIn σ) (depth : Nat) (action : Callback σ α) :
    Callback σ (Except EngineError α) := do
  match ← replicate e.lock depth with
  | .error cause => return .error cause
  | .ok () =>
    let result ← action
    match ← replicate e.unlock depth with
    | .error cause => return .error cause
    | .ok () => return .ok result

/-- Feed the chunks in order, up to the first that is not taken. -/
def feed (table : HmacTable σ) (context : UInt64) :
    List Bytes → Callback σ (Except EngineError Unit)
  | [] => return .ok ()
  | chunk :: rest => do
      let r ← table.update context (.bytes chunk) .valid
      if r.code = 0 then feed table context rest else return .error (.callback r.code)

/-- One whole hash. Its context is cleaned up whether or not the hash succeeds. -/
def runHmac (table : HmacTable σ) (key : Bytes) (chunks : List Bytes) :
    Callback σ (Except EngineError Bytes) := do
  let started ← table.init .valid (.bytes key) .valid
  if started.code ≠ 0 then return .error (.callback started.code)
  let context := started.output.getD 0
  let result ← match ← feed table context chunks with
    | .error e => pure (.error e)
    | .ok () => do
      let r ← table.finish context .valid .valid
      pure (if r.code = 0 then .ok (r.output.getD []) else .error (.callback r.code))
  table.cleanup context .valid
  return result

/-- The keyed hash of the joined chunks, under the lock. -/
def hmacSha256 (e : StandIn σ) (key : Bytes) (chunks : List Bytes) :
    Callback σ (Except EngineError Bytes) := do
  match e.hmacTable with
  | none => return .error (.notRegistered .hmac)
  | some table =>
    match ← e.lock with
    | .error cause => return .error cause
    | .ok () =>
      let result ← runHmac table key chunks
      match ← e.unlock with
      | .error cause => return .error cause
      | .ok () => return result

/-- Keep an identity. -/
def loadIdentity (e : StandIn σ) (k : KeyPair) :
    Callback σ (Except EngineError Unit × StandIn σ) := do
  if !e.isReady then return (.error (.notRegistered .hmac), e)
  if e.unlocksTooOften then
    match ← e.nested 1 (pure ()) with
    | .error cause => return (.error cause, e)
    | .ok () =>
      match ← e.unlock with
      | .error cause => return (.error cause, e)
      | .ok () => return (.ok (), { e with identity := some k.toBytes })
  else return (.ok (), { e with identity := some k.toBytes })

end StandIn

end IdentityVault
