import IdentityVault.Engine.Provider
import IdentityVault.Engine.ReentrantLock
import IdentityVault.Hash.Hmac

/-! The provider that a host offers to its engine: running keyed hashes behind handles, and the
engine lock. Engine and host call it from one thread. -/
namespace IdentityVault

/-- A keyed hash with the data fed so far. A finished one keeps its handle. -/
inductive HmacState where
  | running (key data : Bytes)
  | finished
  deriving DecidableEq

structure HostServices where
  lock : ReentrantLock Unit := {}
  hmacs : SlotTable HmacState := .empty

namespace HostServices

/-- The number of handles that were not cleaned up. -/
def liveHmacs (s : HostServices) : Nat := s.hmacs.size

def inspect (s : HostServices) : String :=
  "CryptoBridge \x7b locked: " ++ toString s.lock.isLocked ++ ", live_hmacs: " ++
    toString s.liveHmacs ++ " \x7d"

def logged (level : Level) (message : String) (h : Handle) : LogEvent :=
  ⟨level, .hmac, message, [("handle", toString h.toRaw.toNat)]⟩

def setHmacs (s : HostServices) (hmacs : SlotTable HmacState) : HostServices :=
  { s with hmacs := hmacs }

/-- Take a level. A single thread never waits. -/
def enter (s : HostServices) : HostServices := { s with lock := (s.lock.enter? ()).getD s.lock }

def lockCall (s : HostServices) : HostServices := { s with lock := (s.lock.lock? ()).getD s.lock }

/-- Give back the level of a guard. -/
def leave (s : HostServices) : HostServices := { s with lock := s.lock.leave }

def init (key : Bytes) : Callback HostServices (Except CallbackError Handle) := do
  let s ← Callback.state
  match s.hmacs.insert (.running key []) with
  | .ok (h, hmacs) =>
    Callback.setState (s.setHmacs hmacs)
    Callback.record (logged .trace "hmac init" h)
    return .ok h
  | .error e => return .error (.ofSlotTable e)

def update (h : Handle) (data : Bytes) : Callback HostServices (Except CallbackError Unit) := do
  let s ← Callback.state
  match s.hmacs.get? h with
  | some (.running key fed) =>
    Callback.setState (s.setHmacs (s.hmacs.update h fun _ => .running key (fed ++ data)))
    return .ok ()
  | some .finished =>
    Callback.record (logged .warning "hmac update after final" h)
    return .error .computation
  | none =>
    Callback.record (logged .warning "hmac update on stale handle" h)
    return .error .computation

/-- The digest of all data fed. It is given once. -/
def finish (h : Handle) : Callback HostServices (Except CallbackError Bytes) := do
  let s ← Callback.state
  match s.hmacs.get? h with
  | some (.running key fed) =>
    Callback.setState (s.setHmacs (s.hmacs.update h fun _ => .finished))
    return .ok (hmac sha256 key fed)
  | some .finished =>
    Callback.record (logged .warning "hmac finalized twice" h)
    return .error .unknown
  | none =>
    Callback.record (logged .warning "hmac final on stale handle" h)
    return .error .unknown

def cleanup (handle : Option Handle) : Callback HostServices Unit := do
  match handle with
  | none => return ()
  | some h =>
    let s ← Callback.state
    match s.hmacs.remove h with
    | (some _, hmacs) =>
      Callback.setState (s.setHmacs hmacs)
      Callback.record (logged .trace "hmac cleanup" h)
    | (none, _) => Callback.record (logged .warning "hmac cleanup on stale handle" h)

def lockEngine : Callback HostServices Unit := do
  Callback.setState (← Callback.state).lockCall

/-- An unlock call that nothing answers to is logged and ignored. -/
def unlockEngine : Callback HostServices Unit := do
  let s ← Callback.state
  match s.lock.unlock () with
  | .ok lock => Callback.setState { s with lock := lock }
  | .error e => Callback.record ⟨.error, .hmac, "engine unlock ignored: " ++ e.message, []⟩

def outcome {α : Type} : Except CallbackError α → Outcome α
  | .ok a => .returned a
  | .error e => .failed e

/-- The services as a provider. They never panic. -/
def provider : Provider HostServices where
  init key := do return outcome (← init key)
  update h data := do return outcome (← update h data)
  finish h := do return outcome (← finish h)
  cleanup handle := do
    cleanup handle
    return .returned ()
  lock := do
    lockEngine
    return .returned ()
  unlock := do
    unlockEngine
    return .returned ()

end HostServices

end IdentityVault
