import IdentityVault.Engine.HostServices
import IdentityVault.Engine.StandIn
import IdentityVault.Store.Vault

/-! An engine joined with the services of its host, and the identity handed over to it. -/
namespace IdentityVault

/-- What a host asks of an engine with state `ω`. -/
structure EngineInterface (ω σ : Type) where
  setHmacTable : ω → HmacTable σ → Except EngineError ω
  setLockTable : ω → LockTable σ → Except EngineError ω
  loadIdentity : ω → KeyPair → Callback σ (Except EngineError Unit × ω)

def StandIn.interface {σ : Type} : EngineInterface (StandIn σ) σ where
  setHmacTable := setHmacTable
  setLockTable := setLockTable
  loadIdentity := loadIdentity

/-- Why an engine and its host did not come together; `ε` is what the engine says. -/
inductive RegistrationError (ε : Type) where
  | hmacTable (cause : ε)
  | lockTable (cause : ε)
  | identityNotReady (state : StoreState)
  | identity (cause : ε)
  deriving DecidableEq

namespace RegistrationError

variable {ε : Type}

def message (describe : ε → String) : RegistrationError ε → String
  | .hmacTable cause => "Engine rejected crypto provider: " ++ describe cause
  | .lockTable cause => "Engine rejected locking functions: " ++ describe cause
  | .identityNotReady state => s!"Identity store is not ready (state: {state.name})"
  | .identity cause => "Engine rejected identity key pair: " ++ describe cause

/-- What the engine says. -/
def cause? : RegistrationError ε → Option ε
  | .hmacTable cause => some cause
  | .lockTable cause => some cause
  | .identityNotReady _ => none
  | .identity cause => some cause

end RegistrationError

namespace EngineInterface

variable {ω : Type}

/-- Give new services to an engine. -/
def register (i : EngineInterface ω HostServices) (engine : ω) :
    Except (RegistrationError EngineError) ω :=
  match i.setHmacTable engine (.ofProvider HostServices.provider) with
  | .error e => .error (.hmacTable e)
  | .ok engine =>
    match i.setLockTable engine (.ofProvider HostServices.provider) with
    | .error e => .error (.lockTable e)
    | .ok engine => .ok engine

/-- The event of a registration. -/
def openedEvent : LogEvent := ⟨.debug, .session, "Protocol engine context opened", []⟩

/-- The event of the end of a registration. -/
def closedEvent (s : HostServices) : LogEvent :=
  ⟨.debug, .session, "Protocol engine context closed",
    [("live_hmacs", toString s.liveHmacs)]⟩

/-- Hand the identity of an unlocked vault to a registered engine, under a guard of the lock. The
result is the fingerprint. -/
def install (i : EngineInterface ω HostServices) (engine : ω) (v : Vault) :
    Callback HostServices (Except (RegistrationError EngineError) String × ω) := do
  match v.identity with
  | none => return (.error (.identityNotReady v.state), engine)
  | some k =>
    Callback.setState (← Callback.state).enter
    let (result, engine) ← i.loadIdentity engine k
    match result with
    | .error e =>
      Callback.setState (← Callback.state).leave
      return (.error (.identity e), engine)
    | .ok () =>
      Callback.record ⟨.info, .session, "Identity installed in protocol engine",
        [("fingerprint", k.fingerprint)]⟩
      Callback.setState (← Callback.state).leave
      return (.ok k.fingerprint, engine)

def inspect (engine : String) (s : HostServices) : String :=
  "EngineContext \x7b engine: " ++ engine ++ ", bridge: " ++ s.inspect ++ " \x7d"

end EngineInterface

end IdentityVault
