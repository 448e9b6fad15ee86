import IdentityVault.Command.Password
import IdentityVault.Unlock.Session

/-! Unlocking a vault with passwords from one source. The host of the flow answers each request
from the source; only at a terminal it answers more than once. -/
namespace IdentityVault

inductive UnlockingError where
  | incorrectPassword (attempts : Nat)
  | noPassword
  | store (cause : StoreError)
  deriving DecidableEq

def UnlockingError.message : UnlockingError → String
  | .incorrectPassword n => s!"Incorrect password ({n} attempt(s))"
  | .noPassword => "No password supplied"
  | .store cause => cause.message

namespace UnlockSession

/-- The host leaves, and the driver finds nobody to wait for. -/
def leave (s : UnlockSession) : Program UnlockSession := do
  Program.log ⟨.debug, .unlocking, "Password host finished", []⟩
  s.dropSender.advance

/-- Answer requests until the driver has finished or the host gives up, at most so often. -/
def converse (source : PasswordSource) : (attempts : Nat) → UnlockSession → Program UnlockSession
  | 0, s => s.leave
  | attempts + 1, s =>
      match s.requests.receive with
      | (.item request, requests) => do
          let s := { s with requests := requests }
          if request.isRetry && !source.isInteractive then s.leave
          else
            if request.isRetry then Program.complain "❌ Incorrect password, try again"
            match ← source.read "Identity password: " with
            | .error e =>
              Program.log ⟨.error, .unlocking, "Failed to read password: " ++ e.message, []⟩
              s.leave
            | .ok password =>
              let s ← (s.submit password).proceed stepsToTry
              converse source attempts s
      | _ => s.leave

/-- The result of a whole flow. The reports tell how often a password was wrong. -/
def conclude (s : UnlockSession) : Except UnlockingError Vault :=
  match s.result? with
  | some (.ok ()) => .ok s.vault
  | some (.error (.store e)) => .error (.store e)
  | _ =>
      let failures := s.reports.results.count .decryptionFailure
      if 0 < failures then .error (.incorrectPassword failures) else .error .noPassword

end UnlockSession

/-- As many attempts as a request can count. -/
def attemptLimit : Nat := 4294967296

def Vault.unlockFrom (v : Vault) (source : PasswordSource) :
    Program (Except UnlockingError Vault) := do
  let s ← UnlockSession.proceed UnlockSession.stepsToLoad { vault := v }
  let s ← s.converse source attemptLimit
  return s.conclude

end IdentityVault
