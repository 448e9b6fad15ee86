import IdentityVault.Proofs.Engine.Installation

/-! What comes back from an engine that was given an identity. Only the fingerprint of the key pair
finds its way into it. -/
namespace IdentityVault

namespace StandIn

/-- What the stand-in answers to a key pair, whichever it is. -/
def acceptance (e : StandIn HostServices) : Callback HostServices (Except EngineError Unit) := do
  if !e.isReady then return .error (.notRegistered .hmac)
  if e.unlocksTooOften then
    match ← e.nested 1 (pure ()) with
    | .error cause => return .error cause
    | .ok () => e.unlock
  else return .ok ()

theorem loadIdentity_eq (e : StandIn HostServices) (k : KeyPair) :
    e.loadIdentity k = (do
      match ← e.acceptance with
      | .error cause => return (.error cause, e)
      | .ok () => return (.ok (), { e with identity := some k.toBytes })) := by
  unfold loadIdentity acceptance
  cases e.isReady with
  | false => rfl
  | true =>
    cases e.unlocksTooOften with
    | false => rfl
    | true =>
      simp only [Bool.not_true, Bool.false_eq_true, if_false, if_true, bind_assoc]
      congr 1
      funext result
      cases result <;> rfl

end StandIn

namespace EngineInterface

variable {ω : Type} {v : Vault} {k : KeyPair}

/-- An installation that succeeds tells the fingerprint and nothing else. -/
theorem fingerprint_of_install {i : EngineInterface ω HostServices} {engine : ω}
    {t : Traced HostServices} {fingerprint : String} (hidentity : v.identity = some k)
    (hok : ((i.install engine v).run t).1.1 = .ok fingerprint) : fingerprint = k.fingerprint := by
  rw [install_eq hidentity] at hok
  have hconclude (answer : Except EngineError Unit × ω) (t : Traced HostServices)
      (hok : ((conclude k answer).run t).1.1 = .ok fingerprint) : fingerprint = k.fingerprint := by
    obtain ⟨result, engine⟩ := answer
    cases result with
    | error e => cases hok
    | ok =>
      cases hok
      rfl
  exact hconclude ((i.loadIdentity engine k).run (hold.run t).2).1 _ hok

/-- What is left of the installation in a stand-in when it has answered. -/
def settle (fingerprint : String) (answer : Except EngineError Unit) :
    Callback HostServices (Except (RegistrationError EngineError) String) := do
  if answer.isOk then
    Callback.record ⟨.info, .session, "Identity installed in protocol engine",
      [("fingerprint", fingerprint)]⟩
  Callback.setState (← Callback.state).leave
  return match answer with
    | .error e => .error (.identity e)
    | .ok () => .ok fingerprint

theorem install_standIn (e : StandIn HostServices) (hidentity : v.identity = some k) :
    Prod.fst <$> StandIn.interface.install e v = (do
      hold
      settle k.fingerprint (← e.acceptance)) := by
  rw [install_eq hidentity, map_bind]
  congr 1
  funext _
  change (Prod.fst <$> do let answer ← e.loadIdentity k; conclude k answer) = _
  rw [StandIn.loadIdentity_eq, map_bind, bind_assoc]
  congr 1
  funext answer
  cases answer <;> rfl

end EngineInterface

end IdentityVault
