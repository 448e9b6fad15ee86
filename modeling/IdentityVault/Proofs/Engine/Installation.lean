import IdentityVault.Engine.Registration
import IdentityVault.Proofs.Engine.WholeHmac
import IdentityVault.Proofs.Store.RecordLife

/-! An identity on its way to an engine, which may lock and unlock as it likes meanwhile. The guard
of the installation is out of its reach, and nothing but its own lock calls is left afterwards. -/
namespace IdentityVault

/-- A call of an engine on the lock. -/
inductive LockingCall where
  | lock
  | unlock
  deriving DecidableEq

namespace LockingCall

open HostServices

def perform : LockingCall → Callback HostServices Unit
  | lock => lockTable.lock .valid
  | unlock => lockTable.unlock .valid

def performAll : List LockingCall → Callback HostServices Unit
  | [] => return ()
  | c :: rest => do
    c.perform
    performAll rest

/-- The levels of lock calls after one more call. There is nothing to give back without one. -/
def levelsAfter (depth : Nat) : LockingCall → Nat
  | lock => depth + 1
  | unlock => depth - 1

def outstanding (depth : Nat) (calls : List LockingCall) : Nat := calls.foldl levelsAfter depth

variable {w : Traced HostServices} {guards depth : Nat}

theorem run_perform (hheld : w.state.HeldFor guards depth) (c : LockingCall) :
    ∃ log, c.perform.run w = ((), ⟨w.state.withLevels guards (c.levelsAfter depth), log⟩) := by
  cases c with
  | lock => exact ⟨w.log, hheld.run_lock⟩
  | unlock => exact hheld.run_unlock

/-- Any calls change the number of lock calls alone. -/
theorem run_performAll (hheld : w.state.HeldFor guards depth) (calls : List LockingCall) :
    ∃ log, (performAll calls).run w =
      ((), ⟨w.state.withLevels guards (outstanding depth calls), log⟩) := by
  induction calls generalizing w depth with
  | nil =>
    refine ⟨w.log, ?_⟩
    change _ = ((), (⟨w.state.withLevels guards depth, w.log⟩ : Traced HostServices))
    rw [hheld.withLevels_self]
    rfl
  | cons c rest ih =>
    obtain ⟨log, hfirst⟩ := run_perform hheld c
    obtain ⟨log', hrest⟩ :=
      ih (w := ⟨_, log⟩) (w.state.heldFor_withLevels guards (c.levelsAfter depth))
    refine ⟨log', ?_⟩
    simp only [performAll, StateT.run_bind, hfirst]
    exact hrest

theorem performAll_append (calls later : List LockingCall) :
    performAll (calls ++ later) = (do performAll calls; performAll later) := by
  induction calls with
  | nil => simp [performAll]
  | cons c rest ih => simp [performAll, ih]

end LockingCall

namespace ReentrantLock

/-- The lock of the only thread, seen among others. -/
def ofThread {τ : Type} (l : ReentrantLock Unit) (t : τ) : ReentrantLock τ :=
  { l with owner := l.owner.map fun _ => t }

theorem ofThread_of {τ : Type} (t : τ) (levels depth : Nat) :
    (of () levels depth).ofThread t = of t levels depth := by
  cases levels <;> rfl

end ReentrantLock

namespace EngineInterface

open LockingCall HostServices

variable {ω : Type} {i : EngineInterface ω HostServices} {engine : ω} {v : Vault} {k : KeyPair}
  {w : Traced HostServices} {guards depth : Nat}

/-- The guard of an installation. -/
def hold : Callback HostServices Unit := do
  Callback.setState (← Callback.state).enter

/-- What an installation returns when the engine has answered. -/
def reply (k : KeyPair) :
    Except EngineError Unit × ω → Except (RegistrationError EngineError) String × ω
  | (.error e, engine) => (.error (.identity e), engine)
  | (.ok (), engine) => (.ok k.fingerprint, engine)

/-- What is left of an installation when the engine has answered. -/
def conclude (k : KeyPair) (answer : Except EngineError Unit × ω) :
    Callback HostServices (Except (RegistrationError EngineError) String × ω) := do
  if answer.1.isOk then
    Callback.record ⟨.info, .session, "Identity installed in protocol engine",
      [("fingerprint", k.fingerprint)]⟩
  Callback.setState (← Callback.state).leave
  return reply k answer

theorem install_eq (hidentity : v.identity = some k) :
    i.install engine v = (do
      hold
      let answer ← i.loadIdentity engine k
      conclude k answer) := by
  unfold install hold
  rw [hidentity]
  simp only [bind_assoc]
  congr 1
  funext s
  congr 1
  funext _
  congr 1
  funext ⟨result, engine⟩
  cases result with
  | error e => simp [conclude, reply, Except.isOk, Except.toBool]
  | ok => simp [conclude, reply, Except.isOk, Except.toBool]

theorem install_of_locked (hlocked : v.identity = none) :
    i.install engine v = return (.error (.identityNotReady v.state), engine) := by
  unfold install
  rw [hlocked]

theorem run_hold (hheld : w.state.HeldFor guards depth) :
    hold.run w = ((), ⟨w.state.withLevels (guards + 1) depth, w.log⟩) := by
  rw [← hheld.enter]
  rfl

/-- A thread with a guard on top, in the midst of the calls of its engine. -/
theorem run_hold_performAll (hheld : w.state.HeldFor guards depth) (made : List LockingCall) :
    ∃ log, (do hold; performAll made : Callback HostServices Unit).run w =
      ((), ⟨w.state.withLevels (guards + 1) (outstanding depth made), log⟩) := by
  obtain ⟨log, hmade⟩ :=
    run_performAll (w := ⟨_, w.log⟩) (w.state.heldFor_withLevels (guards + 1) depth) made
  refine ⟨log, ?_⟩
  simp only [StateT.run_bind, run_hold hheld]
  exact hmade

theorem run_conclude (hheld : w.state.HeldFor (guards + 1) depth) (k : KeyPair)
    (answer : Except EngineError Unit × ω) : ∃ log, (conclude k answer).run w =
      (reply k answer, ⟨w.state.withLevels guards depth, log⟩) := by
  rw [← hheld.leave]
  obtain ⟨result, engine⟩ := answer
  cases result with
  | error e => exact ⟨w.log, rfl⟩
  | ok =>
    refine ⟨w.log ++ [⟨.info, .session, "Identity installed in protocol engine",
      [("fingerprint", k.fingerprint)]⟩], ?_⟩
    rfl

/-- An engine that makes these calls on the lock when it is given an identity, and then answers. -/
def Calls (i : EngineInterface ω HostServices) (engine : ω) (calls : KeyPair → List LockingCall)
    (answer : KeyPair → Except EngineError Unit × ω) : Prop :=
  ∀ k, i.loadIdentity engine k = (do performAll (calls k); return answer k)

/-- The installation of a key pair with an engine that makes such calls. The thread has its guard
on top of what it had from the first call to the last, and keeps those levels that the calls took
and did not give back. -/
structure Guarded (i : EngineInterface ω HostServices) (engine : ω) (v : Vault) (t : HostThread)
    (k : KeyPair) (calls : List LockingCall) (answer : Except EngineError Unit × ω) : Prop where
  reply_eq : ((i.install engine v).run t.host).1 = reply k answer
  during (made rest : List LockingCall) (h : calls = made ++ rest) : ∃ w,
    (do hold; performAll made : Callback HostServices Unit).run t.host = ((), w) ∧
    (i.install engine v).run t.host = (do performAll rest; conclude k answer).run w ∧
    w.state.lock.isHeldBy () ∧
    (∀ {τ : Type} [DecidableEq τ] (self other : τ), other ≠ self →
      (w.state.lock.ofThread self).enter? other = none) ∧
    w.state.HeldFor (t.guards + 1) (outstanding t.host.state.lock.depth made)
  after : ((i.install engine v).run t.host).2.state =
    t.host.state.withLevels t.guards (outstanding t.host.state.lock.depth calls)

theorem guarded_of_calls {t : HostThread} {calls : KeyPair → List LockingCall}
    {answer : KeyPair → Except EngineError Unit × ω} (hsound : t.Sound)
    (hidentity : v.identity = some k) (hcalls : Calls i engine calls answer) :
    Guarded i engine v t k (calls k) (answer k) := by
  have hinstall (made rest : List LockingCall) (h : calls k = made ++ rest) :
      i.install engine v = (do
        (do hold; performAll made : Callback HostServices Unit)
        performAll rest
        conclude k (answer k)) := by
    rw [install_eq hidentity, hcalls k, h, performAll_append]
    simp
  -- All that follows the first calls of the engine starts from where they led.
  have hmoment (made rest : List LockingCall) (h : calls k = made ++ rest) : ∃ log w,
      w = ⟨t.host.state.withLevels (t.guards + 1)
        (outstanding t.host.state.lock.depth made), log⟩ ∧
      (do hold; performAll made : Callback HostServices Unit).run t.host = ((), w) ∧
      (i.install engine v).run t.host = (do performAll rest; conclude k (answer k)).run w := by
    obtain ⟨log, hmade⟩ := run_hold_performAll hsound.held made
    refine ⟨log, _, rfl, hmade, ?_⟩
    rw [hinstall made rest h, StateT.run_bind, hmade]
    rfl
  obtain ⟨log, w, hw, -, hlast⟩ := hmoment (calls k) [] (List.append_nil _).symm
  have hheld : w.state.HeldFor (t.guards + 1)
      (outstanding t.host.state.lock.depth (calls k)) := by
    rw [hw]
    exact heldFor_withLevels _ _ _
  obtain ⟨log', hconclude⟩ := run_conclude hheld k (answer k)
  have hall : (i.install engine v).run t.host = (reply k (answer k), _) := hlast.trans hconclude
  refine ⟨?_, ?_, ?_⟩
  · rw [hall]
  · intro made rest h
    obtain ⟨log, w, hw, hmade, hrest⟩ := hmoment made rest h
    have hheld : w.state.HeldFor (t.guards + 1)
        (outstanding t.host.state.lock.depth made) := by
      rw [hw]
      exact heldFor_withLevels _ _ _
    refine ⟨w, hmade, hrest, hheld.isHeldBy_iff.2 (by omega), ?_, hheld⟩
    intro τ _ self other hother
    rw [hheld, ReentrantLock.ofThread_of]
    exact ReentrantLock.enter?_of_ne hother (by omega)
  · rw [hall, hw]
    rfl

/-- The calls of the stand-in when it is given an identity. -/
def standInCalls (e : StandIn HostServices) : List LockingCall :=
  if e.unlocksTooOften then [.lock, .unlock, .unlock] else []

theorem calls_standIn {e : StandIn HostServices} (he : Joined e) :
    Calls StandIn.interface e (fun _ => standInCalls e)
      (fun k => (.ok (), { e with identity := some k.toBytes })) := by
  intro k
  have hready : e.isReady = true := by
    simp [StandIn.isReady, he.hmacTable_eq, he.lockTable_eq]
  change e.loadIdentity k = _
  unfold StandIn.loadIdentity standInCalls
  rw [hready]
  by_cases hoften : e.unlocksTooOften = true
  · simp [hoften, StandIn.nested, StandIn.replicate, he.lock_eq, he.unlock_eq, performAll, perform]
  · simp [hoften, performAll]

/-- How the installation of a vault's identity ends for a thread, whatever the engine is. -/
structure Installs (v : Vault) (t : HostThread) : Prop where
  locked {ω : Type} (i : EngineInterface ω HostServices) (engine : ω) (h : v.state ≠ .ready) :
    (i.install engine v).run t.host = ((.error (.identityNotReady v.state), engine), t.host)
  ready {ω : Type} (i : EngineInterface ω HostServices) (engine : ω)
    (calls : KeyPair → List LockingCall) (answer : KeyPair → Except EngineError Unit × ω)
    (h : v.state = .ready) (hcalls : Calls i engine calls answer) :
    ∃ identity k, v.bundle = some (.plain identity) ∧ identity.length = 64 ∧
      k.toBytes = identity ∧ k.fingerprint = (sha256.digest (identity.take 32)).toHex ∧
      Guarded i engine v t k (calls k) (answer k)
  standIn (e₀ e : StandIn HostServices) (h : v.state = .ready)
    (hregister : StandIn.interface.register e₀ = .ok e) :
    ((StandIn.interface.install e v).run t.host).1.1.isOk ∧
      ((StandIn.interface.install e v).run t.host).2.state.lock.depth =
        if e.unlocksTooOften then t.host.state.lock.depth - 1 else t.host.state.lock.depth

theorem identity_of_ready (hcoherent : v.record.Coherent) (hready : v.state = .ready) :
    ∃ identity k, v.bundle = some (.plain identity) ∧ identity.length = 64 ∧
      v.identity = some k ∧ k.toBytes = identity ∧
      k.fingerprint = (sha256.digest (identity.take 32)).toHex := by
  obtain ⟨l, contents⟩ := v
  cases contents with
  | unloaded | awaitingPassword => cases hready
  | ready identity salt =>
    obtain ⟨_, hbundle, hlength⟩ := hcoherent.ready rfl
    cases hbundle
    refine ⟨identity, ⟨identity.take 32, identity.drop 32⟩, rfl, hlength, ?_, ?_, rfl⟩
    · exact if_pos hlength
    · exact List.take_append_drop 32 identity

/-- A vault and a host thread in any state that they can be in. -/
theorem installs_of_run {l : StorageLayout} {world : World} {deeds : List VaultDeed}
    {s : Vault × World} {log : List LogEvent} {past : List HostDeed} {t : HostThread}
    (hvault : Vault.Run l world deeds s) (hthread : HostThread.Run log past t) :
    Installs s.1 t := by
  have hcoherent := hvault.coherent
  have hsound := HostThread.Run.sound hthread
  refine ⟨?_, ?_, ?_⟩
  · intro ω i engine hlocked
    have hnone : s.1.identity = none := by
      rw [← Option.not_isSome_iff_eq_none, ← Vault.identity_record, hcoherent.isSome_identity_iff]
      exact hlocked
    rw [install_of_locked hnone]
    rfl
  · intro ω i engine calls answer hready hcalls
    obtain ⟨identity, k, hbundle, hlength, hidentity, hbytes, hprint⟩ :=
      identity_of_ready hcoherent hready
    exact ⟨identity, k, hbundle, hlength, hbytes, hprint,
      guarded_of_calls hsound hidentity hcalls⟩
  · intro e₀ e hready hregister
    obtain ⟨identity, k, -, -, hidentity, -⟩ := identity_of_ready hcoherent hready
    have hguarded := guarded_of_calls hsound hidentity
      (calls_standIn (joined_of_register hregister))
    refine ⟨?_, ?_⟩
    · rw [hguarded.reply_eq]
      rfl
    · rw [hguarded.after, (heldFor_withLevels _ _ _).depth_eq, standInCalls]
      split_ifs <;> rfl

set_option maxRecDepth 4000 in
/-- An identity is handed to an engine that unlocks too often, by a thread with a guard and a lock
call of its own. -/
theorem installs_under_guard : ∃ (v : Vault) (t : HostThread) (e : StandIn HostServices),
    v.contents = .ready (List.replicate 64 7) none ∧
      t.host.state.lock = ⟨some (), 2, 1⟩ ∧ Installs v t ∧
      ((StandIn.interface.install e v).run t.host).2.state.lock.depth = 0 := by
  have hvault : Vault.Run ⟨"/d"⟩ { disk := .empty } _ _ :=
    .next .start (.load _ _ fun _ => Vault.saltlessStore (List.replicate 64 7))
  have hthread : HostThread.Run [] [.hold, .lock .valid] _ :=
    .next (.next .start (.lock _ _)) (.hold _ _)
  have hinstalls := installs_of_run hvault hthread
  exact ⟨_, _, _, by rfl, rfl, hinstalls,
    (hinstalls.standIn { unlocksTooOften := true } _ (by rfl) rfl).2⟩

end EngineInterface

end IdentityVault
