import IdentityVault.Command.Unlocking
import IdentityVault.Proofs.Unlock.Driver

/-! The unlock flow of a command whose password comes from a file or from the environment. It comes
to what a load and one attempt come to, and it leaves everything as it was. -/
namespace IdentityVault

namespace PasswordSource

theorem quiet_fetch {source : PasswordSource} (h : source.isInteractive = false)
    (question : String) : (source.fetch question).Quiet := by
  cases source with
  | terminal => cases h
  | environment =>
    refine .bind (.complain _) fun _ => .bind (.complain _) fun _ => ?_
    refine .bind (.perform (c := .variable _) trivial) fun reply => ?_
    cases reply <;> exact .done _
  | file p =>
    refine .bind (.perform (c := .exist p) trivial) fun found => ?_
    cases found with
    | false => exact .done _
    | true =>
      refine .bind (.bind (.perform (c := .read p) trivial) fun reply => ?_) fun text => ?_
      · cases reply with
        | error e => exact .done _
        | ok content =>
          dsimp only
          split <;> exact .done _
      · cases text <;> exact .done _

theorem quiet_read {source : PasswordSource} (h : source.isInteractive = false)
    (question : String) : (source.read question).Quiet := by
  refine .bind (quiet_fetch h question) fun fetched => ?_
  cases fetched with
  | error e => exact .done _
  | ok password =>
    dsimp only
    split <;> exact .done _

end PasswordSource

namespace UnlockSession

theorem quiet_forward (e : Emission) (he : e.Quiet) (c : PromptChannel) :
    (forward e c).Quiet := by
  cases e with
  | standardOutput => exact absurd he id
  | passwordRequested => exact .bind (.logAll _) fun _ => .done _
  | event | standardError => exact .bind (.perform (c := .emit _) trivial) fun _ => .done _

theorem quiet_load (s : UnlockSession) : s.load.Quiet := by
  refine .bind (s.vault.quiet_load.withEmissions quiet_forward s.requests) fun loaded => ?_
  obtain ⟨⟨outcome, v⟩, requests⟩ := loaded
  rcases outcome with e | state
  · exact .done _
  · cases state <;> exact .done _

/-- The steps of the driver are quiet. -/
theorem quiet_next {s : UnlockSession} {p : Program UnlockSession} (h : s.next? = some p) :
    p.Quiet := by
  unfold next? at h
  split at h
  · cases h
    exact s.quiet_load
  · split at h <;> cases h <;> exact .done _
  · cases h
    exact .bind (.bind (.logAll _) fun _ => .done _) fun _ => .done _
  · cases h
    exact .done _
  · cases h
    exact .bind (.logAll _) fun _ => .done _
  · cases h
    exact .done _
  · cases h
    exact .bind (.logAll _) fun _ => .done _
  · cases h

theorem quiet_advance (s : UnlockSession) : s.advance.Quiet := by
  unfold advance
  cases hnext : s.next? with
  | none => exact .done s
  | some p => exact quiet_next hnext

theorem quiet_proceed (n : Nat) (s : UnlockSession) : (s.proceed n).Quiet := by
  induction n generalizing s with
  | zero => exact .done s
  | succ n ih => exact .bind s.quiet_advance fun s => ih s

theorem quiet_leave (s : UnlockSession) : s.leave.Quiet :=
  .bind (.log _) fun _ => s.dropSender.quiet_advance

theorem quiet_converse {source : PasswordSource} (h : source.isInteractive = false)
    (attempts : Nat) (s : UnlockSession) : (s.converse source attempts).Quiet := by
  induction attempts generalizing s with
  | zero => exact s.quiet_leave
  | succ attempts ih =>
    unfold converse
    split
    case h_1 request requests _ =>
      have hfailed (s : UnlockSession) (e : LogEvent) :
          ((Program.log e).bind fun _ => s.leave).Quiet := .bind (.log e) fun _ => s.quiet_leave
      have hgiven (s : UnlockSession) :
          ((s.proceed stepsToTry).bind (converse source attempts)).Quiet :=
        .bind (quiet_proceed _ _) fun s => ih s
      dsimp only
      split
      · exact quiet_leave _
      · split
        · refine .bind (.complain _) fun _ => .bind (PasswordSource.quiet_read h _) fun reply => ?_
          cases reply with
          | error e => exact hfailed _ _
          | ok password => exact hgiven _
        · refine .bind (PasswordSource.quiet_read h _) fun reply => ?_
          cases reply with
          | error e => exact hfailed _ _
          | ok password => exact hgiven _
    case h_2 => exact s.quiet_leave

end UnlockSession

/-- Unlocking without a terminal changes nothing and prints nothing. -/
theorem Vault.quiet_unlockFrom {source : PasswordSource} (h : source.isInteractive = false)
    (v : Vault) : (v.unlockFrom source).Quiet :=
  .bind (UnlockSession.quiet_proceed _ _) fun s =>
    .bind (UnlockSession.quiet_converse h _ s) fun _ => .done _

namespace UnlockSession

variable {v v' : Vault} {w : World}

/-- The first request of a flow. -/
def asking (v : Vault) : UnlockSession :=
  { vault := v, phase := .waiting, requests := { issued := 1, pending := [⟨1⟩] } }

/-- The session after the steps of loading, for each end of the load. -/
def loaded : Except StoreError StoreState × Vault → UnlockSession
  | (.error e, v) => { vault := v : UnlockSession }.finish (.error (.store e))
  | (.ok .ready, v) =>
      { vault := v, reports := { results := [.ready] } : UnlockSession }.finish (.ok ())
  | (.ok _, v) => asking v

theorem run_proceed_load (v : Vault) (w : World) :
    ((proceed stepsToLoad { vault := v }).run w).1 = loaded (v.load.run w).1 := by
  obtain ⟨asked, hend, hforwarded⟩ := run_load_forwarded v {} w
  have hload : (({ vault := v } : UnlockSession).advance.run w).1 = match (v.load.run w).1 with
      | (.error e, v) => { vault := v : UnlockSession }.finish (.error (.store e))
      | (.ok .ready, v) => { vault := v, phase := .tried (.ok .ready) }
      | (.ok _, v) => asking v := by
    change (UnlockSession.load { vault := v } |>.run w).1 = _
    simp only [load, Program.bind_eq, Program.run_bind, hforwarded]
    generalize (v.load.run w).1 = end_ at hend
    obtain ⟨outcome, v'⟩ := end_
    cases hend with
    | failed | plain | sealed => rfl
  simp only [stepsToLoad, proceed, Program.bind_eq, Program.run_bind, hload]
  generalize (v.load.run w).1 = end_ at hend
  obtain ⟨outcome, v'⟩ := end_
  cases hend with
  | failed => rfl
  | plain => rfl
  | sealed => rfl

/-- The session after the only password was tried, for each outcome of the attempt. -/
def answered (v : Vault) : Except StoreError AttemptResult → UnlockSession
  | .error e =>
      { vault := v, requests := { issued := 1 } : UnlockSession }.finish (.error (.store e))
  | .ok .ready =>
      { vault := v, requests := { issued := 1 },
        reports := { results := [.ready] } : UnlockSession }.finish (.ok ())
  | .ok .decryptionFailure =>
      { vault := v, phase := .waiting, requests := { issued := 2, pending := [⟨2⟩] },
        reports := { results := [.decryptionFailure] } }

theorem run_proceed_try (v : Vault) (password : String) (w : World) :
    (((({ asking v with requests := { issued := 1 } } : UnlockSession).submit
      password).proceed stepsToTry).run w).1 =
        answered (v.supply password).vault (v.supply password).outcome := by
  let trying : UnlockSession :=
    { vault := v, phase := .trying password, requests := { issued := 1 } }
  have htaken : (({ asking v with requests := { issued := 1 } } : UnlockSession).submit
      password).advance = .done trying := rfl
  have hadvance : trying.advance = trying.attempt password := rfl
  have htry (w : World) : ((trying.attempt password).run w).1 =
      { trying with vault := (v.supply password).vault,
                    phase := .tried (v.supply password).outcome } := by
    simp only [attempt, Program.bind_eq, Program.run_bind]
    exact congrArg (fun a : Except StoreError AttemptResult × Vault =>
      ({ trying with vault := a.2, phase := .tried a.1 } : UnlockSession))
        (v.run_attempt password w).1
  simp only [stepsToTry, proceed, Program.bind_eq, Program.run_bind, htaken, Program.run_done,
    hadvance, htry]
  rcases (v.supply password).outcome with e | result
  · rfl
  · cases result <;> rfl

variable {source : PasswordSource}

/-- Without a request the host leaves at once, and a driver that has finished does not mind. -/
theorem run_converse_finished (source : PasswordSource) {s : UnlockSession}
    {result : Except UnlockError Unit} (hphase : s.phase = .finished result)
    (hpending : s.requests.pending = []) (attempts : Nat) (w : World) :
    (s.converse source attempts).run w = (s.dropSender, { w with
      emitted := w.emitted ++ [.event ⟨.debug, .unlocking, "Password host finished", []⟩] }) := by
  have hadvance : s.dropSender.advance = .done s.dropSender := by
    simp only [advance, next?, dropSender, hphase]
    rfl
  have hleave : s.leave.run w = (s.dropSender, { w with
      emitted := w.emitted ++ [.event ⟨.debug, .unlocking, "Password host finished", []⟩] }) := by
    simp only [leave, Program.bind_eq, Program.run_bind, hadvance]
    rfl
  cases attempts with
  | zero => rw [converse, hleave]
  | succ attempts =>
    unfold converse
    simp only [PromptChannel.receive, hpending]
    split
    case h_1 hreceived =>
      split at hreceived <;> cases hreceived
    case h_2 => rw [hleave]

theorem conclude_converse_finished (source : PasswordSource) {s : UnlockSession}
    {result : Except UnlockError Unit} (hphase : s.phase = .finished result)
    (hpending : s.requests.pending = []) (attempts : Nat) (w : World) :
    ((s.converse source attempts).run w).1.conclude = s.conclude := by
  rw [run_converse_finished source hphase hpending]
  simp only [conclude, result?, dropSender, hphase]

/-- A second request goes unanswered. -/
theorem conclude_converse_refused (hsource : source.isInteractive = false) (v : Vault)
    (attempts : Nat) (w : World) :
    (((answered v (.ok .decryptionFailure)).converse source (attempts + 1)).run w).1.conclude =
      .error (.incorrectPassword 1) := by
  have hretry : (⟨2⟩ : PasswordRequest).isRetry = true := by decide
  simp only [converse, answered, PromptChannel.receive, hretry, hsource, Bool.not_false,
    Bool.and_self, if_true]
  rfl

/-- What becomes of a vault that awaits a password and is given this one, if any. -/
def resolved (v : Vault) : Except PasswordError String → Except UnlockingError Vault
  | .error _ => .error .noPassword
  | .ok password =>
      match (v.supply password).outcome with
      | .error e => .error (.store e)
      | .ok .ready => .ok (v.supply password).vault
      | .ok .decryptionFailure => .error (.incorrectPassword 1)

theorem conclude_converse_asking (hsource : source.isInteractive = false) (v : Vault)
    (attempts : Nat) (w : World) :
    (((asking v).converse source (attempts + 2)).run w).1.conclude =
      resolved v ((source.read "Identity password: ").run w).1 := by
  have hfirst : (⟨1⟩ : PasswordRequest).isRetry = false := by decide
  simp only [converse, asking, PromptChannel.receive, hfirst, Bool.false_and, Bool.false_eq_true,
    if_false, Program.bind_eq, Program.run_bind]
  cases (source.read "Identity password: ").run w with
  | mk reply w' =>
    cases reply with
    | error e => rfl
    | ok password =>
      simp only [Program.run_bind]
      have htry := run_proceed_try v password w'
      simp only [asking] at htry
      rw [htry, resolved]
      cases (v.supply password).outcome with
      | error e =>
        exact conclude_converse_finished source (s := answered _ (.error e)) rfl rfl
          (attempts + 1) _
      | ok result =>
        cases result with
        | ready =>
          exact conclude_converse_finished source (s := answered _ (.ok .ready)) rfl rfl
            (attempts + 1) _
        | decryptionFailure => exact conclude_converse_refused hsource _ attempts _

end UnlockSession

/-- What a load and at most one attempt come to. -/
def Vault.unlockedBy (loaded : Except StoreError StoreState × Vault)
    (password : Except PasswordError String) : Except UnlockingError Vault :=
  match loaded with
  | (.error e, _) => .error (.store e)
  | (.ok .ready, v) => .ok v
  | (.ok _, v) => UnlockSession.resolved v password

open UnlockSession in
/-- The flow of a command comes to what a load and one attempt come to. The password is read when
it is asked for. -/
theorem Vault.run_unlockFrom {source : PasswordSource} (hsource : source.isInteractive = false)
    (v : Vault) (w : World) : ((v.unlockFrom source).run w).1 =
      unlockedBy (v.load.run w).1 ((source.read "Identity password: ").run w).1 := by
  have hkept := (quiet_proceed stepsToLoad { vault := v }).kept w
  have hread := (PasswordSource.quiet_read hsource "Identity password: ").run_congr hkept
  have hlimit : attemptLimit = 4294967294 + 2 := rfl
  simp only [unlockFrom, Program.bind_eq, Program.run_bind, Program.pure_eq, Program.run_done,
    run_proceed_load, ← hread, hlimit]
  obtain ⟨outcome, v'⟩ := (v.load.run w).1
  cases outcome with
  | error e => exact conclude_converse_finished source (s := loaded (.error e, v')) rfl rfl _ _
  | ok state =>
    cases state with
    | ready => exact conclude_converse_finished source (s := loaded (.ok .ready, v')) rfl rfl _ _
    | unloaded => exact conclude_converse_asking hsource v' _ _
    | awaitingPassword => exact conclude_converse_asking hsource v' _ _

end IdentityVault
