import IdentityVault.Proofs.Unlock.Course
import IdentityVault.Proofs.Unlock.Sequential

/-! The complete trace of an unlock flow. What the disk holds and what the passwords do settle the
result, the passwords that are tried, the results that are reported and the requests, whenever the
host acts and whether or not anybody listens. -/
namespace IdentityVault

namespace Vault

variable {v : Vault} {w : World} {passwords before after : List String} {password : String}
  {payload identity : Bytes} {salt : Option Bytes} {e : StoreError}

theorem vault_supply_of_locked (h : (v.supply password).outcome ≠ .ok .ready) :
    (v.supply password).vault = v :=
  (v.attemptEnd password).eq_of_locked h

/-- Wrong passwords are tried, reported and followed by a request, and nothing else. -/
theorem trials_append (rest : List String)
    (wrong : ∀ p ∈ before, (v.supply p).outcome = .ok .decryptionFailure) :
    v.trials (before ++ rest) = (v.trials rest).after
      { tried := before, reported := List.replicate before.length .decryptionFailure,
        asked := before.length } := by
  induction before with
  | nil => exact (UnlockCourse.after_start _).symm
  | cons p before ih =>
    have hp := wrong p List.mem_cons_self
    have hsame : (v.supply p).vault = v := vault_supply_of_locked (by simp [hp])
    rw [List.cons_append, trials, hp, hsame, ih fun q hq => wrong q (List.mem_cons_of_mem p hq)]
    simp [UnlockCourse.judged, UnlockCourse.after, List.replicate_succ, Nat.add_right_comm]

theorem unlocking_of_error (h : (v.load.run w).1.1 = .error e) :
    v.unlocking w passwords = { result := .error (.store e), vault := v } := by
  obtain ⟨asked, hend, -⟩ := v.run_loadEnd w
  unfold unlocking
  generalize (v.load.run w).1 = loaded at h hend ⊢
  obtain ⟨reply, v'⟩ := loaded
  cases h
  cases hend
  rfl

theorem unlocking_of_loaded (loaded : v.state ≠ .unloaded) :
    v.unlocking w passwords =
      { result := .error (.store (.invalidState v.state)), vault := v } := by
  apply unlocking_of_error
  obtain ⟨l, contents⟩ := v
  cases contents with
  | unloaded => exact absurd rfl loaded
  | awaitingPassword | ready => rfl

theorem unlocking_plain (fresh : v.state = .unloaded)
    (read : w.disk.contentAt v.layout.identityKey = .ok identity)
    (length : identity.length = Bundle.plainLength) :
    v.unlocking w passwords =
      { result := .ok (), vault := { v with contents := .ready identity none },
        reported := [.ready] } := by
  obtain ⟨l, contents⟩ := v
  cases contents with
  | awaitingPassword | ready => cases fresh
  | unloaded =>
    have hload : ((load ⟨l, .unloaded⟩).run w).1 = (.ok .ready, ⟨l, .ready identity none⟩) := by
      rw [(readsOnly_load _).run_eq_runAmid w 0]
      exact runAmid_load_plain (fun _ => w.disk) read length w
    rw [unlocking, hload]

theorem unlocking_sealed (h : v.FindsSealed w.disk payload salt) :
    v.unlocking w passwords =
      (trials { v with contents := .awaitingPassword payload salt } passwords).after
        { asked := 1 } := by
  obtain ⟨asked, hend, -⟩ := v.run_loadEnd w
  obtain ⟨hreply, hvault⟩ := hend.of_findsSealed h
  have hload : (v.load.run w).1 =
      (.ok .awaitingPassword, { v with contents := .awaitingPassword payload salt }) :=
    Prod.ext hreply hvault
  rw [unlocking, hload, UnlockCourse.after, Nat.add_comm]
  rfl

/-- The attempts on a sealed identity, of which the last one is not just wrong. -/
theorem trials_ending {rest : List String}
    (wrong : ∀ p ∈ before, (v.supply p).outcome = .ok .decryptionFailure) :
    v.trials (before ++ password :: rest) =
      (UnlockCourse.judged (v.supply password).vault ((v.supply password).vault.trials rest)
        (v.supply password).outcome).after
        { tried := before ++ [password]
          reported := List.replicate before.length .decryptionFailure
          asked := before.length } := by
  rw [trials_append _ wrong, trials]
  simp only [UnlockCourse.after, List.append_assoc, List.singleton_append]

/-- An attempt that unlocks a vault has opened what was sealed. -/
theorem opened_of_ready {locked : Vault}
    (hlocked : locked.contents = .awaitingPassword payload salt)
    (h : (locked.supply password).outcome = .ok .ready) :
    ∃ identity, Payload.opened (.ofPassword password (salt.getD [])) payload = .ok identity ∧
      identity.length = Bundle.plainLength ∧
      (locked.supply password).vault = { locked with contents := .ready identity salt } := by
  have hend := locked.attemptEnd password
  rw [h] at hend
  generalize (locked.supply password).vault = v' at hend ⊢
  cases hend with
  | @unlocked _ salt' text awaits present opened length =>
    cases hlocked.symm.trans awaits
    exact ⟨text, opened, length, rfl⟩

end Vault

/-- What comes of a sealed identity that was loaded, by what the passwords do to it. -/
structure SealedTrace (l : StorageLayout) (payload : Bytes) (salt : Option Bytes)
    (passwords : List String) (c : UnlockCourse) : Prop where
  opened (before rest : List String) (password : String)
    (split : passwords = before ++ password :: rest)
    (wrong : ∀ p ∈ before,
      (Vault.supply ⟨l, .awaitingPassword payload salt⟩ p).outcome = .ok .decryptionFailure)
    (right : (Vault.supply ⟨l, .awaitingPassword payload salt⟩ password).outcome = .ok .ready) :
    ∃ identity, Payload.opened (.ofPassword password (salt.getD [])) payload = .ok identity ∧
      identity.length = Bundle.plainLength ∧
      c = { result := .ok (), vault := ⟨l, .ready identity salt⟩, tried := before ++ [password],
            reported := List.replicate before.length .decryptionFailure ++ [.ready],
            requests := before.length + 1 }
  broken (before rest : List String) (password : String) (e : StoreError)
    (split : passwords = before ++ password :: rest)
    (wrong : ∀ p ∈ before,
      (Vault.supply ⟨l, .awaitingPassword payload salt⟩ p).outcome = .ok .decryptionFailure)
    (failed : (Vault.supply ⟨l, .awaitingPassword payload salt⟩ password).outcome = .error e) :
    c = { result := .error (.store e), vault := ⟨l, .awaitingPassword payload salt⟩,
          tried := before ++ [password],
          reported := List.replicate before.length .decryptionFailure,
          requests := before.length + 1 }
  exhausted (wrong : ∀ p ∈ passwords,
      (Vault.supply ⟨l, .awaitingPassword payload salt⟩ p).outcome = .ok .decryptionFailure) :
    c = { result := .error .promptClosed, vault := ⟨l, .awaitingPassword payload salt⟩,
          tried := passwords, reported := List.replicate passwords.length .decryptionFailure,
          requests := passwords.length + 1 }

/-- What an unlock flow comes to, by what the disk holds. -/
structure UnlockTrace (v : Vault) (passwords : List String) (w : World) (c : UnlockCourse) :
    Prop where
  loaded (h : v.state ≠ .unloaded) :
    c = { result := .error (.store (.invalidState v.state)), vault := v }
  failed (e : StoreError) (h : (v.load.run w).1.1 = .error e) :
    c = { result := .error (.store e), vault := v }
  plain (identity : Bytes) (fresh : v.state = .unloaded)
    (read : w.disk.contentAt v.layout.identityKey = .ok identity)
    (length : identity.length = Bundle.plainLength) :
    c = { result := .ok (), vault := ⟨v.layout, .ready identity none⟩, reported := [.ready] }
  sealed (payload : Bytes) (salt : Option Bytes) (h : v.FindsSealed w.disk payload salt) :
    SealedTrace v.layout payload salt passwords c

variable {v : Vault} {passwords : List String} {w : World}

theorem sealedTrace_unlocking {payload : Bytes} {salt : Option Bytes}
    (h : v.FindsSealed w.disk payload salt) :
    SealedTrace v.layout payload salt passwords (v.unlocking w passwords) where
  opened before rest password split wrong right := by
    obtain ⟨identity, hopened, hlength, hvault⟩ := Vault.opened_of_ready rfl right
    refine ⟨identity, hopened, hlength, ?_⟩
    rw [Vault.unlocking_sealed h, split, Vault.trials_ending wrong, right, hvault]
    simp [UnlockCourse.after, UnlockCourse.judged, Nat.add_comm]
  broken before rest password e split wrong failed := by
    have hsame : (Vault.supply ⟨v.layout, .awaitingPassword payload salt⟩ password).vault =
        ⟨v.layout, .awaitingPassword payload salt⟩ :=
      Vault.vault_supply_of_locked (by simp [failed])
    rw [Vault.unlocking_sealed h, split, Vault.trials_ending wrong, hsame, failed]
    simp [UnlockCourse.after, UnlockCourse.judged, Nat.add_comm]
  exhausted wrong := by
    have htrials := Vault.trials_append [] wrong
    rw [List.append_nil] at htrials
    rw [Vault.unlocking_sealed h, htrials]
    simp [UnlockCourse.after, Vault.trials, Nat.add_comm]

theorem unlockTrace_unlocking : UnlockTrace v passwords w (v.unlocking w passwords) where
  loaded h := Vault.unlocking_of_loaded h
  failed _ h := Vault.unlocking_of_error h
  plain _ fresh read length := Vault.unlocking_plain fresh read length
  sealed _ _ h := sealedTrace_unlocking h

namespace Meeting

variable {m : Meeting} {past : List UnlockDeed}

/-- The meeting has ended in this way. What the listeners have missed they have missed because
they are gone. -/
structure EndedAs (c : UnlockCourse) (past : List UnlockDeed) (m : Meeting) : Prop where
  result : m.session.result? = some c.result
  vault : m.session.vault = c.vault
  taken : (UnlockMinutes.ofHistory past).taken = c.tried
  tried : (UnlockMinutes.ofHistory past).tried = c.tried
  reported : (UnlockMinutes.ofHistory past).reported = c.reported
  watched (listening : m.session.reports.listening = true) :
    m.session.reports.results = c.reported
  asked : (UnlockMinutes.ofHistory past).asked = c.requests
  heard (listening : m.session.requests.listening = true) (few : c.requests < UInt32.size) :
    ((UnlockMinutes.ofHistory past).heard ++ m.session.requests.pending).map (·.attempt.toNat) =
      List.range' 1 c.requests

theorem prospect_of_finished {result : Except UnlockError Unit}
    (phase : m.session.phase = .finished result) :
    m.prospect = { result := result, vault := m.session.vault } := by
  simp only [prospect, UnlockSession.prospect, phase]

theorem Run.endedAs (h : Run v passwords w past m) (finished : m.session.result?.isSome) :
    EndedAs (v.unlocking w passwords) past m := by
  obtain ⟨result, phase⟩ := UnlockSession.phase_of_isSome_result? finished
  have hdelivered := h.delivered
  rw [← h.course, prospect_of_finished phase]
  have htried := List.append_nil (UnlockMinutes.ofHistory past).tried
  have hreported := List.append_nil (UnlockMinutes.ofHistory past).reported
  refine ⟨?_, rfl, ?_, htried.symm, hreported.symm, fun listening => ?_, rfl,
    fun listening few => ?_⟩
  · simp only [UnlockSession.result?, phase]
    rfl
  · rw [UnlockCourse.after, htried]
    cases h.keepsAccounts.balanced with
    | underway running => simp [running] at finished
    | ended _ _ _ taken => exact taken
  · rw [UnlockCourse.after, hreported]
    exact hdelivered.results listening
  · rw [hdelivered.requests listening]
    exact PasswordRequest.map_attempt_upTo few

/-- Every run of the flow has the same complete trace and no run goes on for ever. The program that
submits one password after another is such a run, also when the listeners are gone before. -/
structure Traced (v : Vault) (passwords : List String) (w : World) (c : UnlockCourse) : Prop where
  trace : UnlockTrace v passwords w c
  ends {past : List UnlockDeed} {m : Meeting} (h : Run v passwords w past m)
    (finished : m.session.result?.isSome) : EndedAs c past m
  bounded {past : List UnlockDeed} {m : Meeting} (h : Run v passwords w past m) :
    past.length ≤ 6 * passwords.length + 9
  completes {past : List UnlockDeed} {m : Meeting} (h : Run v passwords w past m) :
    ∃ later m', History Step m later m' ∧ m'.session.result?.isSome
  unlock {past : List UnlockDeed} {m : Meeting} (h : Run v passwords w past m)
    (fresh : m.session.phase = .loading) (empty : m.session.submissions.slot = none) :
    ∃ later m', History Step m later m' ∧ EndedAs c (later ++ past) m' ∧
      m'.session = ((m.session.unlock m.unsent).run m.world).1

theorem traced (v : Vault) (passwords : List String) (w : World) :
    Traced v passwords w (v.unlocking w passwords) where
  trace := unlockTrace_unlocking
  ends h finished := h.endedAs finished
  bounded h := h.length_le
  completes _ := exists_completion _
  unlock h fresh empty := by
    obtain ⟨later, m', hlater, hfinished, hsame⟩ :=
      follows_unlock (UnlockSession.depth_of_loading fresh empty)
    exact ⟨later, m', hlater, Run.endedAs (h.trans hlater) hfinished, congrArg Prod.fst hsame⟩

set_option maxRecDepth 4000 in
/-- Without a salt the first password ends the flow, and the second one is not tried. -/
theorem traced_saltlessStore : Traced ⟨⟨"/d"⟩, .unloaded⟩ ["guess", "again"]
    { disk := Vault.saltlessStore (List.replicate 128 7) }
    { result := .error (.store (.missingSalt "/d/storage/salt")),
      vault := ⟨⟨"/d"⟩, .awaitingPassword (List.replicate 128 7) none⟩, tried := ["guess"],
      requests := 1 } :=
  traced _ _ _

end Meeting

end IdentityVault
