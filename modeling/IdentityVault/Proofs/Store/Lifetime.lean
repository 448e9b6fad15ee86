import IdentityVault.Proofs.Program.History
import IdentityVault.Proofs.Store.Outcomes
import Mathlib.Data.List.Count

/-! A vault over its whole life: loads and attempts in any order, on a disk that anyone may change
at any time. A step that fails or a wrong password leaves no trace, so that it does not matter what
was tried before. -/
namespace IdentityVault

/-- What was called, and what the call returned. -/
inductive VaultDeed where
  | load (outcome : Except StoreError StoreState)
  | attempt (password : String) (outcome : Except StoreError AttemptResult)
  deriving DecidableEq

namespace Vault

/-- One call on a vault. A load may find another disk at each of its own calls. -/
inductive Turn : Vault × World → VaultDeed → Vault × World → Prop where
  | load (v : Vault) (w : World) (disks : Nat → FileSystem) :
      Turn (v, w) (.load (v.load.runAmid disks 0 w).1.1)
        ((v.load.runAmid disks 0 w).1.2, (v.load.runAmid disks 0 w).2)
  | attempt (v : Vault) (w : World) (disk : FileSystem) (password : String) :
      Turn (v, w) (.attempt password ((v.attempt password).run { w with disk := disk }).1.1)
        (((v.attempt password).run { w with disk := disk }).1.2,
          ((v.attempt password).run { w with disk := disk }).2)

/-- The lives of a vault that is about to be loaded. -/
abbrev Run (l : StorageLayout) (w : World) : List VaultDeed → Vault × World → Prop :=
  History Turn (l.freshVault, w)

variable {s s' : Vault × World} {d : VaultDeed} {past later : List VaultDeed} {l : StorageLayout}
  {w : World} {password : String}

theorem Turn.loadEnd {outcome : Except StoreError StoreState} (h : Turn s (.load outcome) s') :
    ∃ disks asked, LoadEnd s.1 disks outcome s'.1 asked ∧
      s'.2.passwordRequests = s.2.passwordRequests + asked := by
  generalize hd : VaultDeed.load outcome = d at h
  cases h with
  | load v w disks =>
    cases hd
    exact ⟨disks, v.loadEnd disks w⟩
  | attempt => cases hd

theorem Turn.attemptEnd {outcome : Except StoreError AttemptResult}
    (h : Turn s (.attempt password outcome) s') :
    AttemptEnd s.1 password outcome s'.1 ∧ outcome = (s.1.supply password).outcome ∧
      s'.2.passwordRequests = s.2.passwordRequests := by
  generalize hd : VaultDeed.attempt password outcome = d at h
  cases h with
  | load => cases hd
  | attempt v w disk password =>
    cases hd
    obtain ⟨hreply, hrequests⟩ := v.run_attempt password { w with disk := disk }
    rw [hreply]
    exact ⟨v.attemptEnd password, rfl, hrequests⟩

/-- A vault is loaded once. -/
theorem Turn.eq_of_load {outcome : Except StoreError StoreState} (h : Turn s (.load outcome) s')
    (hloaded : s.1.state ≠ .unloaded) : s'.1 = s.1 := by
  obtain ⟨disks, asked, hend, -⟩ := h.loadEnd
  generalize s'.1 = v' at hend
  cases hend with
  | failed => rfl
  | plain hfresh | sealed hfresh => exact absurd hfresh hloaded

/-- A failed load asks for no password and leaves the vault as it was. -/
theorem Turn.of_load_error {e : StoreError} (h : Turn s (.load (.error e)) s') :
    s'.1 = s.1 ∧ s'.2.passwordRequests = s.2.passwordRequests := by
  obtain ⟨disks, asked, hend, hrequests⟩ := h.loadEnd
  generalize s'.1 = v' at hend
  cases hend
  exact ⟨rfl, hrequests⟩

/-- An attempt that does not unlock the vault leaves it as it was. -/
theorem Turn.eq_of_attempt {outcome : Except StoreError AttemptResult}
    (h : Turn s (.attempt password outcome) s') (hlocked : outcome ≠ .ok .ready) : s'.1 = s.1 :=
  h.attemptEnd.1.eq_of_locked hlocked

theorem Turn.passwordRequests_eq (h : Turn s d s') :
    s'.2.passwordRequests =
      s.2.passwordRequests + [d].count (.load (.ok .awaitingPassword)) := by
  cases d with
  | load outcome =>
    obtain ⟨disks, asked, hend, hrequests⟩ := h.loadEnd
    generalize s'.1 = v' at hend
    cases hend with
    | failed | plain | sealed => exact hrequests
  | attempt password outcome => exact h.attemptEnd.2.2

theorem Run.passwordRequests_eq (h : Run l w past s) :
    s.2.passwordRequests = w.passwordRequests + past.count (.load (.ok .awaitingPassword)) := by
  induction h with
  | start => rfl
  | @next past s s' d _ hturn ih =>
    have hcount := @List.count_append _ _ (.load (.ok .awaitingPassword)) [d] past
    rw [List.singleton_append] at hcount
    rw [hturn.passwordRequests_eq, ih, hcount]
    omega

/-- A vault that awaits a password stays as it is until an attempt unlocks it. -/
theorem eq_later_of_locked (h : History Turn s later s') (hasked : s.1.state = .awaitingPassword)
    (hlocked : ∀ password, .attempt password (.ok .ready) ∉ later) : s'.1 = s.1 := by
  induction h with
  | start => rfl
  | @next later s' s'' d _ hturn ih =>
    have hsame := ih fun password hmem => hlocked password (List.mem_cons_of_mem d hmem)
    rw [← hsame] at hasked ⊢
    cases d with
    | load outcome => exact hturn.eq_of_load (by simp [hasked])
    | attempt password outcome =>
      refine hturn.eq_of_attempt fun hready => hlocked password ?_
      rw [hready]
      exact List.mem_cons_self

/-- Failures leave no trace, and each attempt counts as if it were the first. -/
structure Steadfast (w : World) (past : List VaultDeed) (s : Vault × World) : Prop where
  load_failed (e : StoreError) (s' : Vault × World) (h : Turn s (.load (.error e)) s') :
    s'.1 = s.1 ∧ s'.2.passwordRequests = s.2.passwordRequests
  attempt_failed (password : String) (e : StoreError) (s' : Vault × World)
    (h : Turn s (.attempt password (.error e)) s') : s'.1 = s.1
  refused (password : String) (s' : Vault × World)
    (h : Turn s (.attempt password (.ok .decryptionFailure)) s') : s'.1 = s.1
  requests :
    s.2.passwordRequests = w.passwordRequests + past.count (.load (.ok .awaitingPassword))
  retry (later : List VaultDeed) (s' : Vault × World) (h : History Turn s later s')
    (hasked : s.1.state = .awaitingPassword)
    (hlocked : ∀ password, .attempt password (.ok .ready) ∉ later) (password : String)
    (outcome : Except StoreError AttemptResult) (s'' : Vault × World)
    (hturn : Turn s' (.attempt password outcome) s'') :
    outcome = (s.1.supply password).outcome

theorem Run.steadfast (h : Run l w past s) : Steadfast w past s where
  load_failed _ _ hturn := hturn.of_load_error
  attempt_failed _ _ _ hturn := hturn.eq_of_attempt (by simp)
  refused _ _ hturn := hturn.eq_of_attempt (by simp)
  requests := h.passwordRequests_eq
  retry _ _ hlater hasked hlocked _ _ _ hturn := by
    rw [hturn.attemptEnd.2.1, eq_later_of_locked hlater hasked hlocked]

set_option maxRecDepth 4000 in
/-- A missing identity, then a sealed one without a salt, and one attempt on it. -/
theorem steadfast_of_missing_identity : ∃ s : Vault × World, Steadfast { disk := .empty }
    [.attempt "guess" (.error (.missingSalt "/d/storage/salt")), .load (.ok .awaitingPassword),
      .load (.error (.missingIdentity "/d/storage/identity/identity_key"))] s :=
  ⟨_, Run.steadfast (l := ⟨"/d"⟩)
    (.next (.next (.next .start (.load _ _ fun _ => .empty))
      (.load _ _ fun _ => saltlessStore (List.replicate 128 7))) (.attempt _ _ .empty "guess"))⟩

end Vault

end IdentityVault
