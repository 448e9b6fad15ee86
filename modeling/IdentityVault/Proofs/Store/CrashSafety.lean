import IdentityVault.Proofs.Store.SealThenUnlock
import Mathlib.Order.Monotone.Basic

/-! Calls that seal the identity one after another, each cut off anywhere, and a vault that is
loaded meanwhile. Course: what the disk shows at every moment, with the one change of protection. -/
namespace IdentityVault

open Program Protection

/-- A moment of a call, with the password of the call. -/
abbrev Labelled := String × Moment

/-- Calls one after another on one disk. A call may be cut off, and the next one finds the disk as
it was left; the rest of its surroundings may be any. -/
inductive StorageLayout.SealHistory (l : StorageLayout) : FileSystem → List Labelled → Prop where
  | nil (fs : FileSystem) : SealHistory l fs []
  | cons (password : String) {w w' : World} {moments : List Moment} {history : List Labelled}
      (call : CutOff (l.sealIdentity password) w moments w')
      (rest : SealHistory l w'.disk history) :
      SealHistory l w.disk (moments.map (password, ·) ++ history)

/-- The passwords of the calls whose sealed identity was moved into its place. -/
def StorageLayout.sealers (l : StorageLayout) (history : List Labelled) : List String :=
  (history.filter fun m => m.2.effect = some l.sealing).map Prod.fst

theorem StorageLayout.sealers_cons_of_ne {l : StorageLayout} {m : Labelled}
    (h : m.2.effect ≠ some l.sealing) (history : List Labelled) :
    l.sealers (m :: history) = l.sealers history := by
  rw [sealers, List.filter_cons_of_neg (by simpa using h), sealers]

theorem StorageLayout.sealers_cons_of_eq {l : StorageLayout} {m : Labelled}
    (h : m.2.effect = some l.sealing) (history : List Labelled) :
    l.sealers (m :: history) = m.1 :: l.sealers history := by
  rw [sealers, List.filter_cons_of_pos (by simpa using h), List.map_cons, sealers]

/-- The disk after so many moments. It stays as the last moment left it. -/
def diskAfter (fs : FileSystem) : List Labelled → Nat → FileSystem
  | _, 0 => fs
  | [], _ => fs
  | m :: history, n + 1 => diskAfter m.2.disk history n

@[simp] theorem diskAfter_zero (fs : FileSystem) (history : List Labelled) :
    diskAfter fs history 0 = fs := by
  cases history <;> rfl

@[simp] theorem diskAfter_nil (fs : FileSystem) (n : Nat) : diskAfter fs [] n = fs := by
  cases n <;> rfl

/-- The protection stays as it is, but for the moment at which a call seals the identity. -/
inductive Course (l : StorageLayout) (storage : List String) (identity : Bytes) :
    Protection → List Labelled → Protection → Prop where
  | nil (c : Protection) : Course l storage identity c [] c
  | stay {c c' : Protection} {m : Labelled} {history : List Labelled}
      (effect : m.2.effect ≠ some l.sealing) (shown : c.Shown l storage identity m.2.disk)
      (rest : Course l storage identity c history c') :
      Course l storage identity c (m :: history) c'
  | change {d : SealDraft} {c' : Protection} {m : Labelled} {history : List Labelled}
      (effect : m.2.effect = some l.sealing)
      (shown : (Protection.sealed m.1 d).Shown l storage identity m.2.disk)
      (rest : Course l storage identity (.sealed m.1 d) history c') :
      Course l storage identity .plain (m :: history) c'

namespace Course

variable {l : StorageLayout} {storage : List String} {identity : Bytes} {password : String}
  {c c' c'' : Protection} {fs : FileSystem} {history : List Labelled} {d : SealDraft}

theorem append {more : List Labelled} (h : Course l storage identity c history c')
    (hmore : Course l storage identity c' more c'') :
    Course l storage identity c (history ++ more) c'' := by
  induction h with
  | nil c => exact hmore
  | stay heffect hshown rest ih => exact .stay heffect hshown (ih hmore)
  | change heffect hshown rest ih => exact .change heffect hshown (ih hmore)

/-- A sealed identity stays as it is. -/
theorem eq_of_ne_plain (h : Course l storage identity c history c') (hc : c ≠ .plain) :
    c' = c ∧ l.sealers history = [] := by
  induction h with
  | nil c => exact ⟨rfl, rfl⟩
  | stay heffect hshown rest ih =>
    obtain ⟨hend, hnone⟩ := ih hc
    refine ⟨hend, ?_⟩
    rw [StorageLayout.sealers_cons_of_ne heffect]
    exact hnone
  | change => exact absurd rfl hc

theorem shown_of_ne_plain (h : Course l storage identity c history c') (hc : c ≠ .plain)
    (hshown : c.Shown l storage identity fs) (n : Nat) :
    c.Shown l storage identity (diskAfter fs history n) := by
  induction h generalizing fs n with
  | nil c =>
    rw [diskAfter_nil]
    exact hshown
  | stay heffect hnext rest ih =>
    cases n with
    | zero => exact hshown
    | succ n => exact ih hc hnext n
  | change => exact absurd rfl hc

/-- Where the identity is sealed in the end, one call moved the sealed identity into its place. -/
theorem sealers_eq (h : Course l storage identity c history c') (hc : c = .plain)
    (hc' : c' = .sealed password d) : l.sealers history = [password] := by
  induction h with
  | nil c =>
    rw [hc] at hc'
    cases hc'
  | stay heffect hshown rest ih =>
    rw [StorageLayout.sealers_cons_of_ne heffect]
    exact ih hc hc'
  | change heffect hshown rest =>
    obtain ⟨hend, hnone⟩ := rest.eq_of_ne_plain (by simp)
    rw [hc'] at hend
    cases hend
    rw [StorageLayout.sealers_cons_of_eq heffect, hnone]

/-- Of two readings the second finds what the first found, or the first found the plain identity. -/
theorem shown_twice (h : Course l storage identity c history c')
    (hshown : c.Shown l storage identity fs) {i j : Nat} (hij : i ≤ j) :
    Protection.plain.Shown l storage identity (diskAfter fs history i) ∨
      ∃ password d, c' = .sealed password d ∧
        (Protection.sealed password d).Shown l storage identity (diskAfter fs history i) ∧
        (Protection.sealed password d).Shown l storage identity (diskAfter fs history j) := by
  induction i generalizing c fs history j with
  | zero =>
    cases c with
    | plain =>
      rw [diskAfter_zero]
      exact .inl hshown
    | sealed password d =>
      have hstays := h.shown_of_ne_plain (by simp) hshown
      exact .inr ⟨password, d, (h.eq_of_ne_plain (by simp)).1, hstays 0, hstays j⟩
  | succ i ih =>
    obtain ⟨j, rfl⟩ : ∃ k, j = k + 1 := ⟨j - 1, by omega⟩
    have hle : i ≤ j := by omega
    cases h with
    | nil =>
      have hshown' := ih (.nil _) hshown hle
      simp only [diskAfter_nil] at hshown' ⊢
      exact hshown'
    | stay heffect hnext rest => exact ih rest hnext hle
    | change heffect hnext rest => exact ih rest hnext hle

end Course

variable {l : StorageLayout} {storage : List String} {identity : Bytes} {password : String}
  {c : Protection} {p : Program (Except StoreError Unit)} {w w' : World} {moments : List Moment}

/-- A call that is cut off leaves the disk in a course of protection, wherever it is cut off. -/
theorem Underway.course (hlength : identity.length = Bundle.plainLength)
    (h : Underway l storage identity password c p w) (hcut : CutOff p w moments w') :
    ∃ c', Course l storage identity c (moments.map (password, ·)) c' ∧
      c'.Shown l storage identity w'.disk := by
  induction hcut generalizing c with
  | stop p w => exact ⟨c, .nil c, h.shown⟩
  | call q next rest ih =>
    rcases h.step hlength with ⟨hother, hnext⟩ | ⟨d, rfl, hsealing, hnext⟩
    · obtain ⟨c', hcourse, hend⟩ := ih hnext
      exact ⟨c', .stay hother hnext.shown hcourse, hend⟩
    · obtain ⟨c', hcourse, hend⟩ := ih hnext
      exact ⟨c', .change hsealing hnext.shown hcourse, hend⟩
  | @torn content part path next w hpart =>
    have hshown := h.shown_torn part
    exact ⟨c, .stay (by simp) hshown (.nil c), hshown⟩

theorem StorageLayout.SealHistory.course (hlength : identity.length = Bundle.plainLength)
    {fs : FileSystem} {history : List Labelled} (h : l.SealHistory fs history)
    (hshown : c.Shown l storage identity fs) : ∃ c', Course l storage identity c history c' := by
  induction h generalizing c with
  | nil fs => exact ⟨c, .nil c⟩
  | cons password hcall rest ih =>
    obtain ⟨c', hcourse, hend⟩ := (Underway.start hshown password).course hlength hcall
    obtain ⟨c'', hlater⟩ := ih hend
    exact ⟨c'', hcourse.append hlater⟩

/-- The loaded vault is ready, or it waits for the password of the one call that sealed the
identity. -/
def Recoverable (identity : Bytes) (sealers : List String)
    (loaded : Except StoreError StoreState × Vault) : Prop :=
  (loaded.1 = .ok .ready ∧ loaded.2.Unlocked identity) ∨
    loaded.1 = .ok .awaitingPassword ∧ loaded.2.state = .awaitingPassword ∧
      ∃ password, sealers = [password] ∧ (loaded.2.supply password).Unlocks identity

/-- Calls seal the identity one after another, each of them cut off or not, and a vault is loaded
meanwhile: call number `n` of the load comes after the moment `places n`. The identity can be got
back then. -/
theorem recoverable_amid_sealing {fs : FileSystem} {history : List Labelled}
    (hplain : fs.contentAt l.identityKey = .ok identity)
    (hlength : identity.length = Bundle.plainLength) (hhistory : l.SealHistory fs history)
    {places : Nat → Nat} (hplaces : Monotone places) (reader : World) :
    Recoverable identity (l.sealers history)
      (l.freshVault.load.runAmid (fun n => diskAfter fs history (places n)) 0 reader).1 := by
  obtain ⟨storage, hshown⟩ := exists_shown hplain
  obtain ⟨c, hcourse⟩ := hhistory.course hlength hshown
  rcases hcourse.shown_twice hshown (hplaces (Nat.zero_le 1)) with
    hfirst | ⟨password, d, rfl, hfirst, hsecond⟩
  · have hload := Vault.runAmid_load_plain
      (fun n => diskAfter fs history (places n)) hfirst.plain hlength reader
    rw [hload]
    exact .inl ⟨rfl, Vault.unlocked_ready none hlength⟩
  · obtain ⟨v, hload, hstate, hunlocks, -⟩ := load_shown_sealed
      (fun n => diskAfter fs history (places n)) hfirst hsecond hlength reader
    rw [hload]
    exact .inr ⟨rfl, hstate, password, hcourse.sealers_eq rfl rfl, hunlocks⟩

theorem recoverable_amid_one_sealing :
    Recoverable (List.replicate 64 7)
      (StorageLayout.sealers ⟨"/d"⟩
        (((StorageLayout.sealIdentity ⟨"/d"⟩ "").moments
          { disk := plainStore (List.replicate 64 7) }).map ("", ·) ++ []))
      ((StorageLayout.freshVault ⟨"/d"⟩).load.runAmid
        (fun n => diskAfter (plainStore (List.replicate 64 7))
          (((StorageLayout.sealIdentity ⟨"/d"⟩ "").moments
            { disk := plainStore (List.replicate 64 7) }).map ("", ·) ++ []) (id n)) 0
        { disk := .empty }).1 :=
  recoverable_amid_sealing (by rfl) (by rfl)
    (.cons "" (w := { disk := plainStore (List.replicate 64 7) }) (.whole _ _) (.nil _))
    monotone_id _

end IdentityVault
