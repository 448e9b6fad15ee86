import IdentityVault.Proofs.Engine.HandleMap

/-! How long a handle is stale. A generation counts the values that were taken out of a slot, but
only up to 2^32: a handle finds the value that it was given out for, or else nothing, until its slot
was emptied that often and is filled again. -/
namespace IdentityVault

variable {α : Type}

namespace TableDeed

/-- What has become of a value through its handle. -/
def changed (h : Handle) (a : α) (later : List (TableDeed α)) : α :=
  later.foldr (fun d b => match d.1 with
    | .change k f => if k = h then f b else b
    | _ => b) a

/-- A handle was given out, its slot was not emptied since, and its value has become this one. -/
def Holds (past : List (TableDeed α)) (h : Handle) (b : α) : Prop :=
  ∃ later a earlier, past = later ++ (.insert a, .issued h) :: earlier ∧
    removals later h.index = 0 ∧ changed h a later = b

variable {past later earlier : List (TableDeed α)} {d : TableDeed α} {h k : Handle} {a b : α}

theorem removals_append (later past : List (TableDeed α)) (slot : UInt32) :
    removals (later ++ past) slot = removals later slot + removals past slot :=
  List.countP_append

/-- A handle holds a value that it was just given out for, or one that it held before, if the slot
was not emptied. -/
theorem holds_cons_iff : Holds (d :: past) h b ↔ d = (.insert b, .issued h) ∨
    removals [d] h.index = 0 ∧ ∃ before, Holds past h before ∧ changed h before [d] = b := by
  constructor
  · rintro ⟨later, a, earlier, hpast, hremovals, rfl⟩
    cases later with
    | nil =>
      cases hpast
      exact .inl rfl
    | cons e later =>
      cases hpast
      rw [← List.singleton_append, removals_append, Nat.add_eq_zero_iff] at hremovals
      exact .inr ⟨hremovals.1, _, ⟨later, a, earlier, rfl, hremovals.2, rfl⟩, rfl⟩
  · rintro (rfl | ⟨hkept, _, ⟨later, a, earlier, rfl, hremovals, rfl⟩, rfl⟩)
    · exact ⟨[], b, past, rfl, rfl, rfl⟩
    · refine ⟨d :: later, a, earlier, rfl, ?_, rfl⟩
      rw [← List.singleton_append, removals_append, hkept, hremovals]

/-- Where the slot was emptied since a handle was given out, the handle holds a value only if it was
given out again. -/
theorem Holds.later_of_removed (hholds : Holds (later ++ (.insert a, .issued h) :: earlier) h b)
    (hremoved : 0 < removals later h.index) : Holds later h b := by
  obtain ⟨recent, c, before, hsplit, hkept, hb⟩ := hholds
  rcases List.append_eq_append_iff.1 hsplit with ⟨middle, rfl, -⟩ | ⟨middle, rfl, hmiddle⟩
  · rw [removals_append] at hkept
    omega
  · cases middle with
    | nil =>
      rw [List.append_nil] at hremoved
      omega
    | cons d middle =>
      cases hmiddle
      exact ⟨recent, c, middle, rfl, hkept, hb⟩

end TableDeed

open TableDeed

namespace SlotTable

variable {t t' : SlotTable α} {past later earlier : List (TableDeed α)} {d : TableDeed α}
  {h k : Handle} {a b : α}

/-- What a call leaves behind a handle: what it was just given out for, or what was there before, if
the slot was not emptied. -/
theorem get?_of_step (hvalid : t.Valid) (hstep : Step t d t') :
    t'.get? h = some b ↔ d = (.insert b, .issued h) ∨
      removals [d] h.index = 0 ∧ ∃ before, t.get? h = some before ∧ changed h before [d] = b := by
  cases hstep with
  | @insert _ a k taken =>
    rw [get?_insert hvalid taken]
    rcases eq_or_ne h k with rfl | hne
    · simp [get?_eq_none_of_insert hvalid taken rfl]
    · simp [hne, hne.symm, removals, changed]
  | refuse => simp [removals, changed]
  | get k => simp [removals, changed]
  | change k f =>
    rw [get?_update]
    rcases eq_or_ne h k with rfl | hne
    · simp [removals, changed]
    · simp [hne, hne.symm, removals, changed]
  | remove k =>
    rw [get?_remove, remove_fst]
    cases hget : t.get? k with
    | none =>
      rcases eq_or_ne h k with rfl | hne
      · simp [hget]
      · simp [hne, removals, changed]
    | some a =>
      by_cases hindex : h.index = k.index
      · -- The slot is empty now, so that no handle of it finds anything.
        have hnone : Function.update t.get? k none h = none := by
          rcases eq_or_ne h k with rfl | hne
          · exact Function.update_self ..
          · rw [Function.update_of_ne hne, get?_eq_none_of_ne hget hindex hne]
        simp [hnone, removals, hindex]
      · have hne : h ≠ k := fun heq => hindex (congrArg Handle.index heq)
        simp [hne, removals, changed, Ne.symm hindex]

/-- The whole of what a table finds is in its past. -/
theorem Run.get?_iff_holds (hrun : Run past t) : t.get? h = some b ↔ Holds past h b := by
  induction hrun generalizing b with
  | start => simp [empty, get?, slot?, Holds]
  | next before taken ih =>
    rw [get?_of_step (Run.traces before).valid taken, holds_cons_iff]
    simp only [ih]

/-- What becomes of a handle after it was given out, by the number of times that its slot was
emptied since. Every 2^32 times the slot takes values under the same handle again. -/
structure Lifetime (h : Handle) (a : α) (later : List (TableDeed α)) (t : SlotTable α) : Prop where
  found_iff : (t.get? h).isSome ↔
    (t.valueAt h.index).isSome ∧ 2 ^ 32 ∣ removals later h.index
  own (kept : removals later h.index = 0) : t.get? h = some (changed h a later)
  stale (removed : 0 < removals later h.index) (few : removals later h.index < 2 ^ 32) :
    t.get? h = none
  foreign (removed : 0 < removals later h.index) (b : α) (found : t.get? h = some b) :
    Holds later h b

theorem isSome_get?_iff : (t.get? h).isSome ↔
    (t.valueAt h.index).isSome ∧ t.generationAt h.index = h.generation := by
  unfold get? slot? valueAt generationAt
  cases t.slots[h.index.toNat]? with
  | none => simp
  | some s =>
    by_cases hgeneration : s.generation = h.generation
    · simp [Option.filter_some, hgeneration]
    · simp [Option.filter_some, hgeneration]

theorem ofNat_add_eq_iff (m n : Nat) :
    UInt32.ofNat (m + n) = UInt32.ofNat n ↔ 2 ^ 32 ∣ m := by
  rw [← UInt32.toNat_inj, UInt32.toNat_ofNat', UInt32.toNat_ofNat', Nat.dvd_iff_mod_eq_zero]
  omega

/-- A handle tells how often its slot had been emptied when it was given out. -/
theorem Run.generation_of_issued
    (hrun : Run (later ++ (.insert a, .issued h) :: earlier) t) :
    h.generation = UInt32.ofNat (removals earlier h.index) := by
  induction later generalizing t with
  | nil =>
    cases hrun with
    | next before taken =>
      have htraces := Run.traces before
      cases taken with
      | insert inserted => rw [generation_of_insert htraces.valid inserted, htraces.generation]
  | cons d later ih =>
    cases hrun with
    | next before => exact ih before

theorem Run.lifetime (hrun : Run (later ++ (.insert a, .issued h) :: earlier) t) :
    Lifetime h a later t := by
  have hfound : (t.get? h).isSome ↔
      (t.valueAt h.index).isSome ∧ 2 ^ 32 ∣ removals later h.index := by
    rw [isSome_get?_iff, hrun.traces.generation, hrun.generation_of_issued, removals_append,
      removals_cons_insert, ofNat_add_eq_iff]
  refine ⟨hfound, fun kept => ?_, fun removed few => ?_, fun removed b found => ?_⟩
  · exact hrun.get?_iff_holds.2 ⟨later, a, earlier, rfl, kept, rfl⟩
  · rw [← Option.not_isSome_iff_eq_none, hfound]
    exact fun h => (Nat.le_of_dvd removed h.2).not_gt few
  · exact (hrun.get?_iff_holds.1 found).later_of_removed removed

/-- A slot that is emptied takes the next value, under the next generation. -/
theorem exists_round (hget : t.get? h = some a) (b : α) :
    ∃ t', (t.remove h).2.insert b = .ok (⟨h.index, h.generation + 1⟩, t') := by
  have hslot := slots_remove hget h.index.toNat
  rw [if_pos rfl, remove_of_some hget] at hslot
  simp only [remove_of_some hget, insert, hslot]
  exact ⟨_, rfl⟩

/-- Any value can be taken out and another one put in its place, as often as is wanted. -/
theorem exists_rounds (hvalid : t.Valid) (hget : t.get? h = some a) (b : α) (n : Nat) :
    ∃ later t', History Step t later t' ∧ t'.Valid ∧ removals later h.index = n + 1 ∧
      t'.get? ⟨h.index, h.generation + .ofNat (n + 1)⟩ = some b := by
  induction n with
  | zero =>
    obtain ⟨t', hround⟩ := exists_round hget b
    refine ⟨_, t', .next (.next .start (.remove h)) (.insert hround),
      (hvalid.remove h).insert hround, ?_, ?_⟩
    · rw [removals_cons_insert, remove_fst, hget, removals_cons_remove, if_pos rfl]
      rfl
    · rw [get?_insert (hvalid.remove h) hround]
      exact Function.update_self ..
  | succ n ih =>
    obtain ⟨later, t₁, hlater, hvalid₁, hcount, hget₁⟩ := ih
    obtain ⟨t', hround⟩ := exists_round hget₁ b
    refine ⟨_, t', (hlater.next (.remove _)).next (.insert hround),
      (hvalid₁.remove _).insert hround, ?_, ?_⟩
    · rw [removals_cons_insert, remove_fst, hget₁, removals_cons_remove, if_pos rfl, hcount]
    · have hgeneration : h.generation + .ofNat (n + 1) + 1 =
          h.generation + UInt32.ofNat (n + 1 + 1) := by
        rw [UInt32.add_assoc, UInt32.ofNat_add (n + 1) 1]
        rfl
      rw [get?_insert (hvalid₁.remove _) hround, hgeneration]
      exact Function.update_self ..

/-- After 2^32 rounds a handle finds a value that is not its own. -/
theorem lifetime_of_worn_slot : ∃ later t, Run (later ++ [(.insert 7, .issued ⟨0, 0⟩)]) t ∧
    removals later 0 = 2 ^ 32 ∧ t.get? ⟨0, 0⟩ = some 8 ∧ Lifetime ⟨0, 0⟩ 7 later t := by
  have hstart : Run [(.insert 7, .issued ⟨0, 0⟩)] ⟨[⟨0, some 7⟩], [], 1⟩ :=
    .next .start (.insert rfl)
  have hget : get? ⟨[⟨0, some 7⟩], [], 1⟩ ⟨0, 0⟩ = some 7 := rfl
  obtain ⟨later, t, hlater, -, hcount, hfound⟩ :=
    exists_rounds hstart.traces.valid hget 8 (2 ^ 32 - 1)
  have hrun : Run (later ++ [(.insert 7, .issued ⟨0, 0⟩)]) t := hstart.trans hlater
  exact ⟨later, t, hrun, hcount, hfound, hrun.lifetime⟩

end SlotTable

end IdentityVault
