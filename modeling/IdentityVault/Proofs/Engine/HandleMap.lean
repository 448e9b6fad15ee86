import IdentityVault.Proofs.Engine.Slots
import IdentityVault.Proofs.Program.History
import Mathlib.Data.FinEnum
import Mathlib.Data.Set.Card

/-! A table of slots as a finite map from handles to values. A handle is not given out twice, as
long as its slot was not emptied 2^32 times. -/
namespace IdentityVault

inductive TableCall (α : Type) where
  | insert (a : α)
  | get (h : Handle)
  | change (h : Handle) (f : α → α)
  | remove (h : Handle)

inductive TableReply (α : Type) where
  | issued (h : Handle)
  | refused (e : SlotTableError)
  /-- The value that was there before the call. -/
  | found (a : Option α)

abbrev TableDeed (α : Type) := TableCall α × TableReply α

variable {α : Type}

namespace TableDeed

/-- The handles that were given out, the latest in front. -/
def issued (past : List (TableDeed α)) : List Handle :=
  past.filterMap fun
    | (_, .issued h) => some h
    | _ => none

/-- How often a value was taken out of a slot. -/
def removals (past : List (TableDeed α)) (slot : UInt32) : Nat :=
  past.countP fun
    | (.remove h, .found (some _)) => h.index = slot
    | _ => false

section Cons

variable (past : List (TableDeed α)) (c : TableCall α) (h : Handle) (slot : UInt32)

theorem issued_cons_issued : issued ((c, .issued h) :: past) = h :: issued past := rfl

theorem issued_cons_found (o : Option α) : issued ((c, .found o) :: past) = issued past := rfl

theorem removals_cons_insert (a : α) (reply : TableReply α) :
    removals ((.insert a, reply) :: past) slot = removals past slot := rfl

theorem removals_cons_change (f : α → α) (reply : TableReply α) :
    removals ((.change h f, reply) :: past) slot = removals past slot := rfl

theorem removals_cons_remove (a : α) : removals ((.remove h, .found (some a)) :: past) slot =
    removals past slot + if h.index = slot then 1 else 0 := by
  simp [removals, List.countP_cons]

end Cons

end TableDeed

open TableDeed

/-- A finite map with all the keys it ever had. -/
structure HandleMap (α : Type) where
  bindings : Handle → Option α
  issued : Set Handle

namespace HandleMap

/-- The number of bindings. -/
noncomputable def size (m : HandleMap α) : Nat := {h | (m.bindings h).isSome}.ncard

/-- A new key was never a key before. Every call reaches the binding of its key alone. -/
inductive Step : HandleMap α → TableDeed α → HandleMap α → Prop where
  | insert {m : HandleMap α} (a : α) (h : Handle) (fresh : h ∉ m.issued) :
      Step m (.insert a, .issued h)
        ⟨Function.update m.bindings h (some a), Insert.insert h m.issued⟩
  | refuse {m : HandleMap α} (a : α) (e : SlotTableError) : Step m (.insert a, .refused e) m
  | get {m : HandleMap α} (h : Handle) : Step m (.get h, .found (m.bindings h)) m
  | change {m : HandleMap α} (h : Handle) (f : α → α) :
      Step m (.change h f, .found (m.bindings h))
        ⟨Function.update m.bindings h ((m.bindings h).map f), m.issued⟩
  | remove {m : HandleMap α} (h : Handle) :
      Step m (.remove h, .found (m.bindings h)) ⟨Function.update m.bindings h none, m.issued⟩

abbrev Run : List (TableDeed α) → HandleMap α → Prop := History Step ⟨fun _ => none, ∅⟩

end HandleMap

namespace SlotTable

/-- One call of a table. -/
inductive Step : SlotTable α → TableDeed α → SlotTable α → Prop where
  | insert {t t' : SlotTable α} {a : α} {h : Handle} (taken : t.insert a = .ok (h, t')) :
      Step t (.insert a, .issued h) t'
  | refuse {t : SlotTable α} {a : α} {e : SlotTableError} (refused : t.insert a = .error e) :
      Step t (.insert a, .refused e) t
  | get {t : SlotTable α} (h : Handle) : Step t (.get h, .found (t.get? h)) t
  | change {t : SlotTable α} (h : Handle) (f : α → α) :
      Step t (.change h f, .found (t.get? h)) (t.update h f)
  | remove {t : SlotTable α} (h : Handle) :
      Step t (.remove h, .found (t.remove h).1) (t.remove h).2

abbrev Run : List (TableDeed α) → SlotTable α → Prop := History Step .empty

variable {t t' : SlotTable α} {past : List (TableDeed α)} {d : TableDeed α} {h k : Handle} {a : α}

/-- The slots tell of the past: a generation counts the values that were taken out. -/
structure Traces (past : List (TableDeed α)) (t : SlotTable α) : Prop where
  valid : t.Valid
  generation (slot : UInt32) : t.generationAt slot = UInt32.ofNat (removals past slot)
  /-- A handle that was given out is bound, or its slot was emptied since. -/
  issued (h : Handle) (hissued : h ∈ issued past) : ∃ n, h.generation = UInt32.ofNat n ∧
    (n < removals past h.index ∨ n = removals past h.index ∧ (t.get? h).isSome)
  /-- All values given to a slot were taken out again, except for the one that it holds. -/
  values (slot : UInt32) : (TableDeed.issued past).countP (fun h => h.index = slot) =
    removals past slot + if (t.valueAt slot).isSome then 1 else 0
  size : t.size = {h | (t.get? h).isSome}.ncard

instance : Finite Handle :=
  Finite.of_injective (fun h : Handle => (h.index, h.generation)) fun h k heq => by
    simp only [Prod.mk.injEq] at heq
    exact Handle.eq_of heq.1 heq.2

theorem ncard_bind {m : Handle → Option α} (hfree : m h = none) (a : α) :
    {k | (Function.update m h (some a) k).isSome}.ncard = {k | (m k).isSome}.ncard + 1 := by
  have hset : {k | (Function.update m h (some a) k).isSome} =
      Insert.insert h {k | (m k).isSome} := by
    ext k
    rcases eq_or_ne k h with rfl | hne
    · simp
    · simp [hne]
  rw [hset, Set.ncard_insert_of_notMem (by simp [hfree])]

theorem ncard_unbind {m : Handle → Option α} (hbound : m h = some a) :
    {k | (Function.update m h none k).isSome}.ncard + 1 = {k | (m k).isSome}.ncard := by
  have hset : {k | (Function.update m h none k).isSome} = {k | (m k).isSome} \ {h} := by
    ext k
    rcases eq_or_ne k h with rfl | hne
    · simp
    · simp [hne]
  rw [hset, Set.ncard_sdiff_singleton_add_one (by simp [hbound])]

theorem ncard_rebind {m : Handle → Option α} (hbound : m h = some a) (b : α) :
    {k | (Function.update m h (some b) k).isSome} = {k | (m k).isSome} := by
  ext k
  rcases eq_or_ne k h with rfl | hne
  · simp [hbound]
  · simp [hne]

namespace Traces

theorem start : Traces [] (empty : SlotTable α) where
  valid := valid_empty
  generation _ := rfl
  issued h hissued := absurd hissued List.not_mem_nil
  values _ := rfl
  size := by simp [SlotTable.size, empty, get?, slot?]

/-- Calls that leave the table as it was give nothing out and take nothing out. -/
theorem congr {past' : List (TableDeed α)} (h : Traces past t)
    (hissued : TableDeed.issued past' = TableDeed.issued past)
    (hremovals : ∀ slot, removals past' slot = removals past slot) : Traces past' t where
  valid := h.valid
  generation slot := by rw [hremovals, h.generation]
  issued k hk := by
    rw [hissued] at hk
    rw [hremovals]
    exact h.issued k hk
  values slot := by rw [hissued, hremovals, h.values]
  size := h.size

theorem insert (htraces : Traces past t) (hinsert : t.insert a = .ok (k, t')) :
    Traces ((.insert a, .issued k) :: past) t' := by
  have hslots := slots_insert htraces.valid hinsert
  have hget := get?_insert htraces.valid hinsert
  have hgeneration : k.generation = UInt32.ofNat (removals past k.index) := by
    rw [generation_of_insert htraces.valid hinsert, htraces.generation]
  refine ⟨htraces.valid.insert hinsert, fun slot => ?_, fun h hissued => ?_, fun slot => ?_, ?_⟩
  · rw [generationAt_of_slots hslots, removals_cons_insert]
    split_ifs with hslot
    · rw [hgeneration, hslot]
    · exact htraces.generation slot
  · rw [hget, removals_cons_insert]
    rcases eq_or_ne h k with rfl | hne
    · exact ⟨_, hgeneration, .inr ⟨rfl, by simp⟩⟩
    · rw [issued_cons_issued, List.mem_cons, or_iff_right hne] at hissued
      rw [Function.update_of_ne hne]
      exact htraces.issued h hissued
  · have hvalues := htraces.values slot
    rw [valueAt_of_slots hslots, issued_cons_issued, removals_cons_insert, List.countP_cons,
      hvalues]
    by_cases hslot : slot = k.index
    · subst hslot
      simp [valueAt_of_insert htraces.valid hinsert]
    · simp [hslot, Ne.symm hslot]
  · rw [hget, ncard_bind (get?_eq_none_of_insert htraces.valid hinsert rfl), ← htraces.size]
    rcases insert_eq_ok htraces.valid hinsert with ⟨-, -, -, hlive⟩ | ⟨-, -, -, -, rfl⟩
    · exact hlive
    · rfl

theorem change (htraces : Traces past t) (h : Handle) (f : α → α) :
    Traces ((.change h f, .found (t.get? h)) :: past) (t.update h f) := by
  cases hget : t.get? h with
  | none =>
    rw [update_of_none hget]
    exact htraces.congr rfl fun _ => rfl
  | some a =>
    have hslots := slots_update hget f
    refine ⟨htraces.valid.update h f, fun slot => ?_, fun k hissued => ?_, fun slot => ?_, ?_⟩
    · rw [generationAt_of_slots hslots, removals_cons_change, ← htraces.generation]
      split_ifs with hslot
      · rw [hslot, generationAt_of_get? hget]
      · rfl
    · obtain ⟨n, hgeneration, hn⟩ := htraces.issued k hissued
      refine ⟨n, hgeneration, hn.imp_right (And.imp_right fun hbound => ?_)⟩
      rw [get?_update, hget]
      rcases eq_or_ne k h with rfl | hne
      · simp
      · rwa [Function.update_of_ne hne]
    · rw [valueAt_of_slots hslots, issued_cons_found, removals_cons_change, htraces.values]
      by_cases hslot : slot = h.index
      · simp [hslot, valueAt_of_get? hget]
      · simp [hslot]
    · rw [get?_update, hget, Option.map_some, ncard_rebind hget, ← htraces.size,
        update_of_some hget]
      rfl

theorem remove (htraces : Traces past t) (h : Handle) :
    Traces ((.remove h, .found (t.remove h).1) :: past) (t.remove h).2 := by
  cases hget : t.get? h with
  | none =>
    rw [remove_of_none hget]
    exact htraces.congr rfl fun _ => rfl
  | some a =>
    have hslots := slots_remove hget
    have hvalid := htraces.valid.remove h
    have hafter := get?_remove t h
    have hgeneration : h.generation = UInt32.ofNat (removals past h.index) := by
      rw [← htraces.generation, generationAt_of_get? hget]
    have hlive := htraces.valid.live_pos hget
    rw [remove_fst, hget]
    refine ⟨hvalid, fun slot => ?_, fun k hissued => ?_, fun slot => ?_, ?_⟩
    · rw [generationAt_of_slots hslots, removals_cons_remove]
      by_cases hslot : slot = h.index
      · subst hslot
        rw [if_pos rfl, if_pos rfl, hgeneration, UInt32.ofNat_add]
        rfl
      · rw [if_neg hslot, if_neg (Ne.symm hslot)]
        exact htraces.generation slot
    · obtain ⟨n, hn, hpast⟩ := htraces.issued k hissued
      refine ⟨n, hn, ?_⟩
      rw [removals_cons_remove]
      by_cases hslot : h.index = k.index
      · rw [if_pos hslot]
        omega
      · have hne : k ≠ h := fun heq => hslot (by rw [heq])
        rwa [if_neg hslot, hafter, Function.update_of_ne hne]
    · rw [valueAt_of_slots hslots, issued_cons_found, htraces.values, removals_cons_remove]
      by_cases hslot : slot = h.index
      · subst hslot
        simp [valueAt_of_get? hget]
      · simp [hslot, Ne.symm hslot]
    · have hcount := ncard_unbind hget
      rw [← hafter, ← htraces.size] at hcount
      rw [remove_of_some hget] at hcount ⊢
      simp only [SlotTable.size] at hcount ⊢
      omega

theorem step (htraces : Traces past t) (hstep : Step t d t') : Traces (d :: past) t' := by
  cases hstep with
  | insert taken => exact htraces.insert taken
  | refuse refused => exact htraces.congr rfl fun _ => rfl
  | get h => exact htraces.congr rfl fun _ => rfl
  | change h f => exact htraces.change h f
  | remove h => exact htraces.remove h

end Traces

/-- A slot whose generation did not go round gives no handle a second time. -/
theorem Traces.fresh (htraces : Traces past t) (hinsert : t.insert a = .ok (k, t'))
    (hfew : removals past k.index < 2 ^ 32) : k ∉ TableDeed.issued past := by
  intro hissued
  obtain ⟨n, hn, hlt | ⟨-, hbound⟩⟩ := htraces.issued k hissued
  · -- Both counts fit a generation, so that the earlier one is another word.
    rw [generation_of_insert htraces.valid hinsert, htraces.generation, ← UInt32.toNat_inj,
      UInt32.toNat_ofNat_of_lt' hfew, UInt32.toNat_ofNat_of_lt' (hlt.trans hfew)] at hn
    exact hlt.ne' hn
  · rw [get?_eq_none_of_insert htraces.valid hinsert rfl] at hbound
    cases hbound

/-- The map that a table stands for. -/
def toMap (t : SlotTable α) (past : List (TableDeed α)) : HandleMap α :=
  ⟨t.get?, {h | h ∈ TableDeed.issued past}⟩

/-- Each call of a table is a call of its map. -/
theorem Traces.toMap_step (htraces : Traces past t) (hstep : Step t d t')
    (hfew : ∀ slot, removals past slot < 2 ^ 32) :
    HandleMap.Step (t.toMap past) d (t'.toMap (d :: past)) := by
  cases hstep with
  | @insert _ a k taken =>
    have hissued : {h | h ∈ TableDeed.issued ((TableCall.insert a, .issued k) :: past)} =
        Insert.insert k {h | h ∈ TableDeed.issued past} := by
      ext h
      simp [issued_cons_issued]
    rw [toMap, toMap, get?_insert htraces.valid taken, hissued]
    exact .insert a k (htraces.fresh taken (hfew k.index))
  | refuse refused => exact .refuse _ _
  | get h => exact .get h
  | change h f =>
    rw [toMap, toMap, get?_update]
    exact .change h f
  | remove h =>
    rw [remove_fst, toMap, toMap, get?_remove]
    exact .remove h

theorem Run.traces (h : Run past t) : Traces past t := by
  induction h with
  | start => exact .start
  | next before taken ih => exact ih.step taken

theorem removals_le_cons (d : TableDeed α) (past : List (TableDeed α)) (slot : UInt32) :
    removals past slot ≤ removals (d :: past) slot :=
  (List.sublist_cons_self d past).countP_le

theorem Run.toMap (h : Run past t) (hfew : ∀ slot, removals past slot < 2 ^ 32) :
    HandleMap.Run past (t.toMap past) := by
  induction h with
  | start =>
    have hget : (empty : SlotTable α).get? = fun _ => none := by
      funext h
      rfl
    have hissued : {h | h ∈ TableDeed.issued ([] : List (TableDeed α))} = ∅ := by
      simp [TableDeed.issued]
    rw [SlotTable.toMap, hget, hissued]
    exact .start
  | @next past s s' d before taken ih =>
    have hbefore : ∀ slot, removals past slot < 2 ^ 32 :=
      fun slot => (removals_le_cons d past slot).trans_lt (hfew slot)
    exact (ih hbefore).next ((Run.traces before).toMap_step taken hbefore)

/-- A table of slots is a finite map whose keys are never used again: calls with any handles at all
are answered as the map answers them. -/
theorem Run.refines (h : Run past t) (hfew : ∀ slot, removals past slot < 2 ^ 32) :
    ∃ m : HandleMap α, HandleMap.Run past m ∧ m.bindings = t.get? ∧ t.size = m.size :=
  ⟨t.toMap past, h.toMap hfew, rfl, h.traces.size⟩

/-- A slot is used again, and the handle that it had before finds nothing. -/
theorem refines_of_reused_slot :
    ∃ m : HandleMap Nat,
      HandleMap.Run [(.get ⟨0, 0⟩, .found none), (.insert 8, .issued ⟨0, 1⟩),
        (.remove ⟨0, 0⟩, .found (some 7)), (.insert 7, .issued ⟨0, 0⟩)] m ∧
      m.bindings = get? ⟨[⟨1, some 8⟩], [], 1⟩ ∧ size ⟨[⟨1, some 8⟩], [], 1⟩ = m.size :=
  Run.refines
    (.next (.next (.next (.next .start (.insert rfl)) (.remove ⟨0, 0⟩)) (.insert rfl))
      (.get ⟨0, 0⟩))
    fun _ => List.countP_le_length.trans_lt (by decide)

end SlotTable

end IdentityVault
