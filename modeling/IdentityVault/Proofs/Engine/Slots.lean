import IdentityVault.Engine.SlotTable
import Mathlib.Data.List.Basic
import Mathlib.Logic.Function.Basic
import Mathlib.Tactic.SplitIfs

/-! Which handles a table of slots resolves, and how each operation changes that. In a valid table
the free list names the empty slots, so that an insertion never meets a value. -/
namespace IdentityVault

theorem Handle.eq_of {h k : Handle} (hindex : h.index = k.index)
    (hgeneration : h.generation = k.generation) : h = k := by
  cases h
  cases k
  simp_all

namespace SlotTable

variable {α : Type} {t t' : SlotTable α} {h k : Handle} {a b : α}

/-- The free list names each empty slot once, and the values are counted. -/
structure Valid (t : SlotTable α) : Prop where
  nodup : t.free.Nodup
  mem_free (index : UInt32) :
    index ∈ t.free ↔ ∃ generation, t.slots[index.toNat]? = some ⟨generation, none⟩
  live_eq : t.live = t.slots.countP fun s => s.value.isSome
  live_add_free : t.live + t.free.length = t.slots.length
  length_le : t.slots.length ≤ maximumSlots

theorem valid_empty : (empty : SlotTable α).Valid where
  nodup := List.nodup_nil
  mem_free index := by simp [empty]
  live_eq := rfl
  live_add_free := rfl
  length_le := Nat.zero_le _

theorem get?_eq_some_iff :
    t.get? h = some a ↔ t.slots[h.index.toNat]? = some ⟨h.generation, some a⟩ := by
  simp only [get?, slot?, Option.bind_eq_some_iff, Option.filter_eq_some_iff, decide_eq_true_eq]
  constructor
  · rintro ⟨⟨generation, value⟩, ⟨hslot, rfl⟩, rfl⟩
    exact hslot
  · intro hslot
    exact ⟨_, ⟨hslot, rfl⟩, rfl⟩

theorem remove_of_some (hget : t.get? h = some a) :
    t.remove h = (some a, ⟨t.slots.set h.index.toNat ⟨h.generation + 1, none⟩,
      h.index :: t.free, t.live - 1⟩) := by
  simp only [remove, hget]

theorem remove_of_none (hget : t.get? h = none) : t.remove h = (none, t) := by
  simp only [remove, hget]

theorem update_of_some (hget : t.get? h = some a) (f : α → α) :
    t.update h f = { t with slots := t.slots.set h.index.toNat ⟨h.generation, some (f a)⟩ } := by
  simp only [update, hget]

theorem update_of_none (hget : t.get? h = none) (f : α → α) : t.update h f = t := by
  simp only [update, hget]

theorem remove_fst : (t.remove h).1 = t.get? h := by
  cases hget : t.get? h with
  | none => rw [remove_of_none hget]
  | some a => rw [remove_of_some hget]

theorem insert_of_free {index : UInt32} {free : List UInt32} {generation : UInt32}
    (hfree : t.free = index :: free)
    (hslot : t.slots[index.toNat]? = some ⟨generation, none⟩) (a : α) :
    t.insert a = .ok (⟨index, generation⟩,
      ⟨t.slots.set index.toNat ⟨generation, some a⟩, free, t.live + 1⟩) := by
  simp only [insert, hfree, List.modify_eq_set_getElem?, hslot, Option.map_some,
    Option.map_eq_map, Option.getD_some]

theorem insert_of_room (hfree : t.free = []) (hroom : t.slots.length < maximumSlots) (a : α) :
    t.insert a = .ok (⟨.ofNat t.slots.length, 0⟩,
      ⟨t.slots ++ [⟨0, some a⟩], [], t.live + 1⟩) := by
  simp only [insert, hfree, if_neg (Nat.not_le_of_lt hroom)]

theorem insert_eq_error_iff {e : SlotTableError} : t.insert a = .error e ↔
    e = .exhausted ∧ t.free = [] ∧ maximumSlots ≤ t.slots.length := by
  cases hfree : t.free with
  | cons index free => simp [insert, hfree]
  | nil =>
    simp only [insert, hfree]
    split_ifs with hfull <;> simp [hfull, eq_comm]

theorem Valid.toNat_ofNat_of_le (hvalid : t.Valid) {i : Nat} (hi : i ≤ t.slots.length) :
    (UInt32.ofNat i).toNat = i := by
  have hlength := hvalid.length_le
  rw [maximumSlots] at hlength
  apply Nat.mod_eq_of_lt
  omega

/-- An insertion takes the empty slot in front of the free list, or adds a slot when no slot is
empty. -/
theorem insert_eq_ok (hvalid : t.Valid) (hinsert : t.insert a = .ok (k, t')) :
    (t.slots[k.index.toNat]? = some ⟨k.generation, none⟩ ∧ t.free = k.index :: t'.free ∧
        t'.slots = t.slots.set k.index.toNat ⟨k.generation, some a⟩ ∧ t'.live = t.live + 1) ∨
      (k.index.toNat = t.slots.length ∧ k.generation = 0 ∧ t.free = [] ∧
        t.slots.length < maximumSlots ∧ t' = ⟨t.slots ++ [⟨0, some a⟩], [], t.live + 1⟩) := by
  cases hfree : t.free with
  | cons index free =>
    obtain ⟨generation, hslot⟩ := (hvalid.mem_free index).1 (by simp [hfree])
    rw [insert_of_free hfree hslot, Except.ok.injEq, Prod.mk.injEq] at hinsert
    obtain ⟨rfl, rfl⟩ := hinsert
    exact .inl ⟨hslot, rfl, rfl, rfl⟩
  | nil =>
    have hroom : t.slots.length < maximumSlots := by
      apply Nat.lt_of_not_le
      intro hfull
      rw [insert_eq_error_iff.2 ⟨rfl, hfree, hfull⟩] at hinsert
      cases hinsert
    rw [insert_of_room hfree hroom, Except.ok.injEq, Prod.mk.injEq] at hinsert
    obtain ⟨rfl, rfl⟩ := hinsert
    exact .inr ⟨hvalid.toNat_ofNat_of_le (Nat.le_refl _), rfl, rfl, hroom, rfl⟩

theorem slots_insert (hvalid : t.Valid) (hinsert : t.insert a = .ok (k, t')) (i : Nat) :
    t'.slots[i]? = if i = k.index.toNat then some ⟨k.generation, some a⟩ else t.slots[i]? := by
  rcases insert_eq_ok hvalid hinsert with ⟨hslot, -, hslots, -⟩ | ⟨hindex, hgeneration, -, -, rfl⟩
  · have hlength := (List.getElem?_eq_some_iff.1 hslot).1
    rw [hslots, List.getElem?_set, if_pos hlength]
    simp only [eq_comm]
  · rw [hindex, hgeneration, List.getElem?_append]
    split_ifs with hlt heq heq
    · omega
    · rfl
    · simp [heq]
    · rw [List.getElem?_eq_none (by simp; omega), List.getElem?_eq_none (by omega)]

theorem slots_remove (hget : t.get? h = some a) (i : Nat) : (t.remove h).2.slots[i]? =
    if i = h.index.toNat then some ⟨h.generation + 1, none⟩ else t.slots[i]? := by
  have hlength := (List.getElem?_eq_some_iff.1 (get?_eq_some_iff.1 hget)).1
  simp only [remove_of_some hget, List.getElem?_set, if_pos hlength, eq_comm]

theorem slots_update (hget : t.get? h = some a) (f : α → α) (i : Nat) : (t.update h f).slots[i]? =
    if i = h.index.toNat then some ⟨h.generation, some (f a)⟩ else t.slots[i]? := by
  have hlength := (List.getElem?_eq_some_iff.1 (get?_eq_some_iff.1 hget)).1
  simp only [update_of_some hget, List.getElem?_set, if_pos hlength, eq_comm]

theorem get?_eq_none_of_slot {s : Slot α} (hslot : t.slots[h.index.toNat]? = some s)
    (hother : s.generation = h.generation → s.value = none) : t.get? h = none := by
  rw [Option.eq_none_iff_forall_ne_some]
  intro b hget
  rw [get?_eq_some_iff, hslot, Option.some.injEq] at hget
  subst hget
  cases hother rfl

/-- The slot of a new handle holds no value. -/
theorem get?_eq_none_of_insert (hvalid : t.Valid) (hinsert : t.insert a = .ok (k, t'))
    (hindex : h.index = k.index) : t.get? h = none := by
  rcases insert_eq_ok hvalid hinsert with ⟨hslot, -⟩ | ⟨hlength, -⟩
  · rw [← hindex] at hslot
    exact get?_eq_none_of_slot hslot fun _ => rfl
  · rw [Option.eq_none_iff_forall_ne_some]
    intro b hget
    rw [get?_eq_some_iff, hindex, List.getElem?_eq_none (by omega)] at hget
    cases hget

/-- A value reached through another handle is in another slot. -/
theorem get?_eq_none_of_ne (hget : t.get? k = some a) (hindex : h.index = k.index) (hne : h ≠ k) :
    t.get? h = none := by
  rw [get?_eq_some_iff, ← hindex] at hget
  exact get?_eq_none_of_slot hget fun hgeneration =>
    absurd (Handle.eq_of hindex hgeneration.symm) hne

/-- A change of one slot that leaves its generation or leaves it empty is a change at one handle. -/
theorem get?_of_slots {generation : UInt32} {value : Option α}
    (hslots : ∀ i, t'.slots[i]? =
      if i = k.index.toNat then some ⟨generation, value⟩ else t.slots[i]?)
    (hothers : ∀ h, h.index = k.index → h ≠ k → t.get? h = none)
    (hvalue : generation = k.generation ∨ value = none) :
    t'.get? = Function.update t.get? k value := by
  funext h
  ext b
  rw [get?_eq_some_iff, hslots]
  simp only [UInt32.toNat_inj]
  rcases eq_or_ne h k with rfl | hne
  · rw [if_pos rfl, Function.update_self]
    rcases hvalue with rfl | rfl <;> simp
  · rw [Function.update_of_ne hne]
    split_ifs with hindex
    · rw [hothers h hindex hne]
      rcases hvalue with rfl | rfl
      · have hgeneration : k.generation ≠ h.generation :=
          fun hgeneration => hne (Handle.eq_of hindex hgeneration.symm)
        simp [hgeneration]
      · simp
    · rw [get?_eq_some_iff]

theorem get?_insert (hvalid : t.Valid) (hinsert : t.insert a = .ok (k, t')) :
    t'.get? = Function.update t.get? k (some a) :=
  get?_of_slots (slots_insert hvalid hinsert)
    (fun _ hindex _ => get?_eq_none_of_insert hvalid hinsert hindex) (.inl rfl)

theorem get?_remove (t : SlotTable α) (h : Handle) :
    (t.remove h).2.get? = Function.update t.get? h none := by
  cases hget : t.get? h with
  | none => rw [remove_of_none hget, ← hget, Function.update_eq_self]
  | some a =>
    exact get?_of_slots (slots_remove hget) (fun _ => get?_eq_none_of_ne hget) (.inr rfl)

theorem get?_update (t : SlotTable α) (h : Handle) (f : α → α) :
    (t.update h f).get? = Function.update t.get? h ((t.get? h).map f) := by
  cases hget : t.get? h with
  | none => rw [update_of_none hget, Option.map_none, ← hget, Function.update_eq_self]
  | some a =>
    exact get?_of_slots (slots_update hget f) (fun _ => get?_eq_none_of_ne hget) (.inl rfl)

theorem size_insert (hvalid : t.Valid) (hinsert : t.insert a = .ok (k, t')) :
    t'.size = t.size + 1 := by
  rcases insert_eq_ok hvalid hinsert with ⟨-, -, -, hlive⟩ | ⟨-, -, -, -, rfl⟩
  · exact hlive
  · rfl

theorem size_remove (hget : t.get? h = some a) : (t.remove h).2.size = t.size - 1 := by
  rw [remove_of_some hget]
  rfl

theorem size_update (t : SlotTable α) (h : Handle) (f : α → α) :
    (t.update h f).size = t.size := by
  cases hget : t.get? h with
  | none => rw [update_of_none hget]
  | some a =>
    rw [update_of_some hget]
    rfl

/-- The generation of the values that a slot takes next or holds. A slot to come starts at zero. -/
def generationAt (t : SlotTable α) (index : UInt32) : UInt32 :=
  (t.slots[index.toNat]?.map Slot.generation).getD 0

def valueAt (t : SlotTable α) (index : UInt32) : Option α :=
  t.slots[index.toNat]?.bind Slot.value

theorem generationAt_of_get? (hget : t.get? h = some a) :
    t.generationAt h.index = h.generation := by
  rw [generationAt, get?_eq_some_iff.1 hget]
  rfl

theorem valueAt_of_get? (hget : t.get? h = some a) : t.valueAt h.index = some a := by
  rw [valueAt, get?_eq_some_iff.1 hget]
  rfl

theorem generation_of_insert (hvalid : t.Valid) (hinsert : t.insert a = .ok (k, t')) :
    k.generation = t.generationAt k.index := by
  rcases insert_eq_ok hvalid hinsert with ⟨hslot, -⟩ | ⟨hlength, hgeneration, -⟩
  · rw [generationAt, hslot]
    rfl
  · rw [generationAt, List.getElem?_eq_none (by omega), hgeneration]
    rfl

theorem valueAt_of_insert (hvalid : t.Valid) (hinsert : t.insert a = .ok (k, t')) :
    t.valueAt k.index = none := by
  rcases insert_eq_ok hvalid hinsert with ⟨hslot, -⟩ | ⟨hlength, -⟩
  · rw [valueAt, hslot]
    rfl
  · rw [valueAt, List.getElem?_eq_none (by omega)]
    rfl

section Changed

variable {generation : UInt32} {value : Option α}

theorem generationAt_of_slots (hslots : ∀ i, t'.slots[i]? =
    if i = k.index.toNat then some ⟨generation, value⟩ else t.slots[i]?) (index : UInt32) :
    t'.generationAt index = if index = k.index then generation else t.generationAt index := by
  rw [generationAt, hslots]
  simp only [UInt32.toNat_inj]
  split_ifs <;> rfl

theorem valueAt_of_slots (hslots : ∀ i, t'.slots[i]? =
    if i = k.index.toNat then some ⟨generation, value⟩ else t.slots[i]?) (index : UInt32) :
    t'.valueAt index = if index = k.index then value else t.valueAt index := by
  rw [valueAt, hslots]
  simp only [UInt32.toNat_inj]
  split_ifs <;> rfl

end Changed

namespace Valid

theorem live_pos (hvalid : t.Valid) (hget : t.get? h = some a) : 0 < t.live := by
  rw [hvalid.live_eq, List.countP_pos_iff]
  exact ⟨_, List.mem_of_getElem? (get?_eq_some_iff.1 hget), rfl⟩

theorem insert (hvalid : t.Valid) (hinsert : t.insert a = .ok (k, t')) : t'.Valid := by
  have hslots := slots_insert hvalid hinsert
  rcases insert_eq_ok hvalid hinsert with
    ⟨hslot, hfree, hset, hlive⟩ | ⟨-, -, hfree, hroom, rfl⟩
  · obtain ⟨hlength, hempty⟩ := List.getElem?_eq_some_iff.1 hslot
    have hnodup := hvalid.nodup
    rw [hfree, List.nodup_cons] at hnodup
    refine ⟨hnodup.2, fun index => ?_, ?_, ?_, ?_⟩
    · have hmem := hvalid.mem_free index
      rw [hfree, List.mem_cons] at hmem
      rw [hslots]
      simp only [UInt32.toNat_inj]
      split_ifs with hindex
      · simp [hindex, hnodup.1]
      · simpa [hindex] using hmem
    · rw [hlive, hset, List.countP_set hlength, hempty, hvalid.live_eq]
      simp
    · have hsum := hvalid.live_add_free
      rw [hfree, List.length_cons] at hsum
      rw [hlive, hset, List.length_set]
      omega
    · rw [hset, List.length_set]
      exact hvalid.length_le
  · refine ⟨List.nodup_nil, fun index => ?_, ?_, ?_, ?_⟩
    · have hmem := hvalid.mem_free index
      rw [hfree] at hmem
      rw [hslots]
      split_ifs
      · simp
      · exact hmem
    · simp [hvalid.live_eq]
    · have hsum := hvalid.live_add_free
      simp_all
    · simp only [List.length_append, List.length_singleton]
      omega

theorem remove (hvalid : t.Valid) (h : Handle) : (t.remove h).2.Valid := by
  cases hget : t.get? h with
  | none =>
    rw [remove_of_none hget]
    exact hvalid
  | some a =>
    have hslots := slots_remove hget
    obtain ⟨hlength, hvalue⟩ := List.getElem?_eq_some_iff.1 (get?_eq_some_iff.1 hget)
    have hpositive := hvalid.live_pos hget
    have hnot : h.index ∉ t.free := by
      rw [hvalid.mem_free, get?_eq_some_iff.1 hget]
      simp
    simp only [remove_of_some hget] at hslots ⊢
    refine ⟨List.nodup_cons.2 ⟨hnot, hvalid.nodup⟩, fun index => ?_, ?_, ?_, ?_⟩
    · rw [List.mem_cons, hslots, hvalid.mem_free]
      simp only [UInt32.toNat_inj]
      split_ifs with hindex <;> simp [hindex]
    · rw [List.countP_set hlength, hvalue, ← hvalid.live_eq]
      simp
    · have hsum := hvalid.live_add_free
      simp only [List.length_set, List.length_cons]
      omega
    · rw [List.length_set]
      exact hvalid.length_le

theorem update (hvalid : t.Valid) (h : Handle) (f : α → α) : (t.update h f).Valid := by
  cases hget : t.get? h with
  | none =>
    rw [update_of_none hget]
    exact hvalid
  | some a =>
    have hslots := slots_update hget f
    obtain ⟨hlength, hvalue⟩ := List.getElem?_eq_some_iff.1 (get?_eq_some_iff.1 hget)
    have hpositive := hvalid.live_pos hget
    simp only [update_of_some hget] at hslots ⊢
    refine ⟨hvalid.nodup, fun index => ?_, ?_, ?_, ?_⟩
    · rw [hslots, hvalid.mem_free]
      simp only [UInt32.toNat_inj]
      split_ifs with hindex
      · rw [hindex, get?_eq_some_iff.1 hget]
        simp
      · rfl
    · rw [List.countP_set hlength, hvalue, ← hvalid.live_eq]
      simp only [Option.isSome_some, if_true]
      omega
    · rw [List.length_set]
      exact hvalid.live_add_free
    · rw [List.length_set]
      exact hvalid.length_le

/-- A table refuses a value when it holds as many as it can. -/
theorem insert_eq_error_iff (hvalid : t.Valid) {e : SlotTableError} :
    t.insert a = .error e ↔ e = .exhausted ∧ maximumSlots ≤ t.size := by
  have hsum := hvalid.live_add_free
  have hlength := hvalid.length_le
  rw [SlotTable.insert_eq_error_iff, size]
  refine and_congr_right fun _ => ⟨fun ⟨hfree, hfull⟩ => ?_, fun hfull => ⟨?_, by omega⟩⟩
  · rw [hfree, List.length_nil] at hsum
    omega
  · exact List.length_eq_zero_iff.1 (by omega)

theorem index_lt (hvalid : t.Valid) (hget : t.get? h = some a) : h.index.toNat < maximumSlots :=
  Nat.lt_of_lt_of_le (List.getElem?_eq_some_iff.1 (get?_eq_some_iff.1 hget)).1 hvalid.length_le

end Valid

end SlotTable

end IdentityVault
