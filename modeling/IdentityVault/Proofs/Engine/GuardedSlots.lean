import IdentityVault.Proofs.Engine.HandleMap
import IdentityVault.Proofs.Engine.RawHandles

/-! A table in use is in order: its slots, its free list and its count agree. Insertions and
removals that check every slot and every difference they rely on find nothing wrong with such a
table, and do what they do unchecked. -/
namespace IdentityVault

/-- What an operation meets in a table that is not in order. -/
inductive TableFault where
  | outOfBounds
  | underflow
  /-- A value that an insertion would overwrite. -/
  | occupied

/-- What the allocator grants to an insertion that adds a slot. -/
structure Memory where
  forSlot : Bool
  /-- Whether the free list gets room for so many more numbers. -/
  forNumbers : Nat → Bool

variable {α : Type}

namespace SlotTable

/-- A difference of counts, unless it is negative. -/
def difference (m n : Nat) : Except TableFault Nat :=
  if n ≤ m then .ok (m - n) else .error .underflow

/-- Put a value into a slot that has to be there and to be empty. -/
def fill (t : SlotTable α) (index : UInt32) (a : α) : Except TableFault (Handle × SlotTable α) :=
  match t.slots[index.toNat]? with
  | none => .error .outOfBounds
  | some ⟨_, some _⟩ => .error .occupied
  | some ⟨generation, none⟩ => .ok (⟨index, generation⟩,
      { t with slots := t.slots.set index.toNat ⟨generation, some a⟩, live := t.live + 1 })

/-- Add an empty slot, with room for its number and for all others in the free list, and fill it. -/
def growGuarded (t : SlotTable α) (memory : Memory) (a : α) :
    Except TableFault (Except SlotTableError (Handle × SlotTable α)) :=
  if memory.forSlot then do
    let numbers ← difference (t.slots.length + 1) t.free.length
    if memory.forNumbers numbers then do
      let grown : SlotTable α := { t with slots := t.slots ++ [⟨0, none⟩] }
      let last ← difference grown.slots.length 1
      (grown.fill (.ofNat last) a).map .ok
    else .ok (.error .outOfMemory)
  else .ok (.error .outOfMemory)

/-- `insert` with its checks. -/
def insertGuarded (t : SlotTable α) (memory : Memory) (a : α) :
    Except TableFault (Except SlotTableError (Handle × SlotTable α)) :=
  match t.free with
  | index :: free => (fill { t with free := free } index a).map .ok
  | [] =>
      if maximumSlots ≤ t.slots.length then .ok (.error .exhausted) else t.growGuarded memory a

/-- `remove` with its check. -/
def removeGuarded (t : SlotTable α) (h : Handle) : Except TableFault (Option α × SlotTable α) :=
  match t.get? h with
  | some a => do
      let live ← difference t.live 1
      .ok (some a,
        ⟨t.slots.set h.index.toNat ⟨h.generation + 1, none⟩, h.index :: t.free, live⟩)
  | none => .ok (none, t)

/-- The allocator refuses an insertion that adds a slot. -/
def Starved (t : SlotTable α) (memory : Memory) : Prop :=
  t.free = [] ∧ t.slots.length < maximumSlots ∧
    ¬(memory.forSlot ∧ memory.forNumbers (t.slots.length + 1))

instance (t : SlotTable α) (memory : Memory) : Decidable (t.Starved memory) :=
  inferInstanceAs (Decidable (_ ∧ _))

/-- `insert` where memory may run out. -/
def insertWithin (t : SlotTable α) (memory : Memory) (a : α) :
    Except SlotTableError (Handle × SlotTable α) :=
  if t.Starved memory then .error .outOfMemory else t.insert a

variable {t t' : SlotTable α} {memory : Memory} {past : List (TableDeed α)} {d : TableDeed α}
  {h : Handle} {a : α}

theorem difference_of_le {m n : Nat} (hle : n ≤ m) : difference m n = .ok (m - n) := if_pos hle

theorem fill_of_empty {index generation : UInt32}
    (hslot : t.slots[index.toNat]? = some ⟨generation, none⟩) (a : α) :
    t.fill index a = .ok (⟨index, generation⟩,
      { t with slots := t.slots.set index.toNat ⟨generation, some a⟩, live := t.live + 1 }) := by
  simp only [fill, hslot]

namespace Valid

/-- The slot that is added is the last one and is empty. -/
theorem growGuarded_eq (hvalid : t.Valid) (hfree : t.free = [])
    (hroom : t.slots.length < maximumSlots) (memory : Memory) (a : α) :
    t.growGuarded memory a = .ok (t.insertWithin memory a) := by
  have hnumbers : difference (t.slots.length + 1) t.free.length = .ok (t.slots.length + 1) := by
    rw [hfree]
    exact difference_of_le (Nat.zero_le _)
  have hlast : difference (t.slots ++ [(⟨0, none⟩ : Slot α)]).length 1 = .ok t.slots.length := by
    rw [List.length_append, List.length_singleton]
    exact difference_of_le (Nat.le_add_left _ _)
  have hindex : (UInt32.ofNat t.slots.length).toNat = t.slots.length :=
    hvalid.toNat_ofNat_of_le (Nat.le_refl _)
  have hempty : (t.slots ++ [(⟨0, none⟩ : Slot α)])[(UInt32.ofNat t.slots.length).toNat]? =
      some ⟨0, none⟩ := by
    rw [hindex, List.getElem?_concat_length]
  have hfill := fill_of_empty (t := { t with slots := t.slots ++ [⟨0, none⟩] }) hempty a
  cases hslot : memory.forSlot with
  | false => simp [growGuarded, insertWithin, Starved, hslot, hfree, hroom]
  | true =>
    simp only [growGuarded, hslot, hnumbers, hlast, if_true, bind, Except.bind]
    cases hgranted : memory.forNumbers (t.slots.length + 1) with
    | false => simp [insertWithin, Starved, hslot, hgranted, hfree, hroom]
    | true =>
      have hfed : ¬t.Starved memory := fun hstarved => hstarved.2.2 ⟨hslot, hgranted⟩
      rw [if_pos rfl, hfill, insertWithin, if_neg hfed, insert_of_room hfree hroom, hindex]
      simp [Except.map, hfree]

/-- No check of an insertion fails, whether it uses a slot again or adds one. -/
theorem insertGuarded_eq (hvalid : t.Valid) (memory : Memory) (a : α) :
    t.insertGuarded memory a = .ok (t.insertWithin memory a) := by
  cases hfree : t.free with
  | cons index free =>
    obtain ⟨generation, hslot⟩ := (hvalid.mem_free index).1 (by simp [hfree])
    have hfed : ¬t.Starved memory := by
      intro hstarved
      have hnil := hstarved.1
      rw [hfree] at hnil
      cases hnil
    have hfill := fill_of_empty (t := { t with free := free }) hslot a
    simp only [insertGuarded, hfree, hfill, insertWithin, if_neg hfed, insert_of_free hfree hslot]
    rfl
  | nil =>
    simp only [insertGuarded, hfree]
    split_ifs with hfull
    · have hfed : ¬t.Starved memory := fun hstarved => hstarved.2.1.not_ge hfull
      rw [insertWithin, if_neg hfed, SlotTable.insert_eq_error_iff.2 ⟨rfl, hfree, hfull⟩]
    · exact hvalid.growGuarded_eq hfree (Nat.lt_of_not_le hfull) memory a

theorem removeGuarded_eq (hvalid : t.Valid) (h : Handle) :
    t.removeGuarded h = .ok (t.remove h) := by
  cases hget : t.get? h with
  | none => simp only [removeGuarded, hget, remove_of_none hget]
  | some a =>
    have hlive : difference t.live 1 = .ok (t.live - 1) := difference_of_le (hvalid.live_pos hget)
    simp only [removeGuarded, hget, hlive, remove_of_some hget, bind, Except.bind]

theorem step (hvalid : t.Valid) (hstep : Step t d t') : t'.Valid := by
  cases hstep with
  | insert taken => exact hvalid.insert taken
  | refuse | get => exact hvalid
  | change h f => exact hvalid.update h f
  | remove h => exact hvalid.remove h

/-- The free list is empty where every slot holds a value. -/
theorem free_eq_nil_iff (hvalid : t.Valid) : t.free = [] ↔ ∀ s ∈ t.slots, s.value.isSome := by
  have hsum := hvalid.live_add_free
  rw [← List.length_eq_zero_iff, ← List.countP_eq_length, ← hvalid.live_eq]
  omega

/-- A slot number is a position, since all positions fit one. -/
theorem mem_positions_iff (hvalid : t.Valid) (i : Nat) :
    i ∈ t.free.map UInt32.toNat ↔ ∃ generation, t.slots[i]? = some ⟨generation, none⟩ := by
  rw [List.mem_map]
  constructor
  · rintro ⟨index, hindex, rfl⟩
    exact (hvalid.mem_free index).1 hindex
  · rintro ⟨generation, hslot⟩
    have hi := (List.getElem?_eq_some_iff.1 hslot).1
    have hindex := hvalid.toNat_ofNat_of_le hi.le
    refine ⟨.ofNat i, (hvalid.mem_free _).2 ⟨generation, ?_⟩, hindex⟩
    rw [hindex, hslot]

theorem insertWithin_eq_exhausted_iff (hvalid : t.Valid) (memory : Memory) (a : α) :
    t.insertWithin memory a = .error .exhausted ↔
      t.slots.length = maximumSlots ∧ ∀ s ∈ t.slots, s.value.isSome := by
  have hlength := hvalid.length_le
  rw [← hvalid.free_eq_nil_iff, insertWithin]
  split_ifs with hstarved
  · simp only [Except.error.injEq, reduceCtorEq, false_iff]
    intro hfull
    exact hstarved.2.1.ne hfull.1
  · rw [SlotTable.insert_eq_error_iff]
    constructor
    · rintro ⟨-, hempty, hfull⟩
      exact ⟨Nat.le_antisymm hlength hfull, hempty⟩
    · rintro ⟨hfull, hempty⟩
      exact ⟨rfl, hempty, hfull.ge⟩

theorem toRaw_mod (hvalid : t.Valid) {i : Nat} (hslot : i < t.slots.length)
    (generation : UInt32) : (Handle.toRaw ⟨.ofNat i, generation⟩).toNat % 2 ^ 32 = i + 1 := by
  have hlength := hvalid.length_le
  have hindex : (UInt32.ofNat i).toNat = i := hvalid.toNat_ofNat_of_le hslot.le
  have hle : (UInt32.ofNat i).toNat ≤ maximumSlots := by omega
  have hraw := Handle.toNat_toRaw (h := ⟨.ofNat i, generation⟩) hle
  rw [hraw, Nat.mul_add_mod, hindex]
  rw [maximumSlots] at hlength
  omega

end Valid

theorem insert_of_insertWithin (htaken : t.insertWithin memory a = .ok (h, t')) :
    t.insert a = .ok (h, t') := by
  unfold insertWithin at htaken
  split_ifs at htaken
  exact htaken

/-- One call of a table, where an insertion may find no memory. -/
inductive StrainedStep : SlotTable α → TableDeed α → SlotTable α → Prop where
  | served {t t' : SlotTable α} {d : TableDeed α} (taken : Step t d t') : StrainedStep t d t'
  | starved {t : SlotTable α} {a : α} (memory : Memory) (starved : t.Starved memory) :
      StrainedStep t (.insert a, .refused .outOfMemory) t

abbrev StrainedRun : List (TableDeed α) → SlotTable α → Prop := History StrainedStep .empty

theorem Valid.strainedStep (hvalid : t.Valid) (hstep : StrainedStep t d t') : t'.Valid := by
  cases hstep with
  | served taken => exact hvalid.step taken
  | starved => exact hvalid

theorem StrainedRun.valid (hrun : StrainedRun past t) : t.Valid := by
  induction hrun with
  | start => exact valid_empty
  | next _ taken ih => exact ih.strainedStep taken

/-- The slots, the free list and the count of a table agree, and its operations can rely on them. -/
structure InOrder (t : SlotTable α) : Prop where
  nodup_free : t.free.Nodup
  /-- The numbers in the free list are the positions of the empty slots. -/
  mem_free_iff (i : Nat) :
    i ∈ t.free.map UInt32.toNat ↔ ∃ generation, t.slots[i]? = some ⟨generation, none⟩
  free_lt (i : Nat) (free : i ∈ t.free.map UInt32.toNat) : i < t.slots.length
  live_eq_occupied : t.live = t.slots.countP fun s => s.value.isSome
  live_eq_sub : t.live = t.slots.length - t.free.length
  length_free_le : t.free.length ≤ t.slots.length
  insertGuarded_eq (memory : Memory) (a : α) :
    t.insertGuarded memory a = .ok (t.insertWithin memory a)
  removeGuarded_eq (h : Handle) : t.removeGuarded h = .ok (t.remove h)
  /-- An insertion fills a slot without a value and leaves the other slots as they are. -/
  slots_insert (memory : Memory) (a : α) (h : Handle) (t' : SlotTable α)
    (taken : t.insertWithin memory a = .ok (h, t')) : t.valueAt h.index = none ∧
      ∀ i, t'.slots[i]? =
        if i = h.index.toNat then some ⟨h.generation, some a⟩ else t.slots[i]?
  insert_eq_exhausted_iff (memory : Memory) (a : α) : t.insertWithin memory a = .error .exhausted ↔
    t.slots.length = maximumSlots ∧ ∀ s ∈ t.slots, s.value.isSome
  /-- The position of a slot plus one is the lower half of its raw handles. -/
  toRaw_mod (i : Nat) (slot : i < t.slots.length) (generation : UInt32) :
    (Handle.toRaw ⟨.ofNat i, generation⟩).toNat % 2 ^ 32 = i + 1

/-- Calls with any handles, in any order and with any memory, leave a table in order. -/
theorem StrainedRun.inOrder (hrun : StrainedRun past t) : t.InOrder := by
  have hvalid := hrun.valid
  have hsum := hvalid.live_add_free
  refine {
    nodup_free := hvalid.nodup
    mem_free_iff := hvalid.mem_positions_iff
    free_lt := fun i free => ?_
    live_eq_occupied := hvalid.live_eq
    live_eq_sub := by omega
    length_free_le := by omega
    insertGuarded_eq := hvalid.insertGuarded_eq
    removeGuarded_eq := hvalid.removeGuarded_eq
    slots_insert := fun memory a h t' taken => ?_
    insert_eq_exhausted_iff := hvalid.insertWithin_eq_exhausted_iff
    toRaw_mod := fun i slot => hvalid.toRaw_mod slot }
  · obtain ⟨generation, hslot⟩ := (hvalid.mem_positions_iff i).1 free
    exact (List.getElem?_eq_some_iff.1 hslot).1
  · have hinsert := insert_of_insertWithin taken
    exact ⟨valueAt_of_insert hvalid hinsert, SlotTable.slots_insert hvalid hinsert⟩

/-- An insertion that finds no memory and a second removal by one handle leave the table as it
is. -/
theorem inOrder_of_removed_twice :
    StrainedRun [(.remove ⟨0, 0⟩, .found none), (.remove ⟨0, 0⟩, .found (some 7)),
      (.insert 8, .refused .outOfMemory), (.insert 7, .issued ⟨0, 0⟩)]
      (⟨[⟨1, none⟩], [0], 0⟩ : SlotTable Nat) ∧
    InOrder (⟨[⟨1, none⟩], [0], 0⟩ : SlotTable Nat) := by
  have hstarved : Starved (⟨[⟨0, some 7⟩], [], 1⟩ : SlotTable Nat) ⟨false, fun _ => true⟩ := by
    decide
  have hrun : StrainedRun [(.insert 8, .refused .outOfMemory), (.insert 7, .issued ⟨0, 0⟩)]
      (⟨[⟨0, some 7⟩], [], 1⟩ : SlotTable Nat) :=
    .next (.next .start (.served (.insert rfl))) (.starved _ hstarved)
  have hremoved := (hrun.next (.served (.remove ⟨0, 0⟩))).next (.served (.remove ⟨0, 0⟩))
  exact ⟨hremoved, StrainedRun.inOrder hremoved⟩

end SlotTable

end IdentityVault
