import IdentityVault.Engine.Handle

/-! A table of values that are reached through handles. A slot is used again after its value was
removed; its generation then tells old handles from new ones. -/
namespace IdentityVault

structure Slot (α : Type) where
  generation : UInt32
  value : Option α

/-- The slots, the numbers of the empty ones with the latest in front, and the number of values. -/
structure SlotTable (α : Type) where
  slots : List (Slot α)
  free : List UInt32
  live : Nat

inductive SlotTableError where
  | outOfMemory
  | exhausted
  deriving DecidableEq

def SlotTableError.message : SlotTableError → String
  | .outOfMemory => "Handle table allocation failed: memory allocation failed because the " ++
      "computed capacity exceeded the collection's maximum"
  | .exhausted => "Handle table is full"

namespace SlotTable

variable {α : Type}

/-- The most slots, so that a slot number plus one fits half a word. -/
def maximumSlots : Nat := 4294967294

def empty : SlotTable α := ⟨[], [], 0⟩

/-- Put a value into the slot emptied last, or into a new one. -/
def insert (t : SlotTable α) (value : α) : Except SlotTableError (Handle × SlotTable α) :=
  match t.free with
  | index :: free =>
      let generation := (t.slots[index.toNat]?.map Slot.generation).getD 0
      .ok (⟨index, generation⟩,
        ⟨t.slots.modify index.toNat fun s => { s with value := some value }, free, t.live + 1⟩)
  | [] =>
      if maximumSlots ≤ t.slots.length then .error .exhausted
      else
        .ok (⟨UInt32.ofNat t.slots.length, 0⟩, ⟨t.slots ++ [⟨0, some value⟩], [], t.live + 1⟩)

/-- The slot of a handle, unless it is of another generation. -/
def slot? (t : SlotTable α) (h : Handle) : Option (Slot α) :=
  t.slots[h.index.toNat]?.filter fun s => s.generation = h.generation

def get? (t : SlotTable α) (h : Handle) : Option α := (t.slot? h).bind Slot.value

/-- Change the value of a handle. -/
def update (t : SlotTable α) (h : Handle) (f : α → α) : SlotTable α :=
  match t.get? h with
  | some a => { t with slots := t.slots.set h.index.toNat ⟨h.generation, some (f a)⟩ }
  | none => t

/-- Take the value of a handle out. The handle and its copies are stale from then on. -/
def remove (t : SlotTable α) (h : Handle) : Option α × SlotTable α :=
  match t.get? h with
  | some a =>
      (some a, ⟨t.slots.set h.index.toNat ⟨h.generation + 1, none⟩, h.index :: t.free, t.live - 1⟩)
  | none => (none, t)

def size (t : SlotTable α) : Nat := t.live

end SlotTable

end IdentityVault
