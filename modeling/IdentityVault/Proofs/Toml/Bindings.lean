import IdentityVault.Toml.Reader

/-! What a document has bound stays bound. A later line adds keys and tables, or opens the next
table of an array; the value that a path of keys leads to through tables never changes. -/
namespace IdentityVault.Toml

/-- The value that keys lead to through tables. Nothing is looked for in an array of tables, whose
last table is another one after each of its headers. -/
def Node.valueAt : List String → Node → Option Value
  | [], .value v => some v
  | key :: path, .table _ entries => (entries.lookup key).bind (Node.valueAt path)
  | _, _ => none

/-- Every value can still be found where it was. -/
def Node.Kept (before after : Node) : Prop :=
  ∀ path v, before.valueAt path = some v → after.valueAt path = some v

def Entries.Kept (before after : Entries) : Prop :=
  ∀ key node, before.lookup key = some node →
    ∃ node', after.lookup key = some node' ∧ node.Kept node'

section Kept

variable {before after entries : Entries} {key : String} {origin origin' : Origin}

theorem Node.Kept.refl (node : Node) : node.Kept node := fun _ _ h => h

theorem Node.Kept.table (h : before.Kept after) :
    (Node.table origin before).Kept (.table origin' after) := by
  intro path v hv
  cases path with
  | nil => cases hv
  | cons key path =>
    obtain ⟨node, hnode, hvalue⟩ := Option.bind_eq_some_iff.1 hv
    obtain ⟨node', hnode', hkept⟩ := h key node hnode
    exact Option.bind_eq_some_iff.2 ⟨node', hnode', hkept path v hvalue⟩

theorem Node.Kept.tables (elements elements' : List Entries) :
    (Node.tables elements).Kept (.tables elements') := by
  intro path v hv
  cases path <;> cases hv

theorem Entries.Kept.refl (entries : Entries) : entries.Kept entries :=
  fun _ node h => ⟨node, h, .refl node⟩

theorem Entries.Kept.trans {last : Entries} (h : before.Kept after) (h' : after.Kept last) :
    before.Kept last := by
  intro key node hnode
  obtain ⟨node', hnode', hkept⟩ := h key node hnode
  obtain ⟨node'', hnode'', hkept'⟩ := h' key node' hnode'
  exact ⟨node'', hnode'', fun path v hv => hkept' path v (hkept path v hv)⟩

theorem Entries.kept_append (entries more : Entries) : entries.Kept (entries ++ more) := by
  intro key node hnode
  exact ⟨node, by rw [List.lookup_append, hnode]; rfl, .refl node⟩

theorem Entries.lookup_replace (entries : Entries) (key other : String) (node : Node) :
    (entries.replace key node).lookup other =
      if other = key then (entries.lookup key).map fun _ => node else entries.lookup other := by
  induction entries with
  | nil => simp [replace]
  | cons e entries ih =>
    obtain ⟨first, old⟩ := e
    unfold replace at *
    rw [List.map_cons]
    by_cases hfirst : first = key
    · subst hfirst
      rw [if_pos rfl, List.lookup_cons, ih, List.lookup_cons, List.lookup_cons]
      by_cases hother : other = first
      · simp [hother]
      · simp [hother, beq_false_of_ne hother]
    · have hkey : (key == first) = false := beq_false_of_ne (Ne.symm hfirst)
      rw [if_neg hfirst, List.lookup_cons, ih, List.lookup_cons, List.lookup_cons, hkey]
      by_cases hother : other = first
      · simp [hother, hfirst]
      · simp [beq_false_of_ne hother]

/-- Another node for a bound key keeps what the node keeps. -/
theorem Entries.kept_replace {old new : Node} (hold : entries.lookup key = some old)
    (hkept : old.Kept new) : entries.Kept (entries.replace key new) := by
  intro other node hnode
  rw [lookup_replace]
  by_cases hother : other = key
  · subst hother
    rw [if_pos rfl, hold]
    cases hold.symm.trans hnode
    exact ⟨new, rfl, hkept⟩
  · rw [if_neg hother]
    exact ⟨node, hnode, .refl node⟩

end Kept

namespace Entries

variable {entries after : Entries} {change : Origin → Entries → Option Entries}

/-- A change of one table is a change of all above it. -/
theorem kept_descend
    (hchange : ∀ {origin before after}, change origin before = some after → before.Kept after)
    {dotted : Bool} {path : List String} {origin : Origin}
    (h : entries.descend dotted change path origin = some after) : entries.Kept after := by
  induction path generalizing entries after origin with
  | nil => exact hchange h
  | cons key path ih =>
    unfold descend at h
    split at h
    case h_1 =>
      obtain ⟨inner, -, heq⟩ := Option.bind_eq_some_iff.1 h
      cases heq
      exact kept_append _ _
    case h_2 => cases h
    case h_3 inner hlookup =>
      split at h
      case isTrue => cases h
      case isFalse =>
        obtain ⟨inner', hinner, heq⟩ := Option.bind_eq_some_iff.1 h
        cases heq
        exact kept_replace hlookup (.table (ih hinner))
    case h_4 hlookup =>
      obtain ⟨last', -, heq⟩ := Option.bind_eq_some_iff.1 h
      cases heq
      exact kept_replace hlookup (.tables _ _)
    case h_5 => cases h

theorem kept_add {key : String} {node : Node} (h : entries.add key node = some after) :
    entries.Kept after := by
  unfold add at h
  split at h
  case h_1 => cases h
  case h_2 =>
    cases h
    exact kept_append _ _

theorem kept_assign {path : List String} {key : String} {v : Value} {origin : Origin}
    (h : entries.assign path key v origin = some after) : entries.Kept after := by
  refine kept_descend ?_ h
  intro origin before after hchange
  split at hchange
  case isTrue => cases hchange
  case isFalse => exact kept_add hchange

theorem kept_openTable {key : String} (h : entries.openTable key = some after) :
    entries.Kept after := by
  unfold openTable at h
  split at h
  case h_1 =>
    cases h
    exact kept_append _ _
  case h_2 inner hlookup =>
    cases h
    exact kept_replace hlookup (.table (.refl inner))
  case h_3 => cases h

theorem kept_openElement {key : String} (h : entries.openElement key = some after) :
    entries.Kept after := by
  unfold openElement at h
  split at h
  case h_1 =>
    cases h
    exact kept_append _ _
  case h_2 hlookup =>
    cases h
    exact kept_replace hlookup (.tables _ _)
  case h_3 => cases h

end Entries

namespace Document

variable {d d' : Document} {path : List String}

theorem kept_assign {v : Value} (h : d.assign path v = some d') : d.root.Kept d'.root := by
  obtain ⟨root, hroot, heq⟩ := Option.bind_eq_some_iff.1 h
  cases heq
  refine Entries.kept_descend ?_ hroot
  intro origin before after hchange
  unfold assignKey at hchange
  split at hchange
  case h_1 => exact Entries.kept_assign hchange
  case h_2 => cases hchange

theorem kept_enter {change : String → Entries → Option Entries}
    (hchange : ∀ {key before after}, change key before = some after → before.Kept after)
    (h : d.enter path change = some d') : d.root.Kept d'.root := by
  obtain ⟨last, -, h⟩ := Option.bind_eq_some_iff.1 h
  obtain ⟨root, hroot, heq⟩ := Option.bind_eq_some_iff.1 h
  cases heq
  exact Entries.kept_descend hchange hroot

/-- A line keeps every value that was bound before it. -/
theorem kept_readLine {s rest : List Char} (h : d.readLine s = some (d', rest)) :
    d.root.Kept d'.root := by
  unfold readLine at h
  split at h
  case h_1 =>
    simp only [bind, Option.bind_eq_some_iff] at h
    obtain ⟨x, -, r₁, -, r₂, -, r₃, -, d₁, henter, heq⟩ := h
    cases heq
    exact kept_enter Entries.kept_openElement henter
  case h_2 =>
    simp only [bind, Option.bind_eq_some_iff] at h
    obtain ⟨x, -, r₁, -, r₂, -, d₁, henter, heq⟩ := h
    cases heq
    exact kept_enter Entries.kept_openTable henter
  case h_3 =>
    simp only [bind, Option.bind_eq_some_iff] at h
    obtain ⟨r, -, heq⟩ := h
    cases heq
    exact .refl _
  case h_4 | h_5 =>
    cases h
    exact .refl _
  case h_6 =>
    simp only [bind, Option.bind_eq_some_iff] at h
    obtain ⟨x, -, r₁, -, y, -, r₂, -, d₁, hassign, heq⟩ := h
    cases heq
    exact kept_assign hassign

theorem kept_readLines {fuel : Nat} {s : List Char} (h : readLines fuel d s = some d') :
    d.root.Kept d'.root := by
  induction fuel generalizing d s with
  | zero => cases h
  | succ fuel ih =>
    unfold readLines at h
    split at h
    case h_1 =>
      cases h
      exact .refl _
    case h_2 =>
      obtain ⟨⟨next, rest⟩, hline, hrest⟩ := Option.bind_eq_some_iff.1 h
      exact (kept_readLine hline).trans (ih hrest)

end Document

section Fields

theorem lookup_fields (entries : Entries) (key : String) :
    (fields entries).lookup key = (entries.lookup key).map Node.toValue := by
  induction entries with
  | nil => rfl
  | cons e entries ih =>
    obtain ⟨first, node⟩ := e
    rw [fields, List.lookup_cons, List.lookup_cons, ih]
    cases key == first <;> rfl

/-- A table in the document is a table among its fields, and so are its keys. -/
theorem exists_lookup_fields {entries : Entries} {key inner : String} {v : Value}
    (h : (Node.table .header entries).valueAt [key, inner] = some v) :
    ∃ table, (fields entries).lookup key = some (.table table) ∧ table.lookup inner = some v := by
  obtain ⟨node, hnode, hinner⟩ := Option.bind_eq_some_iff.1 h
  cases node with
  | value v' => cases hinner
  | tables elements => cases hinner
  | table origin below =>
    obtain ⟨node, hbelow, hvalue⟩ := Option.bind_eq_some_iff.1 hinner
    cases node with
    | table origin' entries' => cases hvalue
    | tables elements => cases hvalue
    | value v' =>
      cases hvalue
      refine ⟨fields below, ?_, ?_⟩
      · rw [lookup_fields, hnode, Option.map_some, Node.toValue]
      · rw [lookup_fields, hbelow, Option.map_some, Node.toValue]

end Fields

end IdentityVault.Toml
