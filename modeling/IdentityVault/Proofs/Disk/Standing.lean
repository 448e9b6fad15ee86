import IdentityVault.Disk.FileSystem

/-! What stands at the places of a disk: a map from lists of names. Putting a file, or taking one
away, changes it at one place only. -/
namespace IdentityVault

/-- A directory, whose entries are left out, or a file. -/
inductive Standing where
  | directory
  | file (content : Bytes)
  deriving DecidableEq

/-- The bytes at a place; a free place has none. -/
def Standing.held : Option Standing → Bytes
  | some (.file content) => content
  | _ => []

namespace Node

def standing : Node → Standing
  | .file content => .file content
  | .directory _ => .directory

theorem lookup_filter_ne {name other : String} (h : other ≠ name)
    (entries : List (String × Node)) :
    (entries.filter fun e => e.1 ≠ name).lookup other = entries.lookup other := by
  induction entries with
  | nil => rfl
  | cons e rest ih =>
    obtain ⟨key, node⟩ := e
    by_cases hk : key = name
    · have hne : (other == key) = false := beq_false_of_ne (hk ▸ h)
      rw [List.filter_cons_of_neg (by simpa using hk), List.lookup_cons, hne, ih]
    · rw [List.filter_cons_of_pos (by simpa using hk), List.lookup_cons, List.lookup_cons, ih]

theorem lookup_filter_self (name : String) (entries : List (String × Node)) :
    (entries.filter fun e => e.1 ≠ name).lookup name = none := by
  induction entries with
  | nil => rfl
  | cons e rest ih =>
    obtain ⟨key, node⟩ := e
    by_cases hk : key = name
    · rw [List.filter_cons_of_neg (by simpa using hk), ih]
    · have hne : (name == key) = false := beq_false_of_ne (Ne.symm hk)
      rw [List.filter_cons_of_pos (by simpa using hk), List.lookup_cons, hne, ih]

theorem setEntry_cons_of_ne {name key : String} (h : key ≠ name) (value : Option Node)
    (node : Node) (rest : List (String × Node)) :
    setEntry name value ((key, node) :: rest) = (key, node) :: setEntry name value rest := by
  cases value <;> rw [setEntry, if_neg h]

theorem lookup_setEntry_self (name : String) (value : Option Node)
    (entries : List (String × Node)) : (setEntry name value entries).lookup name = value := by
  induction entries with
  | nil => cases value <;> simp [setEntry]
  | cons e rest ih =>
    obtain ⟨key, node⟩ := e
    by_cases hk : key = name
    · cases value with
      | none =>
        unfold setEntry
        rw [if_pos hk]
        exact lookup_filter_self name rest
      | some new => simp [setEntry, hk]
    · have hne : (name == key) = false := beq_false_of_ne (Ne.symm hk)
      rw [setEntry_cons_of_ne hk, List.lookup_cons, hne, ih]

theorem lookup_setEntry_of_ne {name other : String} (h : other ≠ name) (value : Option Node)
    (entries : List (String × Node)) :
    (setEntry name value entries).lookup other = entries.lookup other := by
  have hne : (other == name) = false := beq_false_of_ne h
  induction entries with
  | nil => cases value <;> simp [setEntry, h]
  | cons e rest ih =>
    obtain ⟨key, node⟩ := e
    by_cases hk : key = name
    · have hkey : (other == key) = false := hk ▸ hne
      cases value with
      | none =>
        unfold setEntry
        rw [if_pos hk, List.lookup_cons, hkey]
        exact lookup_filter_ne h rest
      | some new => rw [setEntry, if_pos hk, List.lookup_cons, List.lookup_cons, hne, hkey]
    · rw [setEntry_cons_of_ne hk, List.lookup_cons, List.lookup_cons, ih]

@[simp] theorem find?_nil (node : Node) : node.find? [] = some node := by
  cases node <;> rfl

@[simp] theorem find?_directory_cons (entries : List (String × Node)) (name : String)
    (rest : List String) :
    (directory entries).find? (name :: rest) =
      (entries.lookup name).bind fun child => child.find? rest := rfl

theorem find?_file (content : Bytes) {place : List String} (h : place ≠ []) :
    (file content).find? place = none := by
  cases place with
  | nil => exact absurd rfl h
  | cons name rest => rfl

theorem find?_append (node : Node) (place rest : List String) :
    node.find? (place ++ rest) = (node.find? place).bind fun child => child.find? rest := by
  induction place generalizing node with
  | nil => simp
  | cons name place ih =>
    cases node with
    | file content => rfl
    | directory entries =>
      simp only [List.cons_append, find?_directory_cons]
      cases entries.lookup name with
      | none => rfl
      | some child => exact ih child

theorem put_cons (value : Option Node) (name : String) {rest : List String} (h : rest ≠ [])
    {entries : List (String × Node)} {child : Node} (hchild : entries.lookup name = some child) :
    put value (name :: rest) (directory entries) =
      directory (setEntry name (some (put value rest child)) entries) := by
  cases rest with
  | nil => exact absurd rfl h
  | cons next rest => simp [put, hchild]

/-- The place that was written holds what was written. -/
theorem find?_put_self (value : Option Node) {parent : List String} (name : String) {node : Node}
    {entries : List (String × Node)} (h : node.find? parent = some (.directory entries)) :
    (put value (parent ++ [name]) node).find? (parent ++ [name]) = value := by
  induction parent generalizing node with
  | nil =>
    rw [find?_nil] at h
    cases Option.some.inj h
    simp only [List.nil_append, put, find?_directory_cons, lookup_setEntry_self]
    cases value with
    | none => rfl
    | some new => exact find?_nil new
  | cons first parent ih =>
    cases node with
    | file content => cases h
    | directory above =>
      rw [find?_directory_cons] at h
      cases hchild : above.lookup first with
      | none =>
        rw [hchild] at h
        cases h
      | some child =>
        rw [hchild] at h
        rw [List.cons_append, put_cons value first (by simp) hchild, find?_directory_cons,
          lookup_setEntry_self]
        exact ih h

/-- Every other place that is not below the one that was written keeps what stands there. -/
theorem standing_find?_put {value : Option Node} {place other : List String} {node : Node}
    (hne : place ≠ []) (h : ¬ place <+: other) :
    ((put value place node).find? other).map standing = (node.find? other).map standing := by
  induction place generalizing node other with
  | nil => exact absurd rfl hne
  | cons name rest ih =>
    cases node with
    | file content => rfl
    | directory entries =>
      cases other with
      | nil =>
        cases rest with
        | nil => rfl
        | cons next rest =>
          cases hchild : entries.lookup name with
          | none => simp [put, hchild]
          | some child =>
            rw [put_cons value name (by simp) hchild]
            rfl
      | cons key other =>
        rw [find?_directory_cons]
        cases rest with
        | nil =>
          have hk : key ≠ name := by
            intro hk
            exact h ⟨other, by rw [hk]; rfl⟩
          simp only [put, find?_directory_cons, lookup_setEntry_of_ne hk]
        | cons next rest =>
          cases hchild : entries.lookup name with
          | none => simp [put, hchild]
          | some child =>
            rw [put_cons value name (by simp) hchild, find?_directory_cons]
            by_cases hk : key = name
            · subst hk
              rw [lookup_setEntry_self, hchild]
              apply ih (by simp)
              intro hprefix
              exact h ((List.cons_prefix_cons).2 ⟨rfl, hprefix⟩)
            · rw [lookup_setEntry_of_ne hk]

end Node

namespace FileSystem

def standing? (fs : FileSystem) (place : List String) : Option Standing :=
  (fs.node? place).map Node.standing

theorem node?_of_standing?_directory {fs : FileSystem} {place : List String}
    (h : fs.standing? place = some .directory) :
    ∃ entries, fs.node? place = some (.directory entries) := by
  unfold standing? at h
  cases hn : fs.node? place with
  | none =>
    rw [hn] at h
    cases h
  | some node =>
    cases node with
    | directory entries => exact ⟨entries, rfl⟩
    | file content =>
      rw [hn] at h
      cases h

theorem standing?_below {fs : FileSystem} {place rest : List String}
    (h : fs.standing? place ≠ some .directory) (hrest : rest ≠ []) :
    fs.standing? (place ++ rest) = none := by
  unfold standing? node? at *
  rw [Node.find?_append]
  cases hn : fs.root.find? place with
  | none => rfl
  | some node =>
    cases node with
    | directory entries => simp [hn, Node.standing] at h
    | file content => simp [Node.find?_file content hrest]

/-- What a directory stands below is a directory too. -/
theorem directory_of_append {fs : FileSystem} {place rest : List String}
    (h : fs.standing? (place ++ rest) = some .directory) :
    fs.standing? place = some .directory := by
  by_cases hrest : rest = []
  · rwa [hrest, List.append_nil] at h
  · by_cases hplace : fs.standing? place = some .directory
    · exact hplace
    · rw [standing?_below hplace hrest] at h
      cases h

/-- Putting a file in a directory, or taking one away, is an update at that place. -/
theorem standing?_set {fs : FileSystem} {parent : List String} {name : String}
    (hparent : fs.standing? parent = some .directory)
    (hbefore : fs.standing? (parent ++ [name]) ≠ some .directory) (content : Option Bytes)
    (other : List String) :
    (fs.set (parent ++ [name]) (content.map .file)).standing? other =
      if other = parent ++ [name] then content.map .file else fs.standing? other := by
  obtain ⟨entries, hentries⟩ := node?_of_standing?_directory hparent
  have hself : (fs.set (parent ++ [name]) (content.map .file)).node? (parent ++ [name]) =
      content.map .file := Node.find?_put_self _ name hentries
  have hstanding : (fs.set (parent ++ [name]) (content.map .file)).standing? (parent ++ [name]) =
      content.map .file := by
    unfold standing?
    rw [hself]
    cases content <;> rfl
  by_cases hp : parent ++ [name] <+: other
  · obtain ⟨rest, rfl⟩ := hp
    by_cases hrest : rest = []
    · rw [hrest, List.append_nil, if_pos rfl, hstanding]
    · rw [if_neg (by simpa using hrest), standing?_below hbefore hrest]
      apply standing?_below _ hrest
      rw [hstanding]
      cases content <;> simp
  · have hne : other ≠ parent ++ [name] := by
      intro heq
      exact hp (heq ▸ List.prefix_rfl)
    rw [if_neg hne]
    exact Node.standing_find?_put (by simp) hp

end FileSystem

end IdentityVault
