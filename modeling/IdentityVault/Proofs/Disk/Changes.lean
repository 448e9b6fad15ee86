import IdentityVault.Proofs.Disk.Resolution

/-! What the calls on paths do to the places of a disk, for a path that names an entry of a
directory. -/
namespace IdentityVault.FileSystem

/-- The path names an entry of a place, and the name is not too long to be bound. -/
structure Names (fs : FileSystem) (p : Path) (parent : List String) (name : String) : Prop where
  resolve : fs.resolve p = .ok (.entry parent name false)
  short : name.utf8ByteSize ≤ nameLimit

variable {fs : FileSystem} {p : Path} {parent : List String} {name : String}

theorem Names.bound? (h : fs.Names p parent name) :
    fs.bound? parent name = .ok (fs.node? (parent ++ [name])) := by
  unfold FileSystem.bound?
  rw [if_neg (Nat.not_lt.2 h.short)]

theorem Names.contentAt (h : fs.Names p parent name) :
    fs.contentAt p = match fs.standing? (parent ++ [name]) with
      | some (.file content) => .ok content
      | some .directory => .error .isADirectory
      | none => .error .notFound := by
  simp only [FileSystem.contentAt, lookup, h.resolve, h.bound?, standing?, bind, Except.bind]
  cases fs.node? (parent ++ [name]) with
  | none => rfl
  | some node => cases node <;> rfl

theorem Names.contentAt_eq_ok (h : fs.Names p parent name) {content : Bytes} :
    fs.contentAt p = .ok content ↔ fs.standing? (parent ++ [name]) = some (.file content) := by
  rw [h.contentAt]
  cases fs.standing? (parent ++ [name]) with
  | none => simp
  | some standing => cases standing <;> simp

theorem Names.isDirectory_eq_false (h : fs.Names p parent name) :
    fs.isDirectory p = false ↔ fs.standing? (parent ++ [name]) ≠ some .directory := by
  simp only [FileSystem.isDirectory, lookup, h.resolve, h.bound?, standing?, bind, Except.bind]
  cases fs.node? (parent ++ [name]) with
  | none => simp
  | some node => cases node <;> simp [Node.standing]

theorem Names.update (h : fs.Names p parent name) (change : Bytes → Bytes)
    (hfree : fs.standing? (parent ++ [name]) ≠ some .directory) :
    fs.update p change = .ok (fs.set (parent ++ [name])
      (some (.file (change (Standing.held (fs.standing? (parent ++ [name]))))))) := by
  simp only [FileSystem.update, h.resolve, h.bound?, bind, Except.bind]
  unfold standing? at hfree ⊢
  cases hn : fs.node? (parent ++ [name]) with
  | none => rfl
  | some node =>
    cases node with
    | file old => rfl
    | directory entries =>
      rw [hn] at hfree
      exact absurd rfl hfree

theorem Names.update_directory (h : fs.Names p parent name) (change : Bytes → Bytes)
    (hd : fs.standing? (parent ++ [name]) = some .directory) :
    fs.update p change = .error .isADirectory := by
  obtain ⟨entries, hn⟩ := node?_of_standing?_directory hd
  simp only [FileSystem.update, h.resolve, h.bound?, hn, bind, Except.bind, Bool.false_eq_true,
    if_false]

theorem Names.write (h : fs.Names p parent name) (content : Bytes)
    (hfree : fs.standing? (parent ++ [name]) ≠ some .directory) :
    fs.write p content = .ok (fs.set (parent ++ [name]) (some (.file content))) :=
  h.update (fun _ => content) hfree

theorem Names.write_directory (h : fs.Names p parent name) (content : Bytes)
    (hd : fs.standing? (parent ++ [name]) = some .directory) :
    fs.write p content = .error .isADirectory := h.update_directory _ hd

/-- Where a directory stands already, none is made. -/
theorem makeDirectories_of_alreadyExists (hmake : fs.makeDirectory p = .error .alreadyExists)
    (hdir : fs.isDirectory p = true) : fs.makeDirectories p = (fs, .ok ()) := by
  unfold FileSystem.makeDirectories
  split
  · rfl
  · simp only [makeChain, hmake, hdir, if_true]

theorem Names.makeDirectories (h : fs.Names p parent name)
    (hd : fs.standing? (parent ++ [name]) = some .directory) :
    fs.makeDirectories p = (fs, .ok ()) := by
  obtain ⟨entries, hn⟩ := node?_of_standing?_directory hd
  have hmake : fs.makeDirectory p = .error .alreadyExists := by
    simp only [makeDirectory, h.resolve, h.bound?, hn, bind, Except.bind]
  have hdir : fs.isDirectory p = true := by
    simp only [isDirectory, lookup, h.resolve, h.bound?, hn, bind, Except.bind]
  exact makeDirectories_of_alreadyExists hmake hdir

section Rename

variable {source target : Path} {parent' : List String} {name' : String}

/-- Renaming a file over a file, or to a free name, is two updates. -/
theorem Names.rename (h : fs.Names source parent name) (h' : fs.Names target parent' name')
    {content : Bytes} (hfile : fs.standing? (parent ++ [name]) = some (.file content))
    (hfree : fs.standing? (parent' ++ [name']) ≠ some .directory) :
    fs.rename source target = .ok ((fs.set (parent ++ [name]) none).set (parent' ++ [name'])
      (some (.file content))) := by
  unfold standing? at hfile hfree
  simp only [FileSystem.rename, h.resolve, h'.resolve, h.bound?, h'.bound?, bind, Except.bind]
  cases hsource : fs.node? (parent ++ [name]) with
  | none =>
    rw [hsource] at hfile
    cases hfile
  | some node =>
    rw [hsource] at hfile
    cases node with
    | directory entries => cases hfile
    | file found =>
      cases hfile
      cases htarget : fs.node? (parent' ++ [name']) with
      | none => rfl
      | some node' =>
        cases node' with
        | file old => rfl
        | directory entries =>
          rw [htarget] at hfree
          exact absurd rfl hfree

theorem Names.rename_absent (h : fs.Names source parent name) (h' : fs.Names target parent' name')
    (hnone : fs.standing? (parent ++ [name]) = none) :
    fs.rename source target = .error .notFound := by
  have hn : fs.node? (parent ++ [name]) = none := Option.map_eq_none_iff.1 hnone
  simp only [FileSystem.rename, h.resolve, h'.resolve, h.bound?, h'.bound?, hn, bind, Except.bind]

theorem Names.rename_directory (h : fs.Names source parent name)
    (h' : fs.Names target parent' name')
    (hd : fs.standing? (parent ++ [name]) = some .directory) :
    fs.rename source target = .error .isADirectory := by
  obtain ⟨entries, hn⟩ := node?_of_standing?_directory hd
  simp only [FileSystem.rename, h.resolve, h'.resolve, h.bound?, h'.bound?, hn, bind, Except.bind]

theorem Names.rename_over_directory (h : fs.Names source parent name)
    (h' : fs.Names target parent' name') {content : Bytes}
    (hfile : fs.standing? (parent ++ [name]) = some (.file content))
    (hd : fs.standing? (parent' ++ [name']) = some .directory) :
    fs.rename source target = .error .isADirectory := by
  obtain ⟨entries, hn⟩ := node?_of_standing?_directory hd
  unfold standing? at hfile
  simp only [FileSystem.rename, h.resolve, h'.resolve, h.bound?, h'.bound?, hn, bind, Except.bind]
  cases hsource : fs.node? (parent ++ [name]) with
  | none =>
    rw [hsource] at hfile
    cases hfile
  | some node =>
    rw [hsource] at hfile
    cases node with
    | directory entries => cases hfile
    | file found => rfl

end Rename

/-- Nothing that is put where no directory stands can take a directory away. -/
theorem keepsDirectories_set {place : List String} (hne : place ≠ [])
    (hbefore : fs.standing? place ≠ some .directory) (value : Option Node) :
    KeepsDirectories fs (fs.set place value) := by
  constructor
  · rfl
  · intro other hother
    have hprefix : ¬ place <+: other := by
      rintro ⟨rest, rfl⟩
      exact hbefore (directory_of_append hother)
    exact (Node.standing_find?_put hne hprefix).trans hother

end IdentityVault.FileSystem
