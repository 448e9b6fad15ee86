import IdentityVault.Proofs.Disk.Changes
import Mathlib.Tactic.SplitIfs

/-! Which place a path leads to, and what is found there. Where no directory goes away the path
leads to the same place, and it finds the same as long as that place is left alone. -/
namespace IdentityVault.FileSystem

/-- The names from the root to what a path means. -/
def Place.names : Place → List String
  | .directory place => place
  | .entry parent name _ => parent ++ [name]

/-- The place that a path leads to. -/
def placeOf (fs : FileSystem) (p : Path) : Except OsError (List String) :=
  (fs.resolve p).map Place.names

/-- Two paths that lead to one place. -/
def SamePlace (fs : FileSystem) (p q : Path) : Prop :=
  ∃ place, fs.placeOf p = .ok place ∧ fs.placeOf q = .ok place

variable {fs before after : FileSystem} {p : Path} {x : Place} {content : Bytes}

/-- A path that could be used leads where it led. -/
theorem KeepsDirectories.resolve (h : KeepsDirectories before after)
    (hok : before.resolve p = .ok x) : after.resolve p = .ok x := by
  unfold FileSystem.resolve at *
  rw [h.workingDirectory]
  generalize (if p.isAbsolute then [] else before.workingDirectory) = start at *
  dsimp only at *
  split_ifs at * with hzero hempty hsize hlast
  · cases hwalk : p.names.foldlM before.enter start with
    | error e =>
      rw [hwalk] at hok
      cases hok
    | ok place =>
      rw [hwalk] at hok
      rw [h.foldlM_enter hwalk]
      exact hok
  · cases hwalk : p.names.dropLast.foldlM before.enter start with
    | error e =>
      rw [hwalk] at hok
      cases hok
    | ok place =>
      rw [hwalk] at hok
      rw [h.foldlM_enter hwalk]
      exact hok

theorem names_of_placeOf {name : String} {place : List String} (hname : Path.Plain name)
    (h : fs.placeOf (Path.join p name) = .ok place) :
    ∃ parent, place = parent ++ [name] ∧ fs.Names (Path.join p name) parent name := by
  unfold placeOf at h
  cases hresolve : fs.resolve (Path.join p name) with
  | error e =>
    rw [hresolve] at h
    cases h
  | ok x =>
    obtain ⟨parent, -, rfl⟩ := resolve_join_eq_ok hname hresolve
    rw [hresolve] at h
    cases h
    exact ⟨parent, rfl, hresolve, hname.short⟩

theorem Names.keepsDirectories {parent : List String} {name : String}
    (h : before.Names p parent name) (hkeep : KeepsDirectories before after) :
    after.Names p parent name := ⟨hkeep.resolve h.resolve, h.short⟩

/-- What a path finds, entries left out. -/
def standingAt (fs : FileSystem) (p : Path) : Except OsError Standing :=
  (fs.lookup p).map Node.standing

theorem exist_eq (fs : FileSystem) (p : Path) : fs.exist p = (fs.standingAt p).isOk := by
  unfold exist standingAt
  cases fs.lookup p <;> rfl

theorem contentAt_eq (fs : FileSystem) (p : Path) :
    fs.contentAt p = match fs.standingAt p with
      | .ok (.file content) => .ok content
      | .ok .directory => .error .isADirectory
      | .error e => .error e := by
  simp only [contentAt, standingAt, bind, Except.bind, Except.map]
  cases fs.lookup p with
  | error e => rfl
  | ok node => cases node <;> rfl

theorem contentAt_eq_ok_iff : fs.contentAt p = .ok content ↔
    fs.standingAt p = .ok (.file content) := by
  rw [contentAt_eq]
  cases fs.standingAt p with
  | error e => simp
  | ok standing => cases standing <;> simp

/-- What is found where a path leads. -/
def Place.found (standing : List String → Option Standing) : Place → Except OsError Standing
  | .directory place =>
      match standing place with
      | some found => .ok found
      | none => .error .notFound
  | .entry parent name slash =>
      if nameLimit < name.utf8ByteSize then .error .nameTooLong
      else match standing (parent ++ [name]) with
        | some (.file content) => if slash then .error .notADirectory else .ok (.file content)
        | some .directory => .ok .directory
        | none => .error .notFound

theorem standingAt_of_resolve (hresolve : fs.resolve p = .ok x) :
    fs.standingAt p = x.found fs.standing? := by
  unfold standingAt lookup
  rw [hresolve]
  cases x with
  | directory place =>
    simp only [bind, Except.bind, Place.found, standing?]
    cases fs.node? place <;> rfl
  | entry parent name slash =>
    simp only [bind, Except.bind, FileSystem.bound?, Place.found, standing?]
    by_cases hlong : nameLimit < name.utf8ByteSize
    · simp only [if_pos hlong]
      rfl
    · simp only [if_neg hlong]
      cases fs.node? (parent ++ [name]) with
      | none => rfl
      | some node =>
        cases node with
        | directory entries => rfl
        | file content => cases slash <;> rfl

theorem resolve_of_standingAt {found : Standing} (h : fs.standingAt p = .ok found) :
    ∃ x, fs.resolve p = .ok x := by
  cases hresolve : fs.resolve p with
  | error e =>
    simp only [standingAt, lookup, hresolve, bind, Except.bind] at h
    cases h
  | ok x => exact ⟨x, rfl⟩

/-- What is found depends on what stands at one place, and on nothing else of the disk. -/
theorem Place.found_congr {standing standing' : List String → Option Standing}
    (h : standing' x.names = standing x.names) : x.found standing' = x.found standing := by
  cases x with
  | directory place =>
    simp only [Place.names] at h
    simp only [found, h]
  | entry parent name slash =>
    simp only [Place.names] at h
    simp only [found, h]

theorem Place.standing_of_found_directory {standing : List String → Option Standing}
    (h : x.found standing = .ok .directory) : standing x.names = some .directory := by
  cases x with
  | directory place =>
    simp only [found] at h
    split at h
    case h_1 hstanding => exact Except.ok.inj h ▸ hstanding
    case h_2 => cases h
  | entry parent name slash =>
    simp only [found] at h
    by_cases hlong : nameLimit < name.utf8ByteSize
    · rw [if_pos hlong] at h
      cases h
    · rw [if_neg hlong] at h
      split at h
      case h_1 => split_ifs at h; cases h
      case h_2 hstanding => exact hstanding
      case h_3 => cases h

theorem exist_congr (h : before.resolve p = .ok x) (h' : after.resolve p = .ok x)
    (halone : after.standing? x.names = before.standing? x.names) :
    after.exist p = before.exist p := by
  rw [exist_eq, exist_eq, standingAt_of_resolve h, standingAt_of_resolve h',
    Place.found_congr halone]

/-- A path that found something finds the same while its place is left alone. -/
theorem KeepsDirectories.standingAt {found : Standing} (h : KeepsDirectories before after)
    (hfound : before.standingAt p = .ok found)
    (halone : ∀ place, before.placeOf p = .ok place →
      after.standing? place = before.standing? place) : after.standingAt p = .ok found := by
  obtain ⟨x, hresolve⟩ := resolve_of_standingAt hfound
  have hplace : before.placeOf p = .ok x.names := by
    unfold placeOf
    rw [hresolve]
    rfl
  rw [standingAt_of_resolve (h.resolve hresolve), Place.found_congr (halone _ hplace),
    ← standingAt_of_resolve hresolve, hfound]

theorem KeepsDirectories.contentAt (h : KeepsDirectories before after)
    (hcontent : before.contentAt p = .ok content)
    (halone : ∀ place, before.placeOf p = .ok place →
      after.standing? place = before.standing? place) : after.contentAt p = .ok content := by
  rw [contentAt_eq_ok_iff] at *
  exact h.standingAt hcontent halone

theorem exist_of_contentAt (h : fs.contentAt p = .ok content) : fs.exist p = true := by
  rw [exist_eq, contentAt_eq_ok_iff.1 h]
  rfl

end IdentityVault.FileSystem
