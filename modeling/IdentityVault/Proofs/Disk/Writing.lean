import IdentityVault.Proofs.Disk.Places

/-! A file that was written is read back. Making directories takes none away, so a path leads to
the same place before and after, and the place is in a directory that stands. -/
namespace IdentityVault.FileSystem

variable {fs after : FileSystem} {p : Path} {place parent : List String} {name : String}
  {content : Bytes}

section MakingDirectories

/-- What stands stays, and so does the working directory. -/
structure Extends (before after : FileSystem) : Prop where
  workingDirectory : after.workingDirectory = before.workingDirectory
  standing : ∀ place found, before.standing? place = some found →
    after.standing? place = some found

theorem Extends.refl (fs : FileSystem) : Extends fs fs := ⟨rfl, fun _ _ h => h⟩

theorem Extends.trans {a b c : FileSystem} (h : Extends a b) (h' : Extends b c) : Extends a c where
  workingDirectory := h'.workingDirectory.trans h.workingDirectory
  standing := fun place found hfound => h'.standing place found (h.standing place found hfound)

theorem Extends.keepsDirectories (h : Extends fs after) : KeepsDirectories fs after :=
  ⟨h.workingDirectory, fun place => h.standing place .directory⟩

theorem extends_set (hne : place ≠ []) (hfree : fs.standing? place = none) (value : Option Node) :
    Extends fs (fs.set place value) := by
  refine ⟨rfl, fun other found hfound => ?_⟩
  have hprefix : ¬ place <+: other := by
    rintro ⟨rest, rfl⟩
    by_cases hrest : rest = []
    · rw [hrest, List.append_nil, hfree] at hfound
      cases hfound
    · rw [standing?_below (by simp [hfree]) hrest] at hfound
      cases hfound
  exact (Node.standing_find?_put hne hprefix).trans hfound

theorem extends_makeDirectory (h : fs.makeDirectory p = .ok after) : Extends fs after := by
  unfold makeDirectory at h
  cases hresolve : fs.resolve p with
  | error e =>
    rw [hresolve] at h
    cases h
  | ok x =>
    rw [hresolve] at h
    cases x with
    | directory place => cases h
    | entry parent name slash =>
      simp only [bind, Except.bind, bound?] at h
      split at h
      case h_1 => cases h
      case h_2 bound hbound =>
        split_ifs at hbound
        cases hbound
        split at h
        case h_1 => cases h
        case h_2 hnone =>
          cases h
          apply extends_set (by simp)
          unfold standing?
          rw [hnone]
          rfl

theorem extends_makeChain (paths : List Path) (fs : FileSystem) :
    Extends fs (makeChain paths fs).1 := by
  induction paths generalizing fs with
  | nil => exact .refl fs
  | cons p above ih =>
    unfold makeChain
    split
    case h_1 made hmade => exact extends_makeDirectory hmade
    case h_2 =>
      have habove := ih fs
      split
      case h_1 heq =>
        rw [heq] at habove
        exact habove
      case h_2 made heq =>
        rw [heq] at habove
        split
        case h_1 made' hmade => exact habove.trans (extends_makeDirectory hmade)
        case h_2 =>
          split
          · exact habove
          · exact habove
    case h_3 =>
      split
      · exact .refl fs
      · exact .refl fs

theorem extends_makeDirectories (fs : FileSystem) (p : Path) :
    Extends fs (fs.makeDirectories p).1 := by
  unfold makeDirectories
  split
  · exact .refl fs
  · exact extends_makeChain _ fs

end MakingDirectories

section Writing

theorem directory_of_enter (hplace : fs.standing? place = some .directory) {next : List String}
    (h : fs.enter place name = .ok next) : fs.standing? next = some .directory := by
  unfold enter at h
  split_ifs at h with hparent hlong
  · cases h
    cases List.eq_nil_or_concat place with
    | inl hnil =>
      subst hnil
      exact hplace
    | inr hconcat =>
      obtain ⟨parent, last, rfl⟩ := hconcat
      rw [List.concat_eq_append] at hplace
      rw [List.concat_eq_append, List.dropLast_concat]
      exact directory_of_append hplace
  · split at h
    case h_1 entries hnode =>
      cases h
      unfold standing?
      rw [hnode]
      rfl
    case h_2 => cases h
    case h_3 => cases h

theorem directory_of_foldlM_enter {names start : List String}
    (hstart : fs.standing? start = some .directory) (h : names.foldlM fs.enter start = .ok place) :
    fs.standing? place = some .directory := by
  induction names generalizing start with
  | nil =>
    cases h
    exact hstart
  | cons name names ih =>
    rw [List.foldlM_cons] at h
    cases hfirst : fs.enter start name with
    | error e =>
      rw [hfirst] at h
      cases h
    | ok next =>
      rw [hfirst] at h
      exact ih (directory_of_enter hstart hfirst) h

/-- The steps behind what a path means. -/
theorem resolve_steps {x : Place} (h : fs.resolve p = .ok x) :
    (∃ place, x = .directory place ∧ fs.walk p = .ok place) ∨
      ∃ parent name slash, x = .entry parent name slash ∧
        p.names.dropLast.foldlM fs.enter (if p.isAbsolute then [] else fs.workingDirectory) =
          .ok parent := by
  unfold resolve at h
  dsimp only at h
  unfold walk
  generalize (if p.isAbsolute then [] else fs.workingDirectory) = start at *
  split_ifs at h with hzero hempty hsize hlast
  · cases hwalk : p.names.foldlM fs.enter start with
    | error e =>
      rw [hwalk] at h
      cases h
    | ok place =>
      rw [hwalk] at h
      exact .inl ⟨place, (Except.ok.inj h).symm, rfl⟩
  · cases hwalk : p.names.dropLast.foldlM fs.enter start with
    | error e =>
      rw [hwalk] at h
      cases h
    | ok parent =>
      rw [hwalk] at h
      exact .inr ⟨parent, _, _, (Except.ok.inj h).symm, rfl⟩

theorem directory_of_start (hstart : fs.standing? fs.workingDirectory = some .directory)
    (p : Path) :
    fs.standing? (if p.isAbsolute then [] else fs.workingDirectory) = some .directory := by
  have hbelow : fs.standing? ([] ++ fs.workingDirectory) = some .directory := hstart
  split
  · exact directory_of_append hbelow
  · exact hstart

/-- A path names an entry of a directory that stands, as long as one starts from one. -/
theorem directory_of_resolve (hstart : fs.standing? fs.workingDirectory = some .directory)
    {slash : Bool} (h : fs.resolve p = .ok (.entry parent name slash)) :
    fs.standing? parent = some .directory := by
  obtain ⟨_, hx, -⟩ | ⟨_, _, _, hx, hwalk⟩ := resolve_steps h
  · cases hx
  · cases hx
    exact directory_of_foldlM_enter (directory_of_start hstart p) hwalk

/-- Only a name in a directory can be given bytes, and only where no directory has that name. -/
theorem update_steps {change : Bytes → Bytes} (h : fs.update p change = .ok after) :
    ∃ parent name, fs.Names p parent name ∧
      fs.standing? (parent ++ [name]) ≠ some .directory ∧
      after = fs.set (parent ++ [name])
        (some (.file (change (Standing.held (fs.standing? (parent ++ [name])))))) := by
  have hnames : ∃ parent name, fs.Names p parent name := by
    unfold update at h
    cases hresolve : fs.resolve p with
    | error e =>
      rw [hresolve] at h
      cases h
    | ok x =>
      rw [hresolve] at h
      cases x with
      | directory place => cases h
      | entry parent name slash =>
        simp only [bind, Except.bind, FileSystem.bound?] at h
        split_ifs at h with hslash hlong
        rw [Bool.not_eq_true] at hslash
        exact ⟨parent, name, hslash ▸ hresolve, Nat.not_lt.1 hlong⟩
  obtain ⟨parent, name, hnames⟩ := hnames
  have hfree : fs.standing? (parent ++ [name]) ≠ some .directory := by
    intro hd
    rw [hnames.update_directory change hd] at h
    cases h
  rw [hnames.update change hfree] at h
  exact ⟨parent, name, hnames, hfree, (Except.ok.inj h).symm⟩

theorem keepsDirectories_update {change : Bytes → Bytes} (h : fs.update p change = .ok after) :
    KeepsDirectories fs after := by
  obtain ⟨parent, name, -, hfree, rfl⟩ := update_steps h
  exact keepsDirectories_set (by simp) hfree _

/-- What was written to a path is found there. -/
theorem contentAt_of_write (hstart : fs.standing? fs.workingDirectory = some .directory)
    (h : fs.write p content = .ok after) : after.contentAt p = .ok content := by
  have hkept := keepsDirectories_update h
  obtain ⟨parent, name, hnames, hfree, rfl⟩ := update_steps h
  rw [(hnames.keepsDirectories hkept).contentAt_eq_ok]
  exact (standing?_set (directory_of_resolve hstart hnames.resolve) hfree (some content) _).trans
    (if_pos rfl)

/-- Where one file can be written, any other can. -/
theorem exists_write (h : fs.write p content = .ok after) (new : Bytes) :
    ∃ after, fs.write p new = .ok after := by
  obtain ⟨parent, name, hnames, hfree, -⟩ := update_steps h
  exact ⟨_, hnames.write new hfree⟩

/-- A file can be put at the path, once the directories above it have been made. -/
def CanCreate (fs : FileSystem) (p : Path) : Prop :=
  ∃ made after, fs.makeDirectories (Path.parent p) = (made, .ok ()) ∧ made.write p [] = .ok after

end Writing

section FoundFiles

/-- A path that finds a file names an entry of a directory that its other names lead to. -/
theorem names_of_contentAt (hstart : fs.standing? fs.workingDirectory = some .directory)
    (h : fs.contentAt p = .ok content) :
    ∃ parent name, fs.Names p parent name ∧
      p.names.dropLast.foldlM fs.enter (if p.isAbsolute then [] else fs.workingDirectory) =
        .ok parent ∧
      fs.standing? (parent ++ [name]) = some (.file content) := by
  have hfound := contentAt_eq_ok_iff.1 h
  obtain ⟨x, hresolve⟩ := resolve_of_standingAt hfound
  rw [standingAt_of_resolve hresolve] at hfound
  obtain ⟨place, rfl, hwalk⟩ | ⟨parent, name, slash, rfl, hwalk⟩ := resolve_steps hresolve
  · have hplace := directory_of_foldlM_enter (directory_of_start hstart p) hwalk
    simp [Place.found, hplace] at hfound
  · unfold Place.found at hfound
    dsimp only at hfound
    split_ifs at hfound with hlong hslash
    · split at hfound <;> cases hfound
    · rw [Bool.not_eq_true] at hslash
      split at hfound
      case h_1 found hstanding =>
        cases hfound
        exact ⟨parent, name, ⟨hslash ▸ hresolve, Nat.not_lt.1 hlong⟩, hwalk, hstanding⟩
      case h_2 => cases hfound
      case h_3 => cases hfound

theorem Extends.contentAt (h : Extends fs after)
    (hstart : fs.standing? fs.workingDirectory = some .directory)
    (hcontent : fs.contentAt p = .ok content) : after.contentAt p = .ok content := by
  obtain ⟨parent, name, hnames, -, hfile⟩ := names_of_contentAt hstart hcontent
  rw [(hnames.keepsDirectories h.keepsDirectories).contentAt_eq_ok]
  exact h.standing _ _ hfile

/-- A file that another one is written beside, or that is written itself. -/
theorem contentAt_of_update (hstart : fs.standing? fs.workingDirectory = some .directory)
    {change : Bytes → Bytes} (h : fs.update p change = .ok after) {q : Path}
    (hq : fs.contentAt q = .ok content) :
    after.contentAt q = .ok content ∨ after.contentAt q = .ok (change content) := by
  have hkept := keepsDirectories_update h
  obtain ⟨parent, name, hnames, hfree, rfl⟩ := update_steps h
  obtain ⟨parent', name', hnames', -, hfile⟩ := names_of_contentAt hstart hq
  have hparent := directory_of_resolve hstart hnames.resolve
  rw [(hnames'.keepsDirectories hkept).contentAt_eq_ok,
    (hnames'.keepsDirectories hkept).contentAt_eq_ok]
  have hset := standing?_set hparent hfree
    (some (change (Standing.held (fs.standing? (parent ++ [name]))))) (parent' ++ [name'])
  -- Two paths may lead to one place, and then the other one finds what was written.
  by_cases hsame : parent' ++ [name'] = parent ++ [name]
  · right
    rw [hsame] at hfile
    rw [hfile, if_pos hsame] at hset
    rw [hfile]
    exact hset
  · left
    rw [if_neg hsame, hfile] at hset
    exact hset

/-- Whatever is found is still found beside a file that is written. -/
theorem exist_of_update (hstart : fs.standing? fs.workingDirectory = some .directory)
    {change : Bytes → Bytes} (h : fs.update p change = .ok after) {q : Path}
    (hq : fs.exist q = true) : after.exist q = true := by
  cases hfound : fs.standingAt q with
  | error e =>
    rw [exist_eq, hfound] at hq
    cases hq
  | ok found =>
    cases found with
    | file content =>
      rcases contentAt_of_update hstart h (contentAt_eq_ok_iff.2 hfound) with hread | hread
      · exact exist_of_contentAt hread
      · exact exist_of_contentAt hread
    | directory =>
      have hkept := keepsDirectories_update h
      obtain ⟨x, hresolve⟩ := resolve_of_standingAt hfound
      have hplace := Place.standing_of_found_directory
        ((standingAt_of_resolve hresolve).symm.trans hfound)
      rw [exist_congr hresolve (hkept.resolve hresolve)
        ((hkept.directory _ hplace).trans hplace.symm)]
      exact hq

end FoundFiles

end IdentityVault.FileSystem
