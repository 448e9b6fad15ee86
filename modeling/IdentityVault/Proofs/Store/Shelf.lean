import IdentityVault.Proofs.Disk.Changes
import IdentityVault.Store.Sealing
import Mathlib.Logic.Function.Basic

/-! The files that sealing replaces, with the drafts they are replaced by. Where the identity can be
read, the changes that sealing makes on the disk are changes of these four places and of no
others. -/
namespace IdentityVault

inductive StoredFile where
  | salt
  | identity
  deriving DecidableEq

/-- A stored file, or the draft that is going to take its place. -/
inductive ShelfSlot where
  | current (f : StoredFile)
  | draft (f : StoredFile)
  deriving DecidableEq

namespace StoredFile

def name : StoredFile → String
  | .salt => "salt"
  | .identity => "identity_key"

def directory (l : StorageLayout) : StoredFile → Path
  | .salt => l.storageDirectory
  | .identity => l.identityDirectory

def path (l : StorageLayout) : StoredFile → Path
  | .salt => l.salt
  | .identity => l.identityKey

/-- The place of the directory, below that of the storage directory. -/
def parent (storage : List String) : StoredFile → List String
  | .salt => storage
  | .identity => storage ++ ["identity"]

theorem path_eq (l : StorageLayout) (f : StoredFile) :
    f.path l = Path.join (f.directory l) f.name := by
  cases f <;> rfl

end StoredFile

namespace ShelfSlot

def file : ShelfSlot → StoredFile
  | .current f => f
  | .draft f => f

def name : ShelfSlot → String
  | .current f => f.name
  | .draft f => f.name ++ ".tmp"

def path (l : StorageLayout) : ShelfSlot → Path
  | .current f => f.path l
  | .draft f => StorageLayout.temporary (f.path l)

def place (storage : List String) (s : ShelfSlot) : List String := s.file.parent storage ++ [s.name]

theorem plain_name (s : ShelfSlot) : Path.Plain s.name := by
  cases s with
  | current f => cases f <;> constructor <;> decide +kernel
  | draft f => cases f <;> constructor <;> decide +kernel

theorem name_injective : Function.Injective name := by
  intro s t hnames
  revert hnames
  rcases s with f | f <;> rcases t with g | g <;> cases f <;> cases g <;>
    simp [name, StoredFile.name]

theorem place_injective (storage : List String) : Function.Injective (place storage) := by
  intro s t h
  exact name_injective (List.concat_inj.1 (by simpa [place] using h)).2

theorem path_eq (l : StorageLayout) (s : ShelfSlot) :
    s.path l = Path.join (s.file.directory l) s.name := by
  cases s with
  | current f => exact f.path_eq l
  | draft f =>
    rw [path, StorageLayout.temporary, f.path_eq]
    exact Path.join_append (plain_name (.current f)) (plain_name (.draft f))

theorem path_injective (l : StorageLayout) : Function.Injective (path l) := by
  intro s t h
  have hnames := congrArg Path.names h
  rw [s.path_eq, t.path_eq, Path.names_join s.plain_name, Path.names_join t.plain_name] at hnames
  exact name_injective (List.concat_inj.1 (by simpa using hnames)).2

end ShelfSlot

open FileSystem

/-- Both directories of the store stand where the layout says, and its paths can be used. -/
structure StorageLayout.Stands (l : StorageLayout) (fs : FileSystem) (storage : List String) :
    Prop where
  walk_storage : fs.walk l.storageDirectory = .ok storage
  walk_identity : fs.walk l.identityDirectory = .ok (storage ++ ["identity"])
  zero : '\x00' ∉ l.dataDirectory.toList
  size : l.identityKey.utf8ByteSize ≤ pathLimit

/-- Whether the draft of a file has a path of permitted length. -/
def StorageLayout.fits (l : StorageLayout) (f : StoredFile) : Bool :=
  (StorageLayout.temporary (f.path l)).utf8ByteSize ≤ pathLimit

namespace StorageLayout.Stands

variable {l : StorageLayout} {fs : FileSystem} {storage : List String}

theorem plain_storage : Path.Plain "storage" := by constructor <;> decide +kernel

theorem plain_identity : Path.Plain "identity" := by constructor <;> decide +kernel

/-- An identity that can be read stands in the directories of the layout. -/
theorem of_contentAt {content : Bytes} (h : fs.contentAt l.identityKey = .ok content) :
    ∃ storage, l.Stands fs storage := by
  have hkey : Path.Plain "identity_key" := ShelfSlot.plain_name (.current .identity)
  cases hresolve : fs.resolve l.identityKey with
  | error e =>
    simp only [FileSystem.contentAt, lookup, hresolve, bind, Except.bind] at h
    cases h
  | ok place =>
    obtain ⟨hzero, hsize⟩ := resolve_eq_ok hresolve
    obtain ⟨parent, hwalk, -⟩ := resolve_join_eq_ok hkey hresolve
    obtain ⟨storage, hstorage, rfl, -⟩ := walk_join_eq_ok plain_identity hwalk
    refine ⟨storage, hstorage, hwalk, ?_, hsize⟩
    intro hmem
    apply hzero
    exact Path.mem_join (Path.mem_join (Path.mem_join hmem _ plain_storage.isAbsolute) _
      plain_identity.isAbsolute) _ hkey.isAbsolute

theorem zero_directory (h : l.Stands fs storage) (f : StoredFile) :
    '\x00' ∉ (f.directory l).toList := by
  have hstorage := Path.zero_notMem_join plain_storage h.zero
  cases f with
  | salt => exact hstorage
  | identity => exact Path.zero_notMem_join plain_identity hstorage

theorem walk_directory (h : l.Stands fs storage) (f : StoredFile) :
    fs.walk (f.directory l) = .ok (f.parent storage) := by
  cases f with
  | salt => exact h.walk_storage
  | identity => exact h.walk_identity

theorem standing?_parent (h : l.Stands fs storage) (f : StoredFile) :
    fs.standing? (f.parent storage) = some .directory := by
  cases f with
  | salt =>
    obtain ⟨-, -, -, hstanding⟩ := walk_join_eq_ok plain_storage h.walk_storage
    exact hstanding
  | identity =>
    obtain ⟨-, -, -, hstanding⟩ := walk_join_eq_ok plain_identity h.walk_identity
    exact hstanding

theorem resolve_path (h : l.Stands fs storage) (s : ShelfSlot) :
    fs.resolve (s.path l) =
      if pathLimit < (s.path l).utf8ByteSize then .error .nameTooLong
      else .ok (.entry (s.file.parent storage) s.name false) := by
  rw [s.path_eq, resolve_join s.plain_name (h.zero_directory s.file), h.walk_directory s.file]
  rfl

theorem names (h : l.Stands fs storage) {s : ShelfSlot}
    (hsize : (s.path l).utf8ByteSize ≤ pathLimit) :
    fs.Names (s.path l) (s.file.parent storage) s.name := by
  refine ⟨?_, s.plain_name.short⟩
  rw [h.resolve_path, if_neg (Nat.not_lt.2 hsize)]

theorem size_current (h : l.Stands fs storage) (f : StoredFile) :
    ((ShelfSlot.current f).path l).utf8ByteSize ≤ pathLimit := by
  cases f with
  | identity => exact h.size
  | salt =>
    -- The salt's path is shorter than the path of the directory beside it.
    have hplain := ShelfSlot.plain_name (.current .salt)
    have hshorter := Path.utf8ByteSize_join_le (p := l.storageDirectory) plain_identity hplain
      (by decide +kernel)
    have hbelow := Path.utf8ByteSize_le_join (p := l.identityDirectory)
      (ShelfSlot.plain_name (.current .identity))
    exact Nat.le_trans hshorter (Nat.le_trans hbelow h.size)

theorem keepsDirectories {after : FileSystem} (h : l.Stands fs storage)
    (hkeep : KeepsDirectories fs after) : l.Stands after storage :=
  ⟨hkeep.walk h.walk_storage, hkeep.walk h.walk_identity, h.zero, h.size⟩

theorem names_directory (h : l.Stands fs storage) (f : StoredFile) :
    ∃ parent name, fs.Names (f.directory l) parent name ∧
      fs.standing? (parent ++ [name]) = some .directory := by
  have hkey := Path.utf8ByteSize_le_join (p := l.identityDirectory)
    (ShelfSlot.plain_name (.current .identity))
  have hidentity : l.identityDirectory.utf8ByteSize ≤ pathLimit := Nat.le_trans hkey h.size
  cases f with
  | salt =>
    have hbelow := Path.utf8ByteSize_le_join (p := l.storageDirectory) plain_identity
    obtain ⟨parent, hwalk, rfl, hstanding⟩ := walk_join_eq_ok plain_storage h.walk_storage
    refine ⟨parent, "storage", ⟨?_, plain_storage.short⟩, hstanding⟩
    have hsize := Nat.not_lt.2 (Nat.le_trans hbelow hidentity)
    unfold StoredFile.directory StorageLayout.storageDirectory
    rw [resolve_join plain_storage h.zero, hwalk]
    exact if_neg hsize
  | identity =>
    refine ⟨storage, "identity", ⟨?_, plain_identity.short⟩, h.standing?_parent .identity⟩
    have hresolve := resolve_join plain_identity (h.zero_directory .salt) fs
    unfold StoredFile.directory at hresolve
    rw [h.walk_storage] at hresolve
    exact hresolve.trans (if_neg (Nat.not_lt.2 hidentity))

theorem names_current (h : l.Stands fs storage) (f : StoredFile) :
    fs.Names (f.path l) (f.parent storage) f.name := h.names (s := .current f) (h.size_current f)

theorem salt_ne (h : l.Stands fs storage) : l.salt ≠ l.identityKey := by
  intro heq
  have hsalt : fs.resolve l.salt = _ := (h.names_current .salt).resolve
  rw [heq] at hsalt
  have hentries := hsalt.symm.trans (h.names_current .identity).resolve
  simp [StoredFile.name] at hentries

theorem names_draft (h : l.Stands fs storage) {f : StoredFile} (hfits : l.fits f = true) :
    fs.Names (StorageLayout.temporary (f.path l)) (f.parent storage) (f.name ++ ".tmp") := by
  have hsize : ((ShelfSlot.draft f).path l).utf8ByteSize ≤ pathLimit := by
    simpa [StorageLayout.fits, ShelfSlot.path] using hfits
  exact h.names hsize

theorem resolve_draft_error (h : l.Stands fs storage) {f : StoredFile} (hfits : l.fits f = false) :
    fs.resolve (StorageLayout.temporary (f.path l)) = .error .nameTooLong := by
  have hsize : pathLimit < ((ShelfSlot.draft f).path l).utf8ByteSize := by
    simpa [StorageLayout.fits, ShelfSlot.path] using hfits
  have hresolve := h.resolve_path (.draft f)
  rwa [if_pos hsize] at hresolve

end StorageLayout.Stands

/-- One of the four places, if the path to it can be used. -/
def StorageLayout.Occupies (l : StorageLayout) (storage place : List String) : Prop :=
  ∃ s : ShelfSlot, (s.path l).utf8ByteSize ≤ pathLimit ∧ s.place storage = place

theorem StorageLayout.occupies_current {l : StorageLayout} {fs : FileSystem}
    {storage : List String} (h : l.Stands fs storage) (f : StoredFile) :
    l.Occupies storage ((ShelfSlot.current f).place storage) :=
  ⟨.current f, h.size_current f, rfl⟩

theorem StorageLayout.occupies_draft {l : StorageLayout} (storage : List String) {f : StoredFile}
    (hfits : l.fits f = true) : l.Occupies storage ((ShelfSlot.draft f).place storage) :=
  ⟨.draft f, by simpa [fits, ShelfSlot.path] using hfits, rfl⟩

/-- What stands at the four places. -/
abbrev Shelf := ShelfSlot → Option Standing

namespace Shelf

def ofDisk (fs : FileSystem) (storage : List String) : Shelf :=
  fun s => fs.standing? (s.place storage)

/-- The changes that replacing a file is made of. -/
inductive Change where
  | makeDirectory (f : StoredFile)
  | write (f : StoredFile) (content : Bytes)
  | move (f : StoredFile)

def Change.onDisk (l : StorageLayout) : Change → DiskChange
  | .makeDirectory f => .makeDirectories (f.directory l)
  | .write f content => .write (StorageLayout.temporary (f.path l)) content
  | .move f => .rename (StorageLayout.temporary (f.path l)) (f.path l)

def put (h : Shelf) (s : ShelfSlot) (content : Option Bytes) : Shelf :=
  Function.update h s (content.map .file)

/-- The draft takes the place of the file. -/
def replace (h : Shelf) (f : StoredFile) (content : Bytes) : Shelf :=
  (h.put (.draft f) none).put (.current f) (some content)

/-- The four places after a change, and whether it succeeded. -/
def apply (fits : StoredFile → Bool) : Change → Shelf → Shelf × Except OsError Unit
  | .makeDirectory _, h => (h, .ok ())
  | .write f content, h =>
      if fits f = false then (h, .error .nameTooLong)
      else match h (.draft f) with
        | some .directory => (h, .error .isADirectory)
        | _ => (h.put (.draft f) (some content), .ok ())
  | .move f, h =>
      if fits f = false then (h, .error .nameTooLong)
      else match h (.draft f), h (.current f) with
        | none, _ => (h, .error .notFound)
        | some .directory, _ => (h, .error .isADirectory)
        | some (.file _), some .directory => (h, .error .isADirectory)
        | some (.file content), _ =>
            (h.replace f content, .ok ())

/-- A change that fails leaves the four places as they were. -/
theorem apply_write (fits : StoredFile → Bool) (f : StoredFile) (content : Bytes) (h : Shelf) :
    apply fits (.write f content) h = (h.put (.draft f) (some content), .ok ()) ∨
      ∃ e, apply fits (.write f content) h = (h, .error e) := by
  simp only [apply]
  split
  · exact .inr ⟨_, rfl⟩
  · split
    · exact .inr ⟨_, rfl⟩
    · exact .inl rfl

theorem apply_move (fits : StoredFile → Bool) (f : StoredFile) (h : Shelf) :
    (∃ content, h (.draft f) = some (.file content) ∧
      apply fits (.move f) h = (h.replace f content, .ok ())) ∨
      ∃ e, apply fits (.move f) h = (h, .error e) := by
  simp only [apply]
  split
  · exact .inr ⟨_, rfl⟩
  · split
    · exact .inr ⟨_, rfl⟩
    · exact .inr ⟨_, rfl⟩
    · exact .inr ⟨_, rfl⟩
    case h_4 content hdraft _ => exact .inl ⟨content, hdraft, rfl⟩

@[simp] theorem put_draft_current (h : Shelf) (f g : StoredFile) (content : Option Bytes) :
    h.put (.draft f) content (.current g) = h (.current g) :=
  Function.update_of_ne (by simp) _ _

@[simp] theorem put_current_draft (h : Shelf) (f g : StoredFile) (content : Option Bytes) :
    h.put (.current f) content (.draft g) = h (.draft g) :=
  Function.update_of_ne (by simp) _ _

@[simp] theorem put_self (h : Shelf) (s : ShelfSlot) (content : Option Bytes) :
    h.put s content s = content.map .file := Function.update_self _ _ _

@[simp] theorem put_draft_of_ne (h : Shelf) {f g : StoredFile} (hne : g ≠ f)
    (content : Option Bytes) : h.put (.draft f) content (.draft g) = h (.draft g) :=
  Function.update_of_ne (by simpa using hne) _ _

@[simp] theorem replace_self (h : Shelf) (f : StoredFile) (content : Bytes) :
    h.replace f content (.current f) = some (.file content) := put_self ..

theorem replace_of_ne (h : Shelf) {f g : StoredFile} (hne : g ≠ f) (content : Bytes) :
    h.replace f content (.current g) = h (.current g) := by
  have hslot : ShelfSlot.current g ≠ .current f := by simpa using hne
  unfold replace
  rw [put, Function.update_of_ne hslot]
  exact put_draft_current ..

theorem replace_draft (h : Shelf) (f g : StoredFile) (content : Bytes) :
    h.replace f content (.draft g) = if g = f then none else h (.draft g) := by
  unfold replace
  rw [put_current_draft]
  by_cases hg : g = f
  · rw [if_pos hg, hg, put_self]
    rfl
  · rw [if_neg hg, put_draft_of_ne h hg]

variable {l : StorageLayout} {fs : FileSystem} {storage : List String}

theorem contentAt_eq_ok (h : l.Stands fs storage) {f : StoredFile} {content : Bytes} :
    fs.contentAt (f.path l) = .ok content ↔
      ofDisk fs storage (.current f) = some (.file content) :=
  (h.names_current f).contentAt_eq_ok

/-- The disk after a change shows what the change makes of the four places, and everywhere else what
it showed before. -/
structure Follows (l : StorageLayout) (storage : List String) (fs : FileSystem)
    (shown : Shelf × Except OsError Unit) (result : FileSystem × Except OsError Unit) : Prop where
  keeps : KeepsDirectories fs result.1
  shelf : ofDisk result.1 storage = shown.1
  reply : result.2 = shown.2
  others (place : List String) (h : ¬l.Occupies storage place) :
    result.1.standing? place = fs.standing? place

/-- Putting a file in a slot that holds no directory, or emptying the slot. -/
theorem set_slot (h : l.Stands fs storage) (s : ShelfSlot)
    (hfree : ofDisk fs storage s ≠ some .directory) (content : Option Bytes) :
    KeepsDirectories fs (fs.set (s.place storage) (content.map .file)) ∧
      ofDisk (fs.set (s.place storage) (content.map .file)) storage =
        (ofDisk fs storage).put s content := by
  have hparent := h.standing?_parent s.file
  refine ⟨keepsDirectories_set (by simp [ShelfSlot.place]) hfree (content.map .file), ?_⟩
  funext t
  have hset := standing?_set hparent hfree content (t.place storage)
  unfold ofDisk put
  by_cases ht : t = s
  · subst ht
    rw [Function.update_self]
    exact hset.trans (if_pos rfl)
  · rw [Function.update_of_ne ht]
    exact hset.trans (if_neg fun heq => ht (ShelfSlot.place_injective storage heq))

theorem standing?_set_slot (h : l.Stands fs storage) (s : ShelfSlot)
    (hfree : ofDisk fs storage s ≠ some .directory) (content : Option Bytes) (place : List String)
    (hother : place ≠ s.place storage) :
    (fs.set (s.place storage) (content.map .file)).standing? place = fs.standing? place := by
  have hset := standing?_set (h.standing?_parent s.file) hfree content place
  exact hset.trans (if_neg hother)

theorem follows_makeDirectory (h : l.Stands fs storage) (f : StoredFile) :
    Follows l storage fs (apply l.fits (.makeDirectory f) (ofDisk fs storage))
      (((Change.makeDirectory f).onDisk l).apply fs) := by
  obtain ⟨parent, name, hnames, hstanding⟩ := h.names_directory f
  have hmake := hnames.makeDirectories hstanding
  simp only [Change.onDisk, DiskChange.apply, hmake]
  exact ⟨.refl fs, rfl, rfl, fun _ _ => rfl⟩

theorem follows_write (h : l.Stands fs storage) (f : StoredFile) (content : Bytes) :
    Follows l storage fs (apply l.fits (.write f content) (ofDisk fs storage))
      (((Change.write f content).onDisk l).apply fs) := by
  simp only [Change.onDisk, DiskChange.apply, apply]
  cases hfits : l.fits f with
  | false =>
    have hwrite : fs.write (StorageLayout.temporary (f.path l)) content =
        .error .nameTooLong := by
      simp only [FileSystem.write, update, h.resolve_draft_error hfits, bind, Except.bind]
    rw [hwrite, if_pos rfl]
    exact ⟨.refl fs, rfl, rfl, fun _ _ => rfl⟩
  | true =>
    have hnames := h.names_draft hfits
    rw [if_neg (by simp)]
    split
    case h_1 hd =>
      rw [hnames.write_directory content hd]
      exact ⟨.refl fs, rfl, rfl, fun _ _ => rfl⟩
    case h_2 hfree =>
      rw [hnames.write content hfree]
      obtain ⟨hkeep, hshelf⟩ := set_slot h (.draft f) hfree (some content)
      refine ⟨hkeep, hshelf, rfl, fun place hplace => ?_⟩
      refine standing?_set_slot h (.draft f) hfree (some content) place ?_
      rintro rfl
      exact hplace (StorageLayout.occupies_draft storage hfits)

theorem follows_move (h : l.Stands fs storage) (f : StoredFile) :
    Follows l storage fs (apply l.fits (.move f) (ofDisk fs storage))
      (((Change.move f).onDisk l).apply fs) := by
  simp only [Change.onDisk, DiskChange.apply, apply]
  cases hfits : l.fits f with
  | false =>
    have hrename : fs.rename (StorageLayout.temporary (f.path l)) (f.path l) =
        .error .nameTooLong := by
      simp only [FileSystem.rename, h.resolve_draft_error hfits, bind, Except.bind]
    rw [hrename, if_pos rfl]
    exact ⟨.refl fs, rfl, rfl, fun _ _ => rfl⟩
  | true =>
    have hsource := h.names_draft hfits
    have htarget := h.names_current f
    rw [if_neg (by simp)]
    split
    case h_1 hnone =>
      rw [hsource.rename_absent htarget hnone]
      exact ⟨.refl fs, rfl, rfl, fun _ _ => rfl⟩
    case h_2 hd =>
      rw [hsource.rename_directory htarget hd]
      exact ⟨.refl fs, rfl, rfl, fun _ _ => rfl⟩
    case h_3 hfile hd =>
      rw [hsource.rename_over_directory htarget hfile hd]
      exact ⟨.refl fs, rfl, rfl, fun _ _ => rfl⟩
    case h_4 content hfile hfree =>
      have hdraft : ofDisk fs storage (.draft f) ≠ some .directory := by
        rw [hfile]
        simp
      obtain ⟨hkeep, htaken⟩ := set_slot h (.draft f) hdraft none
      have hcurrent : ((ofDisk fs storage).put (.draft f) none) (.current f) ≠
          some .directory := by
        unfold put
        rw [Function.update_of_ne (by simp)]
        exact hfree
      obtain ⟨hkeep', hput⟩ := set_slot (h.keepsDirectories hkeep) (.current f)
        (by rwa [htaken]) (some content)
      rw [htaken] at hput
      rw [hsource.rename htarget hfile hfree]
      refine ⟨hkeep.trans hkeep', hput, rfl, fun place hplace => ?_⟩
      have hstands := h.keepsDirectories hkeep
      have hnotDraft : place ≠ (ShelfSlot.draft f).place storage := by
        rintro rfl
        exact hplace (StorageLayout.occupies_draft storage hfits)
      have hnotCurrent : place ≠ (ShelfSlot.current f).place storage := by
        rintro rfl
        exact hplace (StorageLayout.occupies_current h f)
      have hmoved := standing?_set_slot hstands (.current f) (by rwa [htaken]) (some content)
        place hnotCurrent
      exact hmoved.trans (standing?_set_slot h (.draft f) hdraft none place hnotDraft)

theorem follows (h : l.Stands fs storage) (c : Change) :
    Follows l storage fs (apply l.fits c (ofDisk fs storage)) ((c.onDisk l).apply fs) := by
  cases c with
  | makeDirectory f => exact follows_makeDirectory h f
  | write f content => exact follows_write h f content
  | move f => exact follows_move h f

end Shelf

end IdentityVault
