import IdentityVault.Proofs.Program.Steps
import IdentityVault.Proofs.Seal.Derivation
import IdentityVault.Proofs.Store.Shelf

/-! How far a call that seals the identity has come. Every stage has a program, the rest of the
call, and a step of the program is a step of the stages. -/
namespace IdentityVault

/-- What a call seals, and what it drew for it. -/
structure SealDraft where
  identity : Bytes
  salt : Bytes
  vector : Bytes
  deriving DecidableEq

namespace SealDraft

/-- The identity as it is stored under a password. -/
def bundle (password : String) (d : SealDraft) : Bytes :=
  Payload.sealed (.ofPassword password d.salt) (Block.ofBytes d.vector) d.identity

def content (password : String) (d : SealDraft) : StoredFile → Bytes
  | .salt => d.salt
  | .identity => d.bundle password

end SealDraft

/-- The steps by which a file is replaced. -/
inductive Phase where
  | makeDirectory
  | write
  | move

namespace Phase

def change (f : StoredFile) (content : Bytes) : Phase → Shelf.Change
  | .makeDirectory => .makeDirectory f
  | .write => .write f content
  | .move => .move f

/-- The path that a failure names. -/
def path (l : StorageLayout) (f : StoredFile) : Phase → Path
  | .makeDirectory => f.directory l
  | .write => StorageLayout.temporary (f.path l)
  | .move => f.path l

/-- The rest of the replacement of a file. -/
def program (l : StorageLayout) (f : StoredFile) (content : Bytes) :
    Phase → Program (Except StoreError Unit)
  | .makeDirectory => replaceFile (f.directory l) (f.path l) content
  | .write => do
    match ← Program.perform (.change (.write (StorageLayout.temporary (f.path l)) content)) with
    | .error e => return .error (.io (StorageLayout.temporary (f.path l)) e)
    | .ok () =>
      match ← Program.perform
          (.change (.rename (StorageLayout.temporary (f.path l)) (f.path l))) with
      | .error e => return .error (.io (f.path l) e)
      | .ok () => return .ok ()
  | .move => do
    match ← Program.perform
        (.change (.rename (StorageLayout.temporary (f.path l)) (f.path l))) with
    | .error e => return .error (.io (f.path l) e)
    | .ok () => return .ok ()

end Phase

inductive SealStage where
  | reading
  | drawingSalt (identity : Bytes)
  | drawingVector (identity salt : Bytes)
  | reporting (d : SealDraft)
  | replacing (f : StoredFile) (phase : Phase) (d : SealDraft)
  | announcing (d : SealDraft)
  | returned (result : Except StoreError Unit) (d : Option SealDraft)

namespace SealStage

variable (l : StorageLayout) (password : String)

def announcement : Program (Except StoreError Unit) := do
  Program.log ⟨.info, .identity, "Sealed identity with password", [("path", l.identityKey)]⟩
  return .ok ()

def afterIdentity : Except StoreError Unit → Program (Except StoreError Unit)
  | .error e => .done (.error e)
  | .ok () => announcement l

def afterSalt (d : SealDraft) : Except StoreError Unit → Program (Except StoreError Unit)
  | .error e => .done (.error e)
  | .ok () => (Phase.makeDirectory.program l .identity (d.bundle password)).bind (afterIdentity l)

/-- What follows the replacement of a file. -/
def afterReplacing (d : SealDraft) : StoredFile →
    Except StoreError Unit → Program (Except StoreError Unit)
  | .salt => afterSalt l password d
  | .identity => afterIdentity l

def reportingProgram (d : SealDraft) : Program (Except StoreError Unit) :=
  (Program.logAll (Vault.derivationLog d.salt)).bind fun _ =>
    (Phase.makeDirectory.program l .salt d.salt).bind (afterReplacing l password d .salt)

/-- The rest of the call. -/
def program : SealStage → Program (Except StoreError Unit)
  | .reading => l.sealIdentity password
  | .drawingSalt identity => do
    let salt ← Program.perform (.random saltLength)
    let vector ← Program.perform (.random Payload.vectorLength)
    reportingProgram l password ⟨identity, salt, vector⟩
  | .drawingVector identity salt => do
    let vector ← Program.perform (.random Payload.vectorLength)
    reportingProgram l password ⟨identity, salt, vector⟩
  | .reporting d => reportingProgram l password d
  | .replacing f phase d =>
      (phase.program l f (d.content password f)).bind (afterReplacing l password d f)
  | .announcing _ => announcement l
  | .returned result _ => .done result

/-- The stage after a step of a replacement that succeeded. -/
def afterPhase (d : SealDraft) : StoredFile → Phase → SealStage
  | f, .makeDirectory => .replacing f .write d
  | f, .write => .replacing f .move d
  | .salt, .move => .replacing .identity .makeDirectory d
  | .identity, .move => .announcing d

/-- What a call goes on with after the reply to a change. -/
def afterChange (f : StoredFile) (phase : Phase) (d : SealDraft) : Except OsError Unit → SealStage
  | .ok () => afterPhase d f phase
  | .error e => .returned (.error (.io (phase.path l f) e)) (some d)

/-- The stage after the identity was read. -/
def afterReading : Option Standing → SealStage
  | none => .returned (.error (.missingIdentity l.identityKey)) none
  | some .directory => .returned (.error (.io l.identityKey .isADirectory)) none
  | some (.file content) =>
      match Bundle.ofBytes content with
      | .error e => .returned (.error e) none
      | .ok (.sealed _) => .returned (.error .alreadySealed) none
      | .ok (.plain identity) => .drawingSalt identity

/-- One step of a call, where the generator is going to draw the bytes that `draw` tells. -/
def advance (draw : Nat → Bytes) (h : Shelf) : SealStage → SealStage × Shelf
  | .reading => (afterReading l (h (.current .identity)), h)
  | .drawingSalt identity => (.drawingVector identity (draw saltLength), h)
  | .drawingVector identity salt =>
      (.reporting ⟨identity, salt, draw Payload.vectorLength⟩, h)
  | .reporting d => (.replacing .salt .makeDirectory d, h)
  | .replacing f phase d =>
      let shown := Shelf.apply l.fits (phase.change f (d.content password f)) h
      (afterChange l f phase d shown.2, shown.1)
  | .announcing d => (.returned (.ok ()) (some d), h)
  | .returned result d => (.returned result d, h)

/-- The change that the next step makes, unless it fails. -/
def effect (h : Shelf) : SealStage → Option DiskChange
  | .replacing f phase d =>
      let change := phase.change f (d.content password f)
      match (Shelf.apply l.fits change h).2 with
      | .ok () => some (change.onDisk l)
      | .error _ => none
  | _ => none

variable {l password} {w : World} {storage : List String}

theorem step_reading (h : l.Stands w.disk storage) :
    (l.sealIdentity password).step w =
      ((afterReading l (Shelf.ofDisk w.disk storage (.current .identity))).program l password,
        w) := by
  have hcontent := (h.names_current .identity).contentAt
  have hplace :
      w.disk.standing? (StoredFile.parent storage .identity ++ [StoredFile.identity.name]) =
      Shelf.ofDisk w.disk storage (.current .identity) := rfl
  rw [hplace] at hcontent
  have hread : w.answer (.read l.identityKey) = (w.disk.contentAt l.identityKey, w) := rfl
  simp only [StorageLayout.sealIdentity, StorageLayout.probe, readOptional, Program.perform,
    Program.bind_eq, Program.call_bind, Program.done_bind, Program.step_call, hread]
  rw [show w.disk.contentAt l.identityKey = _ from hcontent]
  cases Shelf.ofDisk w.disk storage (.current .identity) with
  | none => rfl
  | some standing =>
    cases standing with
    | directory => rfl
    | file content =>
      simp only [afterReading, Program.pure_eq, Program.done_bind]
      cases hbundle : Bundle.ofBytes content with
      | error e => rfl
      | ok bundle =>
        cases bundle with
        | sealed payload => rfl
        | plain identity =>
          simp only [KeyMaterial.derive_eq, program, reportingProgram]
          rfl

theorem program_replacing (f : StoredFile) (phase : Phase) (d : SealDraft) :
    (replacing f phase d).program l password =
      .call (.change ((phase.change f (d.content password f)).onDisk l)) fun reply =>
        (afterChange l f phase d reply).program l password := by
  cases f <;> cases phase <;>
  · simp only [program, Phase.program, replaceFile, Program.perform, Program.bind_eq,
      Program.call_bind, Program.done_bind]
    congr 1
    funext reply
    cases reply <;> rfl

/-- Only a call that returned has nothing left to do. -/
theorem program_eq_done {s : SealStage} {result : Except StoreError Unit}
    (h : s.program l password = .done result) : ∃ d, s = .returned result d := by
  cases s with
  | replacing f phase d =>
    rw [program_replacing] at h
    cases h
  | returned found d =>
    cases h
    exact ⟨d, rfl⟩
  | reading | drawingSalt | drawingVector | reporting | announcing => cases h

/-- The only files that a call writes are the drafts. -/
theorem path_of_write {s : SealStage} {p : Path} {content : Bytes}
    {next : Except OsError Unit → Program (Except StoreError Unit)}
    (h : s.program l password = .call (.change (.write p content)) next) :
    ∃ f : StoredFile, p = StorageLayout.temporary (f.path l) := by
  have hchange := congrArg Program.nextChange h
  cases s with
  | replacing f phase d =>
    rw [program_replacing] at hchange
    cases phase with
    | write =>
      cases hchange
      exact ⟨f, rfl⟩
    | makeDirectory | move => cases hchange
  | reading | drawingSalt | drawingVector | reporting | announcing | returned => cases hchange

/-- What the generator of a world is going to draw. -/
def draws (w : World) (count : Nat) : Bytes := (List.range count).map w.entropy

@[simp] theorem length_draws (w : World) (count : Nat) : (draws w count).length = count := by
  unfold draws
  rw [List.length_map, List.length_range]

/-- The next step of the program is the next step of the stage, and the rest of the disk stays as it
is. -/
structure Simulates (l : StorageLayout) (password : String) (storage : List String) (w : World)
    (s : SealStage) : Prop where
  program : ((s.program l password).step w).1 =
    (s.advance l password (draws w) (Shelf.ofDisk w.disk storage)).1.program l password
  shelf : Shelf.ofDisk ((s.program l password).step w).2.disk storage =
    (s.advance l password (draws w) (Shelf.ofDisk w.disk storage)).2
  effect : ((s.program l password).moment w).effect =
    s.effect l password (Shelf.ofDisk w.disk storage)
  keeps : FileSystem.KeepsDirectories w.disk ((s.program l password).step w).2.disk
  others (place : List String) (h : ¬l.Occupies storage place) :
    ((s.program l password).step w).2.disk.standing? place = w.disk.standing? place

theorem simulates (password : String) (h : l.Stands w.disk storage) (s : SealStage) :
    Simulates l password storage w s := by
  cases s with
  | reading =>
    refine ⟨?_, ?_, rfl, ?_, fun _ _ => ?_⟩ <;> rw [program, step_reading h]
    · rfl
    · rfl
    · exact .refl _
  | drawingSalt identity => exact ⟨rfl, rfl, rfl, .refl _, fun _ _ => rfl⟩
  | drawingVector identity salt => exact ⟨rfl, rfl, rfl, .refl _, fun _ _ => rfl⟩
  | reporting d => exact ⟨rfl, rfl, rfl, .refl _, fun _ _ => rfl⟩
  | announcing d => exact ⟨rfl, rfl, rfl, .refl _, fun _ _ => rfl⟩
  | returned result d => exact ⟨rfl, rfl, rfl, .refl _, fun _ _ => rfl⟩
  | replacing f phase d =>
    obtain ⟨hkeeps, hshelf, hreply, hothers⟩ :=
      Shelf.follows h (phase.change f (d.content password f))
    refine ⟨?_, ?_, ?_, ?_, ?_⟩ <;> rw [program_replacing]
    · simp only [Program.step_call, advance, ← hreply]
      rfl
    · exact hshelf
    · have hanswer (c : DiskChange) : (w.answer (.change c)).1 = (c.apply w.disk).2 := rfl
      simp only [Program.moment, effect, hanswer, ← hreply]
      cases (((phase.change f (d.content password f)).onDisk l).apply w.disk).2 <;> rfl
    · exact hkeeps
    · exact hothers

end SealStage

/-- A call that seals the identity leaves all directories and all other files alone. -/
theorem StorageLayout.sealIdentity_leaves {l : StorageLayout} {w : World} {storage : List String}
    (h : l.Stands w.disk storage) (password : String) :
    FileSystem.KeepsDirectories w.disk ((l.sealIdentity password).run w).2.disk ∧
      ∀ place, ¬l.Occupies storage place →
        ((l.sealIdentity password).run w).2.disk.standing? place = w.disk.standing? place := by
  have hreturned := Program.run_induction
    (I := fun p w' => (∃ s : SealStage, p = s.program l password) ∧
      FileSystem.KeepsDirectories w.disk w'.disk ∧
      ∀ place, ¬l.Occupies storage place → w'.disk.standing? place = w.disk.standing? place)
    ?_ (p := l.sealIdentity password) (w := w)
    ⟨⟨.reading, rfl⟩, .refl _, fun _ _ => rfl⟩
  · exact hreturned.2
  · rintro p w' ⟨⟨s, rfl⟩, hkeeps, hothers⟩
    have hstep := SealStage.simulates password (h.keepsDirectories hkeeps) s
    refine ⟨⟨_, hstep.program⟩, hkeeps.trans hstep.keeps, fun place hplace => ?_⟩
    exact (hstep.others place hplace).trans (hothers place hplace)

end IdentityVault
