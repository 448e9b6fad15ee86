import IdentityVault.Disk.Node
import IdentityVault.Disk.OsError
import IdentityVault.Disk.Path

/-! A disk without links or permissions: a tree, a working directory, and the calls on paths.
A path is walked name by name, and every name but the last has to lead to a directory. -/
namespace IdentityVault

structure FileSystem where
  root : Node
  workingDirectory : List String

namespace FileSystem

/-- Bytes in one name. -/
def nameLimit : Nat := 255

/-- Bytes in one path. -/
def pathLimit : Nat := 4095

def empty : FileSystem := ⟨.directory [], []⟩

def node? (fs : FileSystem) (place : List String) : Option Node := fs.root.find? place

/-- Step from a directory into a directory. -/
def enter (fs : FileSystem) (place : List String) (name : String) :
    Except OsError (List String) :=
  if name = ".." then .ok place.dropLast
  else if nameLimit < name.utf8ByteSize then .error .nameTooLong
  else match fs.node? (place ++ [name]) with
    | some (.directory _) => .ok (place ++ [name])
    | some (.file _) => .error .notADirectory
    | none => .error .notFound

/-- What a path means: a directory that exists, or a name in one, which may be bound or not and
may be too long. A slash behind the name asks for a directory. -/
inductive Place where
  | directory (place : List String)
  | entry (parent : List String) (name : String) (slash : Bool)

def resolve (fs : FileSystem) (p : Path) : Except OsError Place :=
  if p.toList.contains '\x00' then .error .zeroInPath
  else if p.toList.isEmpty then .error .notFound
  else if pathLimit < p.utf8ByteSize then .error .nameTooLong
  else
    let start := if p.isAbsolute then [] else fs.workingDirectory
    let slash := p.segments.getLast? = some ""
    let last := (p.segments.filter (· ≠ "")).getLastD "."
    if last = "." ∨ last = ".." then do
      let place ← p.names.foldlM fs.enter start
      return .directory place
    else do
      let parent ← p.names.dropLast.foldlM fs.enter start
      return .entry parent last slash

/-- The node that a name in a directory is bound to. -/
def bound? (fs : FileSystem) (parent : List String) (name : String) :
    Except OsError (Option Node) :=
  if nameLimit < name.utf8ByteSize then .error .nameTooLong
  else .ok (fs.node? (parent ++ [name]))

/-- The node at a path. -/
def lookup (fs : FileSystem) (p : Path) : Except OsError Node := do
  let place ← fs.resolve p
  match place with
  | .directory place =>
      match fs.node? place with
      | some node => .ok node
      | none => .error .notFound
  | .entry parent name slash =>
      match ← fs.bound? parent name with
      | some (.file content) => if slash then .error .notADirectory else .ok (.file content)
      | some node => .ok node
      | none => .error .notFound

def exist (fs : FileSystem) (p : Path) : Bool := (fs.lookup p).isOk

def isDirectory (fs : FileSystem) (p : Path) : Bool :=
  match fs.lookup p with
  | .ok (.directory _) => true
  | _ => false

def contentAt (fs : FileSystem) (p : Path) : Except OsError Bytes := do
  match ← fs.lookup p with
  | .file content => .ok content
  | .directory _ => .error .isADirectory

def set (fs : FileSystem) (place : List String) (value : Option Node) : FileSystem :=
  { fs with root := fs.root.put value place }

/-- Make a file, or give an existing one new content made from the old. -/
def update (fs : FileSystem) (p : Path) (content : Bytes → Bytes) :
    Except OsError FileSystem := do
  match ← fs.resolve p with
  | .directory _ => .error .isADirectory
  | .entry parent name slash =>
      if slash then .error .isADirectory
      else match ← fs.bound? parent name with
        | some (.directory _) => .error .isADirectory
        | some (.file old) => .ok (fs.set (parent ++ [name]) (some (.file (content old))))
        | none => .ok (fs.set (parent ++ [name]) (some (.file (content []))))

def write (fs : FileSystem) (p : Path) (content : Bytes) : Except OsError FileSystem :=
  fs.update p fun _ => content

def append (fs : FileSystem) (p : Path) (more : Bytes) : Except OsError FileSystem :=
  fs.update p fun old => old ++ more

def makeDirectory (fs : FileSystem) (p : Path) : Except OsError FileSystem := do
  match ← fs.resolve p with
  | .directory _ => .error .alreadyExists
  | .entry parent name _ =>
      match ← fs.bound? parent name with
      | some _ => .error .alreadyExists
      | none => .ok (fs.set (parent ++ [name]) (some (.directory [])))

/-- Make the first of the paths, and before it those of the rest that are missing. What was made
before a failure stays. -/
def makeChain : List Path → FileSystem → FileSystem × Except OsError Unit
  | [], fs => (fs, .ok ())
  | p :: above, fs =>
      match fs.makeDirectory p with
      | .ok fs => (fs, .ok ())
      | .error .notFound =>
          match makeChain above fs with
          | (fs, .error e) => (fs, .error e)
          | (fs, .ok ()) =>
              match fs.makeDirectory p with
              | .ok fs => (fs, .ok ())
              | .error e => if fs.isDirectory p then (fs, .ok ()) else (fs, .error e)
      | .error e => if fs.isDirectory p then (fs, .ok ()) else (fs, .error e)

/-- Make a directory with all directories above it. An empty path and the root need nothing. -/
def makeDirectories (fs : FileSystem) (p : Path) : FileSystem × Except OsError Unit :=
  if p.names.isEmpty then (fs, .ok ()) else makeChain (p :: p.ancestors) fs

/-- Move a file over another or to a free name. -/
def rename (fs : FileSystem) (source target : Path) : Except OsError FileSystem := do
  match ← fs.resolve source, ← fs.resolve target with
  | .entry p₁ n₁ slash₁, .entry p₂ n₂ slash₂ =>
      match ← fs.bound? p₁ n₁, ← fs.bound? p₂ n₂ with
      | none, _ => .error .notFound
      | some (.directory _), _ => .error .isADirectory
      | some (.file _), some (.directory _) => .error .isADirectory
      | some (.file content), _ =>
          if slash₁ ∨ slash₂ then .error .notADirectory
          else .ok ((fs.set (p₁ ++ [n₁]) none).set (p₂ ++ [n₂]) (some (.file content)))
  | _, _ => .error .isADirectory

/-- Forget a file, or a directory with all in it. -/
def remove (fs : FileSystem) (p : Path) : Except OsError FileSystem := do
  match ← fs.resolve p with
  | .directory place => .ok (fs.set place none)
  | .entry parent name _ =>
      match ← fs.bound? parent name with
      | some _ => .ok (fs.set (parent ++ [name]) none)
      | none => .error .notFound

end FileSystem

namespace Node

mutual

/-- Every path below a directory, with the length of a file. -/
def listing (above : String) : Node → List (String × Option Nat)
  | .file _ => []
  | .directory entries => listingEntries above entries

def listingEntries (above : String) : List (String × Node) → List (String × Option Nat)
  | [] => []
  | (name, node) :: rest =>
      let here := above ++ name
      let size := match node with
        | .file content => some content.length
        | .directory _ => none
      (here, size) :: listing (here ++ "/") node ++ listingEntries above rest

end

end Node

/-- Every path below the working directory, with the length of a file. -/
def FileSystem.tree (fs : FileSystem) : List (String × Option Nat) :=
  match fs.node? fs.workingDirectory with
  | some node => node.listing ""
  | none => []

end IdentityVault
