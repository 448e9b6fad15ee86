import IdentityVault.Disk.FileSystem
import IdentityVault.Logging.Event

/-! What a program asks of its surroundings, call by call. The type of a call is the type of the
reply to it. -/
namespace IdentityVault

/-- What a program gives out without a reply. -/
inductive Emission where
  | event (e : LogEvent)
  | passwordRequested
  | standardOutput (line : String)
  | standardError (line : String)
  deriving DecidableEq

/-- The calls that change the disk. -/
inductive DiskChange where
  | makeDirectories (p : Path)
  | write (p : Path) (content : Bytes)
  | append (p : Path) (more : Bytes)
  | rename (source target : Path)
  deriving DecidableEq

/-- The disk after a change, and whether it succeeded. Only making directories can leave traces
of a failure. -/
def DiskChange.apply : DiskChange → FileSystem → FileSystem × Except OsError Unit
  | .makeDirectories p, fs => fs.makeDirectories p
  | .write p content, fs => keep fs (fs.write p content)
  | .append p more, fs => keep fs (fs.append p more)
  | .rename source target, fs => keep fs (fs.rename source target)
where
  keep (fs : FileSystem) : Except OsError FileSystem → FileSystem × Except OsError Unit
    | .ok changed => (changed, .ok ())
    | .error e => (fs, .error e)

inductive Call : Type → Type where
  | read (p : Path) : Call (Except OsError Bytes)
  | exist (p : Path) : Call Bool
  | change (c : DiskChange) : Call (Except OsError Unit)
  | random (count : Nat) : Call Bytes
  | variable (name : String) : Call (Option String)
  | ask (question : String) : Call (Except OsError String)
  | clock : Call String
  | emit (e : Emission) : Call Unit

end IdentityVault
