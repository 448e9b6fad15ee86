import IdentityVault.Disk.Path
import IdentityVault.Program.Basic
import IdentityVault.Text.Quoted

/-! Where the identity is kept below a data directory, and which data directory is the default. -/
namespace IdentityVault

structure StorageLayout where
  dataDirectory : Path
  deriving DecidableEq

namespace StorageLayout

def storageDirectory (l : StorageLayout) : Path := Path.join l.dataDirectory "storage"

def identityDirectory (l : StorageLayout) : Path := Path.join l.storageDirectory "identity"

def identityKey (l : StorageLayout) : Path := Path.join l.identityDirectory "identity_key"

def salt (l : StorageLayout) : Path := Path.join l.storageDirectory "salt"

/-- Files are written under this name first. -/
def temporary (p : Path) : Path := p ++ ".tmp"

def inspect (l : StorageLayout) : String :=
  "StoragePaths \x7b data_dir: " ++ Text.quotedPath l.dataDirectory ++ ", storage: " ++
    Text.quotedPath l.storageDirectory ++ " \x7d"

end StorageLayout

/-- The home directory of an account whose environment does not name one. -/
def accountHome : Path := "/root"

/-- An absolute `XDG_DATA_HOME` is the place for data; otherwise it is below the home directory. -/
def defaultDataDirectory : Program Path := do
  let home ← Program.perform (.variable "HOME")
  let data ← Program.perform (.variable "XDG_DATA_HOME")
  let home := match home with
    | some home => if home.isEmpty then accountHome else home
    | none => accountHome
  let place := match data with
    | some data => if Path.isAbsolute data then data else Path.join home ".local/share"
    | none => Path.join home ".local/share"
  return Path.join place "sigil"

end IdentityVault
