import IdentityVault.Settings.Basic

/-! Finding, reading and writing the settings file. -/
namespace IdentityVault

namespace Settings

def load (p : Path) : Program (Except SettingsError Settings) := do
  let default ← defaultDataDirectory
  match ← Program.readText p with
  | .error e => return .error (.read p e)
  | .ok text =>
    match ofText? default text with
    | some s => return .ok s
    | none => return .error (.parse p)

/-- The settings from the file that is named, which has to exist, or from the one in the data
directory, which may be missing. -/
def consult (file dataDirectory : Option Path) : Program (Except SettingsError Settings) := do
  match file with
  | some p => load p
  | none =>
    let directory ← match dataDirectory with
      | some directory => pure directory
      | none => defaultDataDirectory
    if ← Program.perform (.exist (defaultFile directory)) then load (defaultFile directory)
    else return .ok { dataDirectory := directory }

/-- A data directory that is given wins over the one in the file. -/
def overrideDirectory (dataDirectory : Option Path) (s : Settings) : Settings :=
  match dataDirectory with
  | some directory => { s with dataDirectory := directory }
  | none => s

def resolve (file dataDirectory : Option Path) : Program (Except SettingsError Settings) := do
  return (← consult file dataDirectory).map (overrideDirectory dataDirectory)

/-- Write a text, making the directories above it. -/
def writeText (p : Path) (text : String) : Program (Except SettingsError Unit) := do
  match ← Program.perform (.change (.makeDirectories (Path.parent p))) with
  | .error e => return .error (.write p e)
  | .ok () =>
    match ← Program.perform (.change (.write p (Bytes.ofText text))) with
    | .error e => return .error (.write p e)
    | .ok () => return .ok ()

def save (s : Settings) (p : Path) : Program (Except SettingsError Unit) := writeText p s.toText

def createDefault (p dataDirectory : Path) : Program (Except SettingsError Unit) :=
  writeText p (template dataDirectory)

end Settings

end IdentityVault
