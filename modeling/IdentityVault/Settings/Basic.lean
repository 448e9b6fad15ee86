import IdentityVault.Store.Layout
import IdentityVault.Toml.Quoted
import IdentityVault.Toml.Reader

/-! The settings and their file. A file need not set everything: what it leaves out has a
default. -/
namespace IdentityVault

structure Settings where
  dataDirectory : Path
  logLevel : String := "info"
  logFile : Option Path := none
  deriving DecidableEq

inductive SettingsError where
  | read (p : Path) (cause : OsError)
  | parse (p : Path)
  | write (p : Path) (cause : OsError)
  deriving DecidableEq

def SettingsError.message : SettingsError → String
  | .read p cause => s!"Failed to read config file '{p}': {cause.message}"
  | .parse p => s!"Failed to parse config file '{p}'"
  | .write p cause => s!"Failed to write config file '{p}': {cause.message}"

namespace Settings

open Toml (Value)

def fileName : String := "config.toml"

/-- The settings file in a data directory. -/
def defaultFile (dataDirectory : Path) : Path := Path.join dataDirectory fileName

/-- The data directory that a storage section names. A section may also be written as a list, and
a date has none of the fields that are looked for. -/
def storageOf (default : Path) : Value → Option Path
  | .table fields =>
      match fields.lookup "data_dir" with
      | none => some default
      | some (.string p) => some p
      | some _ => none
  | .array [] => some default
  | .array (.string p :: _) => some p
  | .datetime _ => some default
  | _ => none

/-- The level and the log file that a logging section names. -/
def loggingOf (default : Settings) : Value → Option Settings
  | .table fields => do
      let level ← match fields.lookup "level" with
        | none => some default.logLevel
        | some (.string level) => some level
        | some _ => none
      let file ← match fields.lookup "file" with
        | none => some none
        | some (.string p) => some (some p)
        | some _ => none
      some { default with logLevel := level, logFile := file }
  | .array (.string level :: .string p :: _) =>
      some { default with logLevel := level, logFile := some p }
  | .datetime _ => some default
  | _ => none

/-- The settings of a document; sections and fields that are not known do not matter. -/
def ofFields? (default : Path) (fields : List (String × Value)) : Option Settings := do
  let directory ← match fields.lookup "storage" with
    | none => some default
    | some section_ => storageOf default section_
  match fields.lookup "logging" with
  | none => some { dataDirectory := directory }
  | some section_ => loggingOf { dataDirectory := directory } section_

def ofText? (default : Path) (text : String) : Option Settings :=
  (Toml.read text).bind (ofFields? default)

def quoted (s : String) : String := String.ofList (Toml.writeString s.toList)

/-- The text of a settings file that sets everything. -/
def toText (s : Settings) : String :=
  "[storage]\ndata_dir = " ++ quoted s.dataDirectory ++ "\n\n[logging]\nlevel = " ++
    quoted s.logLevel ++ "\n" ++
    match s.logFile with
    | some p => "file = " ++ quoted p ++ "\n"
    | none => ""

/-- A settings file with comments. The data directory stands in it as it is. -/
def template (dataDirectory : Path) : String :=
  "# Sigil Configuration\n" ++
  "#\n" ++
  "# Command-line flags (--data-dir) override values in this file.\n" ++
  "\n" ++
  "[storage]\n" ++
  "# Data directory. The identity key bundle is read from\n" ++
  "# <data_dir>/storage/identity/identity_key and its salt from\n" ++
  "# <data_dir>/storage/salt\n" ++
  "data_dir = \"" ++ dataDirectory ++ "\"\n" ++
  "\n" ++
  "[logging]\n" ++
  "# Log level: trace, debug, info, warn, error\n" ++
  "# RUST_LOG takes precedence when set\n" ++
  "level = \"info\"\n" ++
  "\n" ++
  "# Log file path (optional, logs to stderr if not specified)\n" ++
  "# file = \"/var/log/sigil/sigil.log\"\n"

end Settings

end IdentityVault
