import IdentityVault.Logging.Filter
import IdentityVault.Program.Basic

/-! Where log events go: through a filter, as lines with the time, to a file or to the standard
error. -/
namespace IdentityVault

structure LogSink where
  filter : List Directive
  /-- A log file; without one the log goes to the standard error. -/
  file : Option Path

inductive LoggingError where
  | filter (cause : FilterError)
  | file (cause : OsError)
  deriving DecidableEq

def LoggingError.message : LoggingError → String
  | .filter cause => cause.message
  | .file cause => cause.message

namespace LogSink

/-- The variable with a filter that goes before the one in the settings. -/
def filterVariable : String := "RUST_LOG"

/-- The filter of the environment, if there is one and it can be read, and else the given one. -/
def chooseFilter (level : String) : Program (Except FilterError (List Directive)) := do
  match ← Program.perform (.variable filterVariable) with
  | some text =>
    match filterOfText text with
    | .ok filter => return .ok filter
    | .error _ => return filterOfText level
  | none => return filterOfText level

/-- Choose the filter, and make the log file if there is none. -/
def start (level : String) (file : Option Path) : Program (Except LoggingError LogSink) := do
  match ← chooseFilter level with
  | .error e => return .error (.filter e)
  | .ok filter =>
    match file with
    | none => return .ok ⟨filter, none⟩
    | some p =>
      match ← Program.perform (.change (.append p [])) with
      | .error e => return .error (.file e)
      | .ok () => return .ok ⟨filter, some p⟩

/-- Characters that a terminal would act on, as escapes. -/
def harmless (c : Char) : List Char :=
  if c = '\x1b' then "\\x1b".toList
  else if c = '\x07' then "\\x07".toList
  else if c = '\x08' then "\\x08".toList
  else if c = '\x0c' then "\\x0c".toList
  else if c = '\x7f' then "\\x7f".toList
  else if 0x80 ≤ c.toNat ∧ c.toNat ≤ 0x9f then
    "\\u\x7b".toList ++ Nat.toDigits 16 c.toNat ++ ['\x7d']
  else [c]

/-- The time, the level in five places, and the event. -/
def line (time : String) (e : LogEvent) : String :=
  let safe := { e with message := String.ofList (e.message.toList.flatMap harmless) }
  time ++ (if e.level.name.length < 5 then "  " else " ") ++ safe.line

/-- Write an event that the filter keeps. A file that cannot be written loses it. -/
def write (sink : LogSink) (e : LogEvent) : Program Unit := do
  if keeps sink.filter e then
    let time ← Program.perform .clock
    match sink.file with
    | none => Program.complain (line time e)
    | some p =>
      let _ ← Program.perform (.change (.append p (Bytes.ofText (line time e ++ "\n"))))
      return ()

/-- A program whose log goes to a sink. -/
def install {α : Type} (sink : LogSink) (p : Program α) : Program α := do
  let (a, _) ← p.withEmissions (fun
    | .event e, () => sink.write e
    | e, () => Program.perform (.emit e)) ()
  return a

end LogSink

end IdentityVault
