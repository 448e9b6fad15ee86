import IdentityVault.Command.Run
import Std.Time.DateTime.PlainDateTime
import Std.Time.DateTime.Timestamp

/-! The program on a real machine: each call is carried out by the operating system. -/
namespace IdentityVault

/-- A failure of the operating system by its number. -/
def osErrorOf (e : IO.Error) : OsError :=
  match e with
  | .noFileOrDirectory .. => .notFound
  | .alreadyExists .. => .alreadyExists
  | .inappropriateType _ number reason =>
      if number = 20 then .notADirectory
      else if number = 21 then .isADirectory
      else .other (describe number reason)
  | .permissionDenied _ number reason => .other (describe number reason)
  | .noSuchThing _ number reason => .other (describe number reason)
  | .invalidArgument _ number reason => .other (describe number reason)
  | .otherError number reason => .other (describe number reason)
  | e => .other (toString e)
where
  describe (number : UInt32) (reason : String) : String :=
    reason ++ " (os error " ++ toString number.toNat ++ ")"

/-- The result of an action, with its failure as a value. -/
def attempt {α : Type} (action : IO α) : IO (Except OsError α) := do
  match ← action.toBaseIO with
  | .ok a => return .ok a
  | .error e => return .error (osErrorOf e)

/-- Write bytes behind what a file holds. -/
def appendTo (p : Path) (more : Bytes) : IO Unit := do
  let file ← IO.FS.Handle.mk p .append
  file.write ⟨more.toArray⟩

/-- Change the disk. -/
def applyChange : DiskChange → IO Unit
  | .makeDirectories p => if Path.names p = [] then pure () else IO.FS.createDirAll p
  | .write p content => IO.FS.writeBinFile p ⟨content.toArray⟩
  | .append p more => appendTo p more
  | .rename source target => IO.FS.rename source target

/-- Ask at the terminal. The answer is concealed where the terminal can do that. -/
def askTerminal (question : String) : IO String := do
  let terminal ← IO.FS.Handle.mk "/dev/tty" .readWrite
  terminal.putStr (question ++ "\x1b[8m")
  terminal.flush
  let line ← terminal.getLine
  terminal.putStr "\x1b[28m"
  terminal.flush
  return PasswordSource.trimLineEnds line

/-- A number in decimal with leading zeros. -/
def padded (width : Nat) (n : Int) : String :=
  let digits := toString n
  String.ofList (List.replicate (width - digits.length) '0') ++ digits

/-- The universal time with microseconds. -/
def timeText : IO String := do
  let sinceEpoch := (← Std.Time.Timestamp.now).toDurationSinceUnixEpoch
  let now := Std.Time.PlainDateTime.ofWallTime (Std.Time.WallTime.ofDuration sinceEpoch)
  return padded 4 now.year ++ "-" ++ padded 2 now.month.val ++ "-" ++ padded 2 now.day.val ++
    "T" ++ padded 2 now.hour.val ++ ":" ++ padded 2 now.minute.val ++ ":" ++
    padded 2 now.second.val ++ "." ++ padded 6 (now.nanosecond.val / 1000) ++ "Z"

/-- Carry out one call. Log lines go out as output, and the other traces stay inside. -/
def carryOut {β : Type} : Call β → IO β
  | .read p => attempt do return (← IO.FS.readBinFile p).data.toList
  | .exist p => do
      match ← attempt (IO.FS.Handle.mk p .read) with
      | .ok _ => return true
      | .error _ => return false
  | .change c => attempt (applyChange c)
  | .random count => do return (← IO.getRandomBytes count.toUSize).data.toList
  | .variable name => IO.getEnv name
  | .ask question => attempt (askTerminal question)
  | .clock => timeText
  | .emit (.standardOutput line) => IO.println line
  | .emit (.standardError line) => IO.eprintln line
  | .emit _ => pure ()

/-- Carry out a program call by call. -/
def Program.carryOut {α : Type} : Program α → IO α
  | .done a => pure a
  | .call c next => do
      let reply ← IdentityVault.carryOut c
      (next reply).carryOut

end IdentityVault

def main (words : List String) : IO UInt32 := do
  return (← (IdentityVault.runProgram words).carryOut).toUInt32
