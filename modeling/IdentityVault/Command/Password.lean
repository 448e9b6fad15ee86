import IdentityVault.Program.Basic
import IdentityVault.Text.Quoted

/-! Where a password comes from: a file, a variable of the environment, or the terminal. -/
namespace IdentityVault

inductive PasswordSource where
  | file (p : Path)
  | environment
  | terminal
  deriving DecidableEq

inductive PasswordError where
  | fileNotFound (p : Path)
  | file (cause : OsError)
  | variableMissing
  | terminal (cause : OsError)
  | empty
  | mismatch
  deriving DecidableEq

def passwordVariable : String := "SIGIL_PASSWORD"

def PasswordError.message : PasswordError → String
  | .fileNotFound p => s!"Password file not found: {p}"
  | .file cause => s!"Failed to read password file: {cause.message}"
  | .variableMissing => passwordVariable ++ " env var not set"
  | .terminal cause => s!"Failed to read password from terminal: {cause.message}"
  | .empty => "Password cannot be empty"
  | .mismatch => "Passwords do not match"

namespace PasswordSource

/-- Only at a terminal can a second password be asked for. -/
def isInteractive : PasswordSource → Bool
  | .terminal => true
  | _ => false

def inspect : PasswordSource → String
  | .file p => "File(" ++ Text.quoted p ++ ")"
  | .environment => "EnvVar"
  | .terminal => "Stdin"

/-- A file that is named goes first, then the variable. -/
def choose (file : Option Path) : Program PasswordSource := do
  match file with
  | some p => return .file p
  | none =>
    match ← Program.perform (.variable passwordVariable) with
    | some _ => return .environment
    | none => return .terminal

/-- A text without the line ends behind it. -/
def trimLineEnds (s : String) : String :=
  String.ofList (s.toList.reverse.dropWhile fun c => c = '\n' || c = '\r').reverse

/-- A password as the source has it. -/
def fetch (question : String) : PasswordSource → Program (Except PasswordError String)
  | .file p => do
      if ← Program.perform (.exist p) then
        match ← Program.readText p with
        | .ok text => return .ok (trimLineEnds text)
        | .error e => return .error (.file e)
      else return .error (.fileNotFound p)
  | .environment => do
      Program.complain ("⚠️  WARNING: Using " ++ passwordVariable ++ " env var is insecure")
      Program.complain "   Consider using --password-file instead"
      match ← Program.perform (.variable passwordVariable) with
      | some password => return .ok password
      | none => return .error .variableMissing
  | .terminal => do
      match ← Program.perform (.ask question) with
      | .ok password => return .ok password
      | .error e => return .error (.terminal e)

/-- A password, which must not be empty. -/
def read (source : PasswordSource) (question : String) :
    Program (Except PasswordError String) := do
  match ← source.fetch question with
  | .error e => return .error e
  | .ok password => if password.isEmpty then return .error .empty else return .ok password

/-- A new password. At a terminal it has to be repeated. -/
def readNew (source : PasswordSource) : Program (Except PasswordError String) := do
  match ← source.read "New identity password: " with
  | .error e => return .error e
  | .ok password =>
    if source.isInteractive then
      match ← source.read "Repeat password: " with
      | .error e => return .error e
      | .ok again => if again = password then return .ok password else return .error .mismatch
    else return .ok password

end PasswordSource

end IdentityVault
