import IdentityVault.Command.Arguments
import IdentityVault.Command.Status
import IdentityVault.Command.Unlocking
import IdentityVault.Engine.Registration
import IdentityVault.Logging.Sink
import IdentityVault.Settings.File
import IdentityVault.Store.Sealing

/-! The commands, and the program as a whole. -/
namespace IdentityVault

inductive CommandError where
  | unlocking (cause : UnlockingError)
  | registration (cause : RegistrationError EngineError)
  | password (cause : PasswordError)
  | store (cause : StoreError)
  | settings (cause : SettingsError)
  | settingsExist (p : Path)
  deriving DecidableEq

def CommandError.message : CommandError → String
  | .unlocking cause => cause.message
  | .registration cause => cause.message EngineError.message
  | .password cause => cause.message
  | .store cause => cause.message
  | .settings cause => cause.message
  | .settingsExist p => s!"Config file '{p}' already exists (use --force to overwrite)"

def programVersion : String := "0.1.0"

def versionLine : String := "sigil " ++ programVersion

/-- Unlock the identity and hand it to an engine. -/
def runUnlock (s : Settings) (passwordFile : Option Path) :
    Program (Except CommandError Unit) := do
  let source ← PasswordSource.choose passwordFile
  match ← Vault.unlockFrom ⟨⟨s.dataDirectory⟩, .unloaded⟩ source with
  | .error e => return .error (.unlocking e)
  | .ok vault =>
    match StandIn.interface.register {} with
    | .error e => return .error (.registration e)
    | .ok engine =>
      Program.log EngineInterface.openedEvent
      let ((result, _), host) := (StandIn.interface.install engine vault).run ⟨{}, []⟩
      Program.logAll host.log
      match result with
      | .error e =>
        Program.log (EngineInterface.closedEvent host.state)
        return .error (.registration e)
      | .ok fingerprint =>
        Program.print "✅ Identity unlocked"
        Program.print ("   Fingerprint: " ++ fingerprint)
        Program.log (EngineInterface.closedEvent host.state)
        return .ok ()

/-- Protect the identity with a new password. -/
def runSeal (s : Settings) (passwordFile : Option Path) :
    Program (Except CommandError Unit) := do
  let layout : StorageLayout := ⟨s.dataDirectory⟩
  let source ← PasswordSource.choose passwordFile
  match ← source.readNew with
  | .error e => return .error (.password e)
  | .ok password =>
    match ← layout.sealIdentity password with
    | .error e => return .error (.store e)
    | .ok () =>
      Program.print "🔒 Identity sealed"
      Program.print ("   Bundle: " ++ layout.identityKey)
      Program.print ("   Salt:   " ++ layout.salt)
      return .ok ()

def printAll : List String → Program Unit
  | [] => .done ()
  | line :: rest => (Program.print line).bind fun _ => printAll rest

def runStatus (s : Settings) (json : Bool) : Program (Except CommandError Unit) := do
  match ← StatusReport.collect ⟨s.dataDirectory⟩ with
  | .error e => return .error (.store e)
  | .ok report =>
    printAll (if json then [report.json] else report.lines)
    return .ok ()

/-- Write a settings file to the given place, or to the data directory. -/
def runInitConfig (file : Option Path) (s : Settings) (force : Bool) :
    Program (Except CommandError Unit) := do
  let p := file.getD (Settings.defaultFile s.dataDirectory)
  let taken ← Program.perform (.exist p)
  if taken && !force then return .error (.settingsExist p)
  else
    match ← Settings.createDefault p s.dataDirectory with
    | .error e => return .error (.settings e)
    | .ok () =>
      Program.print ("✅ Wrote " ++ p)
      return .ok ()

def CommandLine.loadSettings (c : CommandLine) : Program (Except SettingsError Settings) :=
  Settings.resolve c.config c.dataDirectory

def CommandLine.execute (c : CommandLine) (s : Settings) : Program (Except CommandError Unit) :=
  match c.command with
  | .unlock passwordFile => runUnlock s passwordFile
  | .seal passwordFile => runSeal s passwordFile
  | .status json => runStatus s json
  | .initConfig force => runInitConfig c.config s force
  | .version => do
      printAll [versionLine, "Identity store and protocol engine bridge"]
      return .ok ()

def usageLines : List String :=
  ["Local identity store and protocol engine bridge", "",
    "Usage: sigil [--config <CONFIG>] [--data-dir <DATA_DIR>] <COMMAND>", "",
    "Commands:",
    "  unlock       Unlock the identity and register it with the protocol engine",
    "  seal         Protect a plain identity with a password",
    "  status       Show identity store status without unlocking",
    "  init-config  Write a commented default config file",
    "  version      Display version information"]

/-- The usage, behind the reason why it is shown. -/
def usageComplaint (e : UsageError) : List String :=
  match e.reason? with
  | some reason => ["error: " ++ reason, ""] ++ usageLines
  | none => usageLines

def complainAll : List String → Program Unit
  | [] => .done ()
  | line :: rest => (Program.complain line).bind fun _ => complainAll rest

/-- The whole program: its exit code for a list of arguments. -/
def runProgram (words : List String) : Program Nat := do
  match Arguments.parse words with
  | .error e =>
    match e with
    | .help => printAll usageLines
    | .version => Program.print versionLine
    | e => complainAll (usageComplaint e)
    return e.exitCode
  | .ok line =>
    match ← line.loadSettings with
    | .error e =>
      Program.complain ("Error: " ++ e.message)
      return 1
    | .ok settings =>
      match ← LogSink.start settings.logLevel settings.logFile with
      | .error e =>
        Program.complain ("Error: failed to initialise logging: " ++ e.message)
        return 1
      | .ok sink =>
        match ← sink.install (line.execute settings) with
        | .error e =>
          Program.complain ("Error: " ++ e.message)
          return 1
        | .ok () => return 0

end IdentityVault
