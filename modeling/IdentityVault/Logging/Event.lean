/-! Log events: how severe they are, which part of the program speaks, and their one-line text. -/
namespace IdentityVault

inductive Level where
  | error
  | warning
  | info
  | debug
  | trace
  deriving DecidableEq

namespace Level

def name : Level → String
  | .error => "ERROR"
  | .warning => "WARN"
  | .info => "INFO"
  | .debug => "DEBUG"
  | .trace => "TRACE"

/-- One for the most severe level, five for the least. -/
def rank : Level → Nat
  | .error => 1
  | .warning => 2
  | .info => 3
  | .debug => 4
  | .trace => 5

end Level

/-- The parts of the program that write to the log. -/
inductive Subsystem where
  | keyMaterial
  | identity
  | prompt
  | hmac
  | callbacks
  | session
  | unlocking
  deriving DecidableEq

/-- The name that log filters know a part by. -/
def Subsystem.path : Subsystem → String
  | .keyMaterial => "sigil::crypto::key_material"
  | .identity => "sigil::store::identity"
  | .prompt => "sigil::store::prompt"
  | .hmac => "sigil::engine::bridge"
  | .callbacks => "sigil::engine::ffi"
  | .session => "sigil::engine::context"
  | .unlocking => "sigil::cli::unlock"

structure LogEvent where
  level : Level
  subsystem : Subsystem
  message : String
  fields : List (String × String) := []
  deriving DecidableEq

/-- The level, the message, and `key=value` for each field. -/
def LogEvent.line (e : LogEvent) : String :=
  String.intercalate " "
    ([e.level.name, e.message] ++ e.fields.map fun (key, value) => key ++ "=" ++ value)

end IdentityVault
