/-! The command line: options for every command, then a command with options of its own. Options
are long words; a value follows its option or is joined to it by an equals sign. -/
namespace IdentityVault

inductive Command where
  | unlock (passwordFile : Option String)
  | seal (passwordFile : Option String)
  | status (json : Bool)
  | initConfig (force : Bool)
  | version
  deriving DecidableEq

structure CommandLine where
  config : Option String
  dataDirectory : Option String
  command : Command
  deriving DecidableEq

/-- Why a command line is not carried out. -/
inductive UsageError where
  | help
  | version
  | helpForNothing
  | missingCommand
  | unknownCommand
  | unknownArgument
  | missingValue
  | unneededValue
  | repeatedOption
  deriving DecidableEq

/-- Asking for help or for the version is no failure. -/
def UsageError.exitCode : UsageError → Nat
  | .help => 0
  | .version => 0
  | _ => 2

/-- What is wrong, where something is. -/
def UsageError.reason? : UsageError → Option String
  | .missingCommand => some "a command is missing"
  | .unknownCommand => some "the command is not known"
  | .unknownArgument => some "an argument is not expected"
  | .missingValue => some "an option needs a value"
  | .unneededValue => some "an option takes no value"
  | .repeatedOption => some "an option is given twice"
  | _ => none

namespace Arguments

inductive Verb where
  | unlock
  | seal
  | status
  | initConfig
  | version
  deriving DecidableEq

def Verb.ofName? : String → Option Verb
  | "unlock" => some .unlock
  | "seal" => some .seal
  | "status" => some .status
  | "init-config" => some .initConfig
  | "version" => some .version
  | _ => none

/-- Options with a value. -/
inductive Valued where
  | config
  | dataDirectory
  | passwordFile
  deriving DecidableEq

inductive Switch where
  | json
  | force
  deriving DecidableEq

inductive Flag where
  | valued (o : Valued)
  | switch (s : Switch)
  | help
  | version
  deriving DecidableEq

/-- What a long option means in front of the command or behind one. -/
def long? : Option Verb → String → Option Flag
  | _, "config" => some (.valued .config)
  | _, "data-dir" => some (.valued .dataDirectory)
  | _, "help" => some .help
  | none, "version" => some .version
  | some .unlock, "password-file" => some (.valued .passwordFile)
  | some .seal, "password-file" => some (.valued .passwordFile)
  | some .status, "json" => some (.switch .json)
  | some .initConfig, "force" => some (.switch .force)
  | _, _ => none

def short? : Option Verb → Char → Option Flag
  | _, 'h' => some .help
  | none, 'V' => some .version
  | _, _ => none

/-- The options given on one side of the command. An option is pending from its word on until
something else is looked at; only then is it known whether it has a value, and whether it was
given before. -/
structure Options where
  values : List (Valued × String) := []
  switches : List Switch := []
  pending : Option (Valued × Option String) := none

namespace Options

def assign (o : Options) (option : Valued) (value : String) : Except UsageError Options :=
  match o.values.lookup option with
  | some _ => .error .repeatedOption
  | none => .ok { o with values := (option, value) :: o.values }

/-- Settle the pending option. -/
def settle (o : Options) : Except UsageError Options :=
  match o.pending with
  | none => .ok o
  | some (_, none) => .error .missingValue
  | some (option, some value) => { o with pending := none }.assign option value

/-- A flag without a value of its own. -/
def react (o : Options) : Flag → Except UsageError Options
  | .help => do
      let _ ← o.settle
      throw .help
  | .version => do
      let _ ← o.settle
      throw .version
  | .switch s => do
      let o ← o.settle
      if s ∈ o.switches then throw .repeatedOption
      return { o with switches := s :: o.switches }
  | .valued option => do
      let o ← o.settle
      return { o with pending := some (option, none) }

/-- A flag with a value joined to it. -/
def reactWith (o : Options) (flag : Flag) (value : String) : Except UsageError Options :=
  match flag with
  | .valued option => do
      let o ← o.settle
      o.assign option value
  | _ => .error .unneededValue

def awaitsValue (o : Options) : Bool :=
  match o.pending with
  | some (_, none) => true
  | _ => false

end Options

/-- The part before the first equals sign and the part behind it. -/
def splitValue (s : List Char) : String × Option String :=
  (String.ofList (s.takeWhile (· ≠ '=')),
    match s.dropWhile (· ≠ '=') with
    | [] => none
    | _ :: value => some (String.ofList value))

/-- Several short options in one word. -/
def reactShort (scope : Option Verb) : List Char → Options → Except UsageError Options
  | [], o => .ok o
  | c :: rest, o =>
      match short? scope c with
      | none => .error .unknownArgument
      | some flag => do reactShort scope rest (← o.react flag)

/-- One word that is neither a command nor a value. -/
def reactWord (scope : Option Verb) (o : Options) : List Char → Option (Except UsageError Options)
  | '-' :: '-' :: rest =>
      let (name, value) := splitValue rest
      some (match long? scope name, value with
        | none, _ => .error .unknownArgument
        | some flag, none => o.react flag
        | some flag, some value => o.reactWith flag value)
  | '-' :: c :: rest => some (reactShort scope (c :: rest) o)
  | _ => none

/-- A word in a place where none is wanted. -/
def misplaced (scope : Option Verb) (literal : Bool) (word : String) : UsageError :=
  match scope with
  | some _ => .unknownArgument
  | none =>
      if literal && ((Verb.ofName? word).isSome || word = "help") then .unknownArgument
      else .unknownCommand

/-- Help for a command. -/
def helpOn : List String → UsageError
  | [] => .help
  | [word] => if (Verb.ofName? word).isSome || word = "help" then .help else .unknownCommand
  | _ => .unknownCommand

/-- The options up to the end or up to a command, and the words behind the command. -/
def scan (scope : Option Verb) :
    List String → Options → Except UsageError (Options × Option (Verb × List String))
  | [], o => .ok (o, none)
  | word :: rest, o =>
      if scope = none ∧ !o.awaitsValue ∧ word = "help" then .error (helpOn rest)
      else match (if scope = none ∧ !o.awaitsValue then Verb.ofName? word else none) with
        | some verb => .ok (o, some (verb, rest))
        | none =>
          if word = "--" then
            match rest with
            | [] => .ok (o, none)
            | next :: _ => .error (misplaced scope true next)
          else match reactWord scope o word.toList with
            | some result => do scan scope rest (← result)
            | none =>
              match o.pending with
              | some (option, none) =>
                  scan scope rest { o with pending := some (option, some word) }
              | _ => .error (misplaced scope false word)

def commandOf (verb : Verb) (o : Options) : Command :=
  match verb with
  | .unlock => .unlock (o.values.lookup .passwordFile)
  | .seal => .seal (o.values.lookup .passwordFile)
  | .status => .status (.json ∈ o.switches)
  | .initConfig => .initConfig (.force ∈ o.switches)
  | .version => .version

/-- Options behind the command win over those in front of it. -/
def combine (front behind : Options) (verb : Verb) : CommandLine :=
  let value (option : Valued) : Option String :=
    behind.values.lookup option <|> front.values.lookup option
  ⟨value .config, value .dataDirectory, commandOf verb behind⟩

/-- Read the words behind the name of the program. -/
def parse (words : List String) : Except UsageError CommandLine := do
  let (front, command) ← scan none words {}
  match command with
  | some (verb, rest) =>
    let (behind, _) ← scan (some verb) rest {}
    let behind ← behind.settle
    let front ← front.settle
    return combine front behind verb
  | none =>
    let front ← front.settle
    if front.values.isEmpty then throw .helpForNothing else throw .missingCommand

end Arguments

end IdentityVault
