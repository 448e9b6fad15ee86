import IdentityVault.Logging.Event
import IdentityVault.Text.Alphanumeric

/-! Log filters: lists of directives, parted by commas, that say which events are kept. A directive
is a level, a target, or both joined by an equals sign; between them may stand a span in brackets
with fields in braces. The most specific directive for an event decides. -/
namespace IdentityVault

inductive FilterError where
  | directive
  | level
  deriving DecidableEq

def FilterError.message : FilterError → String
  | .directive => "invalid filter directive"
  | .level => "error parsing level filter: expected one of \"off\", \"error\", \"warn\", " ++
      "\"info\", \"debug\", \"trace\", or a number 0-5"

/-- One directive. Events up to the rank of its level are kept. -/
structure Directive where
  target : Option (List Char) := none
  /-- A directive for a span keeps no event here, because no spans are opened. -/
  inSpan : Bool := false
  /-- Fields that an event needs to have; one that asks for a value works like a span. -/
  fields : List (List Char) := []
  rank : Nat := Level.trace.rank
  deriving DecidableEq

namespace Directive

/-- A level by its number or by its name in any case. -/
def rankOf? (s : List Char) : Option Nat :=
  let digits := match s with
    | '+' :: rest => rest
    | rest => rest
  if digits ≠ [] ∧ digits.all fun c => '0' ≤ c && c ≤ '9' then
    let n := digits.foldl (fun n c => 10 * n + (c.toNat - '0'.toNat)) 0
    if n ≤ Level.trace.rank then some n else none
  else match String.ofList (s.map Char.toLower) with
    | "off" => some 0
    | "error" => some Level.error.rank
    | "warn" => some Level.warning.rank
    | "info" => some Level.info.rank
    | "debug" => some Level.debug.rank
    | "trace" => some Level.trace.rank
    | _ => none

/-- Where the scan of a directive stands, with the part that it is in. -/
inductive Position where
  | start
  | levelOrTarget (part : List Char)
  | span (part : List Char)
  | field (part : List Char)
  | afterFields
  | afterSpan
  | level (part : List Char)

def canStart (c : Char) : Bool := Text.isAlphanumeric c || c = '-' || c = ':' || c = '_'

/-- A field name, or a field name and a value. -/
def addField (d : Directive) (part : List Char) : Except FilterError Directive :=
  if part = [] then .error .directive
  else if part.contains '=' then .ok { d with inSpan := true }
  else .ok { d with fields := d.fields ++ [part] }

/-- A lone word is a level if it can be one; a target alone keeps every event. -/
def finishWord (d : Directive) (part : List Char) : Directive :=
  match rankOf? part with
  | some rank => { d with rank := rank }
  | none => { d with target := some part }

def finishLevel (d : Directive) (part : List Char) : Except FilterError Directive :=
  if part = [] then .ok d
  else match rankOf? part with
    | some rank => .ok { d with rank := rank }
    | none => .error .level

/-- Read a directive. The first of two characters tells the parts apart, the second is what a part
is made of; behind the pairs follow the characters that the last part has besides. -/
def scan : Position → Directive → List (Char × Char) → List Char → Except FilterError Directive
  | .levelOrTarget part, d, [], rest => .ok (finishWord d (part ++ rest))
  | .level part, d, [], rest => finishLevel d (part ++ rest)
  | .afterSpan, d, [], _ => .ok d
  | _, _, [], _ => .error .directive
  | .start, d, (c, x) :: more, rest =>
      if c = '[' then scan (.span []) d more rest
      else if canStart c then scan (.levelOrTarget [x]) d more rest
      else .error .directive
  | .levelOrTarget part, d, (c, x) :: more, rest =>
      if c = '=' then scan (.level []) { d with target := some part } more rest
      else if c = '[' then scan (.span []) { d with target := some part } more rest
      else scan (.levelOrTarget (part ++ [x])) d more rest
  | .span part, d, (c, x) :: more, rest =>
      if c = ']' then scan .afterSpan { d with inSpan := true } more rest
      else if c = '\x7b' then scan (.field []) { d with inSpan := part ≠ [] } more rest
      else scan (.span (part ++ [x])) d more rest
  | .field part, d, (c, x) :: more, rest =>
      if c = '\x7d' then
        match d.addField part with
        | .ok d => scan .afterFields d more rest
        | .error e => .error e
      else scan (.field (part ++ [x])) d more rest
  | .afterFields, d, (c, _) :: more, rest =>
      if c = ']' then scan .afterSpan d more rest else .error .directive
  | .afterSpan, d, (c, _) :: more, rest =>
      if c = '=' then scan (.level []) d more rest else .error .directive
  | .level part, d, (_, x) :: more, rest => scan (.level (part ++ [x])) d more rest

/-- White space of all scripts. -/
def isSpace (c : Char) : Bool :=
  let n := c.toNat
  n = 0x20 || (0x9 ≤ n && n ≤ 0xd) || n = 0x85 || n = 0xa0 || n = 0x1680 ||
    (0x2000 ≤ n && n ≤ 0x200a) || n = 0x2028 || n = 0x2029 || n = 0x202f || n = 0x205f || n = 0x3000

/-- A directive from its text. Blanks around it do not count where its parts are told apart, but
they do where the parts are cut out. -/
def ofText (s : List Char) : Except FilterError Directive :=
  let trimmed := ((s.dropWhile isSpace).reverse.dropWhile isSpace).reverse
  scan .start {} (trimmed.zip s) (s.drop trimmed.length)

/-- Whether a directive speaks about an event. -/
def isAbout (d : Directive) (e : LogEvent) : Bool :=
  !d.inSpan &&
    (match d.target with
      | some target => target.isPrefixOf e.subsystem.path.toList
      | none => true) &&
    d.fields.all fun f => f = "message".toList || e.fields.any fun (key, _) => key.toList = f

/-- Whether the first list stands in front of the second in a dictionary, or is the same. -/
def comesFirst : List Nat → List Nat → Bool
  | [], _ => true
  | _ :: _, [] => false
  | a :: as, b :: bs => a < b || (a = b && comesFirst as bs)

/-- Longer targets are more specific, and then more fields; fields in a later order are preferred
among as many. -/
def yieldsTo (d other : Directive) : Bool :=
  let length (d : Directive) : Nat := (d.target.map fun t => t.length + 1).getD 0
  let spelling (d : Directive) : List Nat :=
    d.fields.flatMap fun f => f.map (fun c => c.toNat + 1) ++ [0]
  if length d ≠ length other then length d < length other
  else if d.fields.length ≠ other.fields.length then d.fields.length < other.fields.length
  else comesFirst (spelling d) (spelling other)

end Directive

/-- Whether a list of directives keeps an event. Of equally specific directives the last one
counts. -/
def keeps (filter : List Directive) (e : LogEvent) : Bool :=
  let best := filter.foldl (fun best d =>
    if d.isAbout e then
      match best with
      | some b => if Directive.yieldsTo b d then some d else best
      | none => some d
    else best) none
  match best with
  | some d => e.level.rank ≤ d.rank
  | none => false

/-- A filter from its text. Without any directive errors are kept. -/
def filterOfText (s : String) : Except FilterError (List Directive) :=
  match (s.toList.splitOn ',').filter (· ≠ []) with
  | [] => .ok [{ rank := Level.error.rank }]
  | parts => parts.mapM Directive.ofText

end IdentityVault
