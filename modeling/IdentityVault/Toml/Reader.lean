import IdentityVault.Toml.Number
import IdentityVault.Toml.Tree

/-! Reading a TOML document. A document that breaks a rule anywhere has no value. -/
namespace IdentityVault.Toml

def skipBlanks (s : List Char) : List Char := s.dropWhile isBlank

def isKeyChar (c : Char) : Bool := c.isAlphanum || c = '-' || c = '_'

/-- One part of a key: bare, or a string on one line. -/
def simpleKey : List Char → Scanned
  | '\x22' :: rest => readBasic rest
  | '\x27' :: rest => readLiteral rest
  | s =>
      match s.takeWhile isKeyChar with
      | [] => none
      | key => some (key, s.dropWhile isKeyChar)

/-- A key of at most so many parts, with blanks around the points. -/
def dottedKey : (parts : Nat) → List Char → Option (List String × List Char)
  | 0, _ => none
  | parts + 1, s => do
      let (key, rest) ← simpleKey (skipBlanks s)
      match skipBlanks rest with
      | '.' :: rest => do
          let (keys, rest) ← dottedKey parts rest
          some (String.ofList key :: keys, rest)
      | rest => some ([String.ofList key], rest)

def key (s : List Char) : Option (List String × List Char) := dottedKey nestingLimit s

/-- A comment up to its line end. -/
def skipComment (s : List Char) : List Char :=
  match s with
  | '#' :: rest => rest.dropWhile isPlain
  | s => s

/-- Past the end of a line, or at the end of the text. -/
def lineEnd : List Char → Option (List Char)
  | '\n' :: rest => some rest
  | '\r' :: '\n' :: rest => some rest
  | [] => some []
  | _ => none

/-- Past blanks, a comment and the end of the line. -/
def restOfLine (s : List Char) : Option (List Char) := lineEnd (skipComment (skipBlanks s))

/-- Past blanks, line ends and comments inside an array. -/
def skipLines : (fuel : Nat) → List Char → List Char
  | 0, s => s
  | fuel + 1, s =>
      match skipBlanks s with
      | '\n' :: rest => skipLines fuel rest
      | '\r' :: '\n' :: rest => skipLines fuel rest
      | '#' :: rest => skipLines fuel (rest.dropWhile isPlain)
      | s => s

/-- What a key is bound to: its last part within the table of the others. -/
def assignKey (path : List String) (v : Value) (origin : Origin) (entries : Entries) :
    Option Entries :=
  match path.getLast? with
  | some last => entries.assign path.dropLast last v origin
  | none => none

mutual

/-- A value with at most so many arrays and inline tables around its parts. -/
def value : (depth : Nat) → List Char → Option (Value × List Char)
  | depth, '[' :: rest =>
      match depth with
      | 0 => none
      | depth + 1 => do
          let (items, rest) ← arrayItems depth rest.length rest
          some (.array items, rest)
  | depth, '\x7b' :: rest =>
      match depth with
      | 0 => none
      | depth + 1 =>
          match skipBlanks rest with
          | '\x7d' :: rest => some (.table [], rest)
          | rest => do
              let (entries, rest) ← inlineEntries depth rest.length [] rest
              some (.table (fields entries), rest)
  | _, 't' :: 'r' :: 'u' :: 'e' :: rest => some (.boolean true, rest)
  | _, 'f' :: 'a' :: 'l' :: 's' :: 'e' :: rest => some (.boolean false, rest)
  | _, s =>
      match readString s with
      | some (text, rest) => some (.string (String.ofList text), rest)
      | none => number s
termination_by depth _ => (depth, 0)

/-- The items of an array and its closing bracket. -/
def arrayItems (depth : Nat) : (fuel : Nat) → List Char → Option (List Value × List Char)
  | 0, _ => none
  | fuel + 1, s =>
      match skipLines (fuel + 1) s with
      | ']' :: rest => some ([], rest)
      | s => do
          let (v, rest) ← value depth s
          match skipLines (fuel + 1) rest with
          | ',' :: rest => do
              let (items, rest) ← arrayItems depth fuel rest
              some (v :: items, rest)
          | ']' :: rest => some ([v], rest)
          | _ => none
termination_by fuel _ => (depth, fuel + 1)

/-- The entries of an inline table and its closing brace. -/
def inlineEntries (depth : Nat) :
    (fuel : Nat) → Entries → List Char → Option (Entries × List Char)
  | 0, _, _ => none
  | fuel + 1, entries, s => do
      let (path, rest) ← key s
      let rest ← expect '=' rest
      let (v, rest) ← value depth (skipBlanks rest)
      let entries ← assignKey path v .header entries
      match skipBlanks rest with
      | ',' :: rest => inlineEntries depth fuel entries rest
      | '\x7d' :: rest => some (entries, rest)
      | _ => none
termination_by fuel _ _ => (depth, fuel + 1)

end

/-- The tables read so far, and the path of the one that keys are bound in. -/
structure Document where
  root : Entries := []
  place : List String := []

namespace Document

/-- Bind a key in the current table. -/
def assign (d : Document) (path : List String) (v : Value) : Option Document := do
  let root ← d.root.descend false (fun origin entries => assignKey path v origin entries)
    d.place .header
  return { d with root := root }

/-- Make the table of a header the current one. -/
def enter (d : Document) (path : List String) (change : String → Entries → Option Entries) :
    Option Document := do
  let last ← path.getLast?
  let root ← d.root.descend false (fun _ entries => change last entries) path.dropLast .header
  return ⟨root, path⟩

/-- One line, or several where a value spans them: a header, a key with its value, a comment or
nothing. -/
def readLine (d : Document) : List Char → Option (Document × List Char)
  | '[' :: '[' :: rest => do
      let (path, rest) ← key rest
      let rest ← expect ']' rest
      let rest ← expect ']' rest
      let rest ← restOfLine rest
      let d ← d.enter path Entries.openElement
      return (d, rest)
  | '[' :: rest => do
      let (path, rest) ← key rest
      let rest ← expect ']' rest
      let rest ← restOfLine rest
      let d ← d.enter path Entries.openTable
      return (d, rest)
  | '#' :: rest => do
      let rest ← lineEnd (rest.dropWhile isPlain)
      return (d, rest)
  | '\n' :: rest => some (d, rest)
  | '\r' :: '\n' :: rest => some (d, rest)
  | s => do
      let (path, rest) ← key s
      let rest ← expect '=' rest
      let (v, rest) ← value nestingLimit (skipBlanks rest)
      let rest ← restOfLine rest
      let d ← d.assign path v
      return (d, rest)

def readLines : (fuel : Nat) → Document → List Char → Option Document
  | 0, _, _ => none
  | fuel + 1, d, s =>
      match skipBlanks s with
      | [] => some d
      | s => do
          let (d, rest) ← d.readLine s
          readLines fuel d rest

end Document

/-- A byte order mark in front of a text does not count. -/
def dropMark : List Char → List Char
  | '\ufeff' :: rest => rest
  | s => s

/-- The fields of a document. -/
def read (text : String) : Option (List (String × Value)) :=
  let s := dropMark text.toList
  (Document.readLines (s.length + 1) {} s).map fun d => fields d.root

end IdentityVault.Toml
