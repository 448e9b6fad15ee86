import IdentityVault.Bytes

/-! Trees of files and directories, read and changed along lists of names. -/
namespace IdentityVault

inductive Node where
  | file (content : Bytes)
  | directory (entries : List (String × Node))

namespace Node

/-- Bind a name, or forget it; the other entries keep their places. -/
def setEntry (name : String) (value : Option Node) :
    List (String × Node) → List (String × Node)
  | [] => match value with
    | some node => [(name, node)]
    | none => []
  | (other, node) :: rest =>
      if other = name then
        match value with
        | some new => (name, new) :: rest
        | none => rest.filter fun e => e.1 ≠ name
      else (other, node) :: setEntry name value rest

/-- The node that a list of names leads to. -/
def find? : Node → List String → Option Node
  | node, [] => some node
  | .directory entries, name :: rest => (entries.lookup name).bind fun child => child.find? rest
  | .file _, _ :: _ => none

/-- Bind or forget the last of the names, where the directories before it exist. -/
def put (value : Option Node) : List String → Node → Node
  | _, .file content => .file content
  | [], node => node
  | [name], .directory entries => .directory (setEntry name value entries)
  | name :: rest, .directory entries =>
      match entries.lookup name with
      | some child => .directory (setEntry name (some (put value rest child)) entries)
      | none => .directory entries

end Node

end IdentityVault
