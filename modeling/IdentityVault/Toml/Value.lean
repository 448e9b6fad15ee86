/-! TOML values. Numbers that are no integers, and dates, keep their spelling. -/
namespace IdentityVault.Toml

inductive Value where
  | string (s : String)
  | integer (n : Int)
  | float (literal : String)
  | boolean (b : Bool)
  | datetime (literal : String)
  | array (items : List Value)
  | table (fields : List (String × Value))

/-- Deepest nesting of arrays and inline tables, and most parts of a key. -/
def nestingLimit : Nat := 79

end IdentityVault.Toml
