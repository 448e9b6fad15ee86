import IdentityVault.Text.Quoted

/-! Texts as JSON strings. Only quotes, backslashes and control characters are escaped. -/
namespace IdentityVault.Text

def jsonEscaped (c : Char) : List Char :=
  if c = '\x22' ∨ c = '\\' then ['\\', c]
  else if c = '\x08' then ['\\', 'b']
  else if c = '\x0c' then ['\\', 'f']
  else if c = '\n' then ['\\', 'n']
  else if c = '\r' then ['\\', 'r']
  else if c = '\t' then ['\\', 't']
  else if c.toNat < 0x10 then "\\u000".toList ++ hexadecimal c.toNat
  else if c.toNat < 0x20 then "\\u00".toList ++ hexadecimal c.toNat
  else [c]

def jsonString (s : String) : String :=
  String.ofList (['\x22'] ++ s.toList.flatMap jsonEscaped ++ ['\x22'])

end IdentityVault.Text
