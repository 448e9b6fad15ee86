import IdentityVault.Text.GraphemeExtension
import IdentityVault.Text.Unprintable

/-! Texts in quotes for inspection: quotes, backslashes and characters that cannot be seen are
written as escapes. -/
namespace IdentityVault.Text

/-- The lower case digits of a number in base sixteen, without leading zeros. -/
def hexadecimal (n : Nat) : List Char := Nat.toDigits 16 n

def codePointEscape (c : Char) : List Char := "\\u\x7b".toList ++ hexadecimal c.toNat ++ ['\x7d']

/-- One character of a quoted text. Single quotes are escaped where `apostrophes` says so. -/
def escaped (apostrophes : Bool) (c : Char) : List Char :=
  if c = '\x00' then ['\\', '0']
  else if c = '\t' then ['\\', 't']
  else if c = '\r' then ['\\', 'r']
  else if c = '\n' then ['\\', 'n']
  else if c = '\\' ∨ c = '\x22' ∨ (c = '\x27' ∧ apostrophes) then ['\\', c]
  else if isGraphemeExtension c ∨ !isPrintable c then codePointEscape c
  else [c]

/-- A quoted text; single quotes stand as they are. -/
def quoted (s : String) : String :=
  String.ofList (['\x22'] ++ s.toList.flatMap (escaped false) ++ ['\x22'])

/-- A quoted file name; single quotes are escaped too. -/
def quotedPath (s : String) : String :=
  String.ofList (['\x22'] ++ s.toList.flatMap (escaped true) ++ ['\x22'])

end IdentityVault.Text
