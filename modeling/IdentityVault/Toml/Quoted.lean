/-! TOML strings. There are four forms: basic strings with escapes and literal strings without,
each on one line or on several. A string is written in the plainest form that can hold it. -/
namespace IdentityVault.Toml

/-- Characters that need no escape: all but control characters, of which only a tab is plain. -/
def isPlain (c : Char) : Bool := c = '\t' || (0x20 ≤ c.toNat && c.toNat ≠ 0x7f)

def isBlank (c : Char) : Bool := c = ' ' || c = '\t'

def hexValue? (c : Char) : Option Nat :=
  if '0' ≤ c ∧ c ≤ '9' then some (c.toNat - '0'.toNat)
  else if 'a' ≤ c ∧ c ≤ 'f' then some (c.toNat - 'a'.toNat + 10)
  else if 'A' ≤ c ∧ c ≤ 'F' then some (c.toNat - 'A'.toNat + 10)
  else none

/-- The character that hexadecimal digits stand for; surrogates are none. -/
def codePoint? (digits : List Char) : Option Char := do
  let n ← digits.foldlM (fun n c => (hexValue? c).map (16 * n + ·)) 0
  if n.isValidChar then some (Char.ofNat n) else none

/-- What a character after a backslash stands for. -/
def escapeValue? : Char → Option Char
  | 'b' => some '\x08'
  | 't' => some '\t'
  | 'n' => some '\n'
  | 'f' => some '\x0c'
  | 'r' => some '\r'
  | '\x22' => some '\x22'
  | '\\' => some '\\'
  | _ => none

abbrev Scanned : Type := Option (List Char × List Char)

/-- A character in front of the text that was scanned. -/
def Scanned.cons (c : Char) (s : Scanned) : Scanned := s.map fun (text, rest) => (c :: text, rest)

/-- A basic string behind its opening quote: its text, and what follows the closing one. -/
def readBasic : List Char → Scanned
  | [] => none
  | '\x22' :: rest => some ([], rest)
  | '\\' :: 'u' :: a :: b :: c :: d :: rest => do
      let x ← codePoint? [a, b, c, d]
      Scanned.cons x (readBasic rest)
  | '\\' :: 'U' :: a :: b :: c :: d :: e :: f :: g :: h :: rest => do
      let x ← codePoint? [a, b, c, d, e, f, g, h]
      Scanned.cons x (readBasic rest)
  | '\\' :: e :: rest => do
      let x ← escapeValue? e
      Scanned.cons x (readBasic rest)
  | c :: rest => if isPlain c then Scanned.cons c (readBasic rest) else none

/-- A literal string behind its opening quote. -/
def readLiteral : List Char → Scanned
  | [] => none
  | '\x27' :: rest => some ([], rest)
  | c :: rest => if isPlain c then Scanned.cons c (readLiteral rest) else none

/-- Where a basic string of several lines stands: in its text, behind a backslash that has to end
its line, or in the margin that is skipped after such a line. -/
inductive Position where
  | text
  | lineEnd
  | margin
  deriving DecidableEq

/-- A basic string of several lines behind its opening quotes. Up to two quotes may stand in front
of the closing ones. -/
def readBasicLines : Position → List Char → Scanned
  | _, [] => none
  | p, '\x22' :: '\x22' :: '\x22' :: '\x22' :: '\x22' :: rest =>
      if p = .lineEnd then none else some (['\x22', '\x22'], rest)
  | p, '\x22' :: '\x22' :: '\x22' :: '\x22' :: rest =>
      if p = .lineEnd then none else some (['\x22'], rest)
  | p, '\x22' :: '\x22' :: '\x22' :: rest => if p = .lineEnd then none else some ([], rest)
  | p, '\r' :: '\n' :: rest =>
      if p = .text then Scanned.cons '\n' (readBasicLines .text rest)
      else readBasicLines .margin rest
  | p, '\\' :: '\r' :: '\n' :: rest => if p = .lineEnd then none else readBasicLines .margin rest
  | p, '\\' :: 'u' :: a :: b :: c :: d :: rest =>
      if p = .lineEnd then none
      else do
        let x ← codePoint? [a, b, c, d]
        Scanned.cons x (readBasicLines .text rest)
  | p, '\\' :: 'U' :: a :: b :: c :: d :: e :: f :: g :: h :: rest =>
      if p = .lineEnd then none
      else do
        let x ← codePoint? [a, b, c, d, e, f, g, h]
        Scanned.cons x (readBasicLines .text rest)
  | p, '\\' :: e :: rest =>
      if p = .lineEnd then none
      else if e = '\n' then readBasicLines .margin rest
      else if isBlank e then readBasicLines .lineEnd rest
      else do
        let x ← escapeValue? e
        Scanned.cons x (readBasicLines .text rest)
  | p, c :: rest =>
      if p ≠ .text ∧ c = '\n' then readBasicLines .margin rest
      else if p ≠ .text ∧ isBlank c then readBasicLines p rest
      else if p ≠ .lineEnd ∧ (c = '\n' ∨ isPlain c) then
        Scanned.cons c (readBasicLines .text rest)
      else none

/-- A literal string of several lines behind its opening quotes. -/
def readLiteralLines : List Char → Scanned
  | [] => none
  | '\x27' :: '\x27' :: '\x27' :: '\x27' :: '\x27' :: rest => some (['\x27', '\x27'], rest)
  | '\x27' :: '\x27' :: '\x27' :: '\x27' :: rest => some (['\x27'], rest)
  | '\x27' :: '\x27' :: '\x27' :: rest => some ([], rest)
  | '\r' :: '\n' :: rest => Scanned.cons '\n' (readLiteralLines rest)
  | c :: rest =>
      if c = '\n' ∨ isPlain c then Scanned.cons c (readLiteralLines rest) else none

/-- A line end right behind opening quotes does not count. -/
def dropFirstLineEnd : List Char → List Char
  | '\n' :: rest => rest
  | '\r' :: '\n' :: rest => rest
  | rest => rest

/-- A string in any form, from its opening quotes on. -/
def readString : List Char → Scanned
  | '\x22' :: '\x22' :: '\x22' :: rest => readBasicLines .text (dropFirstLineEnd rest)
  | '\x22' :: rest => readBasic rest
  | '\x27' :: '\x27' :: '\x27' :: rest => readLiteralLines (dropFirstLineEnd rest)
  | '\x27' :: rest => readLiteral rest
  | _ => none

/-- The most times in a row that a character stands in a text; `run` of them came before. -/
def longestRun (x : Char) : (run : Nat) → List Char → Nat
  | run, [] => run
  | run, c :: rest => if c = x then longestRun x (run + 1) rest else max run (longestRun x 0 rest)

/-- Control characters that only an escape can stand for. -/
def needsCode (c : Char) : Bool := !isPlain c && c ≠ '\n'

def upperHexDigit (n : Nat) : Char :=
  Char.ofNat (if n < 10 then '0'.toNat + n else 'A'.toNat + n - 10)

/-- A control character as a code of four digits. -/
def codeEscape (c : Char) : List Char :=
  ['\\', 'u', '0', '0', upperHexDigit (c.toNat / 16), upperHexDigit (c.toNat % 16)]

/-- The inside of a basic string. On several lines a line end stands for itself, and so do two
quotes in a row. -/
def escapeText (severalLines : Bool) : (quotes : Nat) → List Char → List Char
  | _, [] => []
  | quotes, c :: rest =>
      if c = '\x22' then
        if severalLines ∧ quotes < 2 then c :: escapeText severalLines (quotes + 1) rest
        else '\\' :: c :: escapeText severalLines 0 rest
      else if c = '\x08' then '\\' :: 'b' :: escapeText severalLines 0 rest
      else if c = '\t' then '\\' :: 't' :: escapeText severalLines 0 rest
      else if c = '\n' ∧ !severalLines then '\\' :: 'n' :: escapeText severalLines 0 rest
      else if c = '\x0c' then '\\' :: 'f' :: escapeText severalLines 0 rest
      else if c = '\r' then '\\' :: 'r' :: escapeText severalLines 0 rest
      else if c = '\\' then '\\' :: '\\' :: escapeText severalLines 0 rest
      else if needsCode c then codeEscape c ++ escapeText severalLines 0 rest
      else c :: escapeText severalLines 0 rest

def writeBasic (s : List Char) : List Char := ['\x22'] ++ escapeText false 0 s ++ ['\x22']

def writeLiteral (s : List Char) : List Char := ['\x27'] ++ s ++ ['\x27']

/-- Quotes of several lines. A text with a line end starts on a line of its own. -/
def writeLines (quote : Char) (content s : List Char) : List Char :=
  List.replicate 3 quote ++ (if s.contains '\n' then ['\n'] else []) ++ content ++
    List.replicate 3 quote

def writeString (s : List Char) : List Char :=
  let coded := s.any needsCode
  let escaped := s.contains '\\'
  let lineEnd := s.contains '\n'
  if !coded && !escaped && !lineEnd && longestRun '\x22' 0 s = 0 then writeBasic s
  else if !coded && !lineEnd && longestRun '\x27' 0 s = 0 then writeLiteral s
  else if !coded && !escaped && longestRun '\x22' 0 s ≤ 2 then
    writeLines '\x22' (escapeText true 0 s) s
  else if !coded && longestRun '\x27' 0 s ≤ 2 then writeLines '\x27' s s
  else if lineEnd then writeLines '\x22' (escapeText true 0 s) s
  else writeBasic s

end IdentityVault.Toml
