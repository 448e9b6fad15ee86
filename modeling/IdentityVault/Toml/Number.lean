import IdentityVault.Toml.Quoted
import IdentityVault.Toml.Value

/-! TOML numbers, dates and times. Digits may be parted by single underscores. -/
namespace IdentityVault.Toml

def isDigit (c : Char) : Bool := '0' ≤ c && c ≤ '9'

/-- More digits, each behind at most one underscore. -/
def moreDigits (p : Char → Bool) : List Char → Scanned
  | '_' :: c :: rest => if p c then Scanned.cons c (moreDigits p rest) else none
  | ['_'] => none
  | c :: rest => if p c then Scanned.cons c (moreDigits p rest) else some ([], c :: rest)
  | [] => some ([], [])

def digits (p : Char → Bool) : List Char → Scanned
  | c :: rest => if p c then Scanned.cons c (moreDigits p rest) else none
  | [] => none

def valueOf (base : Nat) (ds : List Char) : Nat :=
  ds.foldl (fun n c => base * n + (hexValue? c).getD 0) 0

/-- A sign that may be missing: whether it is a minus, and the rest. -/
def sign : List Char → Bool × List Char
  | '-' :: rest => (true, rest)
  | '+' :: rest => (false, rest)
  | rest => (false, rest)

/-- Decimal digits without a leading zero. -/
def decimalDigits : List Char → Scanned
  | '0' :: rest => some (['0'], rest)
  | s => digits isDigit s

/-- An integer of 64 bits. -/
def inRange (n : Int) : Option Int :=
  if -9223372036854775808 ≤ n ∧ n ≤ 9223372036854775807 then some n else none

def based (base : Nat) (p : Char → Bool) (s : List Char) : Option (Int × List Char) := do
  let (ds, rest) ← digits p s
  let n ← inRange (valueOf base ds)
  return (n, rest)

def integer : List Char → Option (Int × List Char)
  | '0' :: 'x' :: rest => based 16 (fun c => (hexValue? c).isSome) rest
  | '0' :: 'o' :: rest => based 8 (fun c => '0' ≤ c && c ≤ '7') rest
  | '0' :: 'b' :: rest => based 2 (fun c => c = '0' || c = '1') rest
  | s => do
      let (negative, rest) := sign s
      let (ds, rest) ← decimalDigits rest
      let n := valueOf 10 ds
      let n ← inRange (if negative then -(n : Int) else n)
      return (n, rest)

/-- The part behind a point. -/
def fraction : List Char → Scanned
  | '.' :: rest => digits isDigit rest
  | _ => none

/-- The power of ten behind the letter. -/
def exponent : List Char → Option (Int × List Char)
  | c :: rest =>
      if c = 'e' ∨ c = 'E' then do
        let (negative, rest) := sign rest
        let (ds, rest) ← digits isDigit rest
        let n := valueOf 10 ds
        return (if negative then -(n : Int) else n, rest)
      else none
  | [] => none

/-- Whether a decimal of this size is beyond the range of binary floating point with 64 bits. From
halfway between the largest number and the next power of two on, nothing is nearer. -/
def isTooLarge (mantissa : Nat) (exponent : Int) : Bool :=
  let length : Int := (Nat.toDigits 10 mantissa).length
  if mantissa = 0 then false
  else if 310 < length + exponent then true
  else if length + exponent < 308 then false
  else
    let limit := Nat.pow 2 1024 - Nat.pow 2 970
    if 0 ≤ exponent then limit ≤ mantissa * Nat.pow 10 exponent.toNat
    else limit * Nat.pow 10 (-exponent).toNat ≤ mantissa

/-- A number with a fraction, an exponent or both. Positive ones must not be too large. -/
def float (s : List Char) : Option (List Char) := do
  let (negative, rest) := sign s
  let (whole, rest) ← decimalDigits rest
  let (part, power, rest) ← match rest with
    | '.' :: _ => do
        let (part, rest) ← fraction rest
        match rest with
        | c :: _ =>
            if c = 'e' ∨ c = 'E' then do
              let (power, rest) ← exponent rest
              some (part, power, rest)
            else some (part, 0, rest)
        | [] => some (part, 0, rest)
    | _ => do
        let (power, rest) ← exponent rest
        some ([], power, rest)
  if !negative && isTooLarge (valueOf 10 (whole ++ part)) (power - part.length) then none
  else some rest

/-- Infinity and not-a-number. -/
def specialFloat (s : List Char) : Option (List Char) :=
  match (sign s).2 with
  | 'i' :: 'n' :: 'f' :: rest => some rest
  | 'n' :: 'a' :: 'n' :: rest => some rest
  | _ => none

/-- Two digits within bounds. -/
def twoDigits (low high : Nat) : List Char → Option (Nat × List Char)
  | a :: b :: rest =>
      let n := valueOf 10 [a, b]
      if isDigit a ∧ isDigit b ∧ low ≤ n ∧ n ≤ high then some (n, rest) else none
  | _ => none

def expect (x : Char) : List Char → Option (List Char)
  | c :: rest => if c = x then some rest else none
  | [] => none

def daysIn (year month : Nat) : Nat :=
  if month = 2 then
    if year % 4 = 0 ∧ (year % 100 ≠ 0 ∨ year % 400 = 0) then 29 else 28
  else if month = 4 ∨ month = 6 ∨ month = 9 ∨ month = 11 then 30
  else 31

def date (s : List Char) : Option (List Char) := do
  let (century, rest) ← twoDigits 0 99 s
  let (year, rest) ← twoDigits 0 99 rest
  let rest ← expect '-' rest
  let (month, rest) ← twoDigits 1 12 rest
  let rest ← expect '-' rest
  let (_, rest) ← twoDigits 1 (daysIn (100 * century + year) month) rest
  return rest

/-- A time of day. A minute may have a leap second. -/
def time (s : List Char) : Option (List Char) := do
  let (_, rest) ← twoDigits 0 23 s
  let rest ← expect ':' rest
  let (_, rest) ← twoDigits 0 59 rest
  let rest ← expect ':' rest
  let (_, rest) ← twoDigits 0 60 rest
  match rest with
  | '.' :: c :: rest => if isDigit c then some (rest.dropWhile isDigit) else none
  | ['.'] => none
  | _ => some rest

/-- The distance to universal time behind a time, which may be missing. -/
def offset : List Char → Option (List Char)
  | c :: rest =>
      if c = 'Z' ∨ c = 'z' then some rest
      else if c = '+' ∨ c = '-' then do
        let (_, rest) ← twoDigits 0 23 rest
        let rest ← expect ':' rest
        let (_, rest) ← twoDigits 0 59 rest
        return rest
      else some (c :: rest)
  | [] => some []

/-- A date, a time, or both with or without an offset. -/
def datetime (s : List Char) : Option (List Char) :=
  match date s with
  | some (c :: rest) =>
      if c = 'T' ∨ c = 't' ∨ c = ' ' then
        match twoDigits 0 23 rest with
        | some _ => (time rest).bind offset
        | none => some (c :: rest)
      else some (c :: rest)
  | some [] => some []
  | none => time s

/-- What was scanned between a text and its rest. -/
def spelling (s rest : List Char) : String := String.ofList (s.take (s.length - rest.length))

/-- A number, a date or a time. -/
def number (s : List Char) : Option (Value × List Char) :=
  match datetime s with
  | some rest => some (.datetime (spelling s rest), rest)
  | none =>
    match float s <|> specialFloat s with
    | some rest => some (.float (spelling s rest), rest)
    | none => (integer s).map fun (n, rest) => (.integer n, rest)

end IdentityVault.Toml
