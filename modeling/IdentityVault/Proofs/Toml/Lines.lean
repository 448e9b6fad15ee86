import IdentityVault.Toml.Reader

/-! Documents line by line. What a line does is told by its own text, whatever stands behind it, so
a document is read as one line after another. -/
namespace IdentityVault.Toml

/-- A part of a key that needs no quotes. -/
structure Bare (name : List Char) : Prop where
  ne_nil : name ≠ []
  all (c : Char) (h : c ∈ name) : isKeyChar c = true

instance (name : List Char) : Decidable (Bare name) :=
  decidable_of_iff (name ≠ [] ∧ name.all isKeyChar = true)
    ⟨fun h => ⟨h.1, List.all_eq_true.1 h.2⟩, fun h => ⟨h.ne_nil, List.all_eq_true.2 h.all⟩⟩

section Keys

variable {name : List Char} {c : Char}

theorem Bare.exists_cons (h : Bare name) :
    ∃ first more, name = first :: more ∧ isKeyChar first = true := by
  obtain ⟨first, more, rfl⟩ := List.exists_cons_of_ne_nil h.ne_nil
  exact ⟨first, more, rfl, h.all first List.mem_cons_self⟩

theorem isBlank_of_isKeyChar (h : isKeyChar c = true) : isBlank c = false := by
  rw [Bool.eq_false_iff]
  intro hblank
  simp only [isBlank, Bool.or_eq_true, decide_eq_true_eq] at hblank
  rcases hblank with rfl | rfl <;> exact absurd h (by decide)

theorem skipBlanks_cons (h : isBlank c = false) (rest : List Char) :
    skipBlanks (c :: rest) = c :: rest := by
  simp [skipBlanks, h]

theorem skipBlanks_bare (h : Bare name) (rest : List Char) :
    skipBlanks (name ++ rest) = name ++ rest := by
  obtain ⟨first, more, rfl, hfirst⟩ := h.exists_cons
  exact skipBlanks_cons (isBlank_of_isKeyChar hfirst) _

theorem simpleKey_bare (h : Bare name) (hc : isKeyChar c = false) (rest : List Char) :
    simpleKey (name ++ c :: rest) = some (name, c :: rest) := by
  have htake : (name ++ c :: rest).takeWhile isKeyChar = name := by
    rw [List.takeWhile_append_of_pos h.all, List.takeWhile_cons_of_neg (by simp [hc]),
      List.append_nil]
  have hdrop : (name ++ c :: rest).dropWhile isKeyChar = c :: rest := by
    rw [List.dropWhile_append_of_pos h.all, List.dropWhile_cons_of_neg (by simp [hc])]
  obtain ⟨first, more, rfl, hfirst⟩ := h.exists_cons
  unfold simpleKey
  split
  case h_1 heq =>
    cases (List.cons.inj heq).1
    exact absurd hfirst (by decide)
  case h_2 heq =>
    cases (List.cons.inj heq).1
    exact absurd hfirst (by decide)
  case h_3 =>
    rw [htake, hdrop]

/-- A key of one bare part, up to the next character that is no blank. -/
theorem dottedKey_bare (h : Bare name) (hc : isKeyChar c = false) {rest : List Char}
    (hpoint : (skipBlanks (c :: rest)).head? ≠ some '.') (parts : Nat) :
    dottedKey (parts + 1) (name ++ c :: rest) =
      some ([String.ofList name], skipBlanks (c :: rest)) := by
  rw [dottedKey, skipBlanks_bare h, simpleKey_bare h hc]
  dsimp only [bind, Option.bind]
  split
  case h_1 heq =>
    rw [heq] at hpoint
    exact absurd rfl hpoint
  case h_2 => rfl

theorem key_bare (h : Bare name) (hc : isKeyChar c = false) {rest : List Char}
    (hpoint : (skipBlanks (c :: rest)).head? ≠ some '.') :
    key (name ++ c :: rest) = some ([String.ofList name], skipBlanks (c :: rest)) :=
  dottedKey_bare h hc hpoint (nestingLimit - 1)

theorem expect_cons (c : Char) (rest : List Char) : expect c (c :: rest) = some rest := if_pos rfl

theorem restOfLine_cons (rest : List Char) : restOfLine ('\n' :: rest) = some rest := by
  simp [restOfLine, skipBlanks, isBlank, skipComment, lineEnd]

end Keys

section Values

variable {s text rest : List Char} {depth : Nat}

theorem exists_quote_of_readString {x : List Char × List Char} (h : readString s = some x) :
    ∃ quote more, s = quote :: more ∧ (quote = '\x22' ∨ quote = '\x27') := by
  unfold readString at h
  split at h
  case h_1 => exact ⟨_, _, rfl, .inl rfl⟩
  case h_2 => exact ⟨_, _, rfl, .inl rfl⟩
  case h_3 => exact ⟨_, _, rfl, .inr rfl⟩
  case h_4 => exact ⟨_, _, rfl, .inr rfl⟩
  case h_5 => cases h

theorem value_of_readString (h : readString s = some (text, rest)) :
    value depth s = some (.string (String.ofList text), rest) := by
  obtain ⟨quote, more, rfl, rfl | rfl⟩ := exists_quote_of_readString h
  · rw [value, h] <;> simp
  · rw [value, h] <;> simp

theorem number_ne_string (s : List Char) (text : String) (rest : List Char) :
    number s ≠ some (.string text, rest) := by
  unfold number
  split
  · simp
  · split
    · simp
    · cases integer s <;> simp

/-- Only a string has a string as its value. -/
theorem readString_of_value {t : String} (h : value depth s = some (.string t, rest)) :
    ∃ text, t = String.ofList text ∧ readString s = some (text, rest) := by
  unfold value at h
  split at h
  case h_1 =>
    split at h
    · cases h
    · obtain ⟨items, -, heq⟩ := Option.bind_eq_some_iff.1 h
      cases heq
  case h_2 =>
    split at h
    · cases h
    · split at h
      · cases h
      · obtain ⟨entries, -, heq⟩ := Option.bind_eq_some_iff.1 h
        cases heq
  case h_3 => cases h
  case h_4 => cases h
  case h_5 =>
    cases hread : readString s with
    | none =>
      rw [hread] at h
      exact absurd h (number_ne_string s t rest)
    | some x =>
      obtain ⟨text, rest'⟩ := x
      rw [hread] at h
      cases h
      exact ⟨text, rfl, rfl⟩

end Values

namespace Document

variable {name text : List Char}

theorem readLine_comment (h : text.all isPlain = true) (d : Document) (rest : List Char) :
    d.readLine ('#' :: (text ++ '\n' :: rest)) = some (d, rest) := by
  have hdrop : (text ++ '\n' :: rest).dropWhile isPlain = '\n' :: rest := by
    rw [List.dropWhile_append_of_pos (List.all_eq_true.1 h),
      List.dropWhile_cons_of_neg (by decide)]
  simp only [readLine, hdrop, lineEnd]
  rfl

theorem readLine_header (h : Bare name) (d : Document) (rest : List Char) :
    d.readLine ('[' :: (name ++ ']' :: '\n' :: rest)) =
      (d.enter [String.ofList name] Entries.openTable).map fun d => (d, rest) := by
  have hkey : key (name ++ ']' :: '\n' :: rest) =
      some ([String.ofList name], ']' :: '\n' :: rest) :=
    key_bare h (by decide) (by simp [skipBlanks, isBlank])
  obtain ⟨first, more, rfl, hfirst⟩ := h.exists_cons
  rw [readLine, hkey]
  · simp only [bind, Option.bind_some, expect_cons, restOfLine_cons, Option.map_eq_bind]
    rfl
  · intro rest' heq
    cases (List.cons.inj heq).1
    exact absurd hfirst (by decide)

/-- A key with its value, up to the end of the line. -/
theorem readLine_entry (h : Bare name) (d : Document) (s : List Char) :
    d.readLine (name ++ ' ' :: '=' :: ' ' :: s) =
      (value nestingLimit (skipBlanks s)).bind fun (v, rest) =>
        (restOfLine rest).bind fun rest =>
          (d.assign [String.ofList name] v).map fun d => (d, rest) := by
  have hkey : key (name ++ ' ' :: '=' :: ' ' :: s) = some ([String.ofList name], '=' :: ' ' :: s) :=
    key_bare h (by decide) (by simp [skipBlanks, isBlank])
  have hblank : skipBlanks (' ' :: s) = skipBlanks s := by simp [skipBlanks, isBlank]
  obtain ⟨first, more, rfl, hfirst⟩ := h.exists_cons
  rw [readLine, hkey]
  · simp only [bind, Option.bind_some, expect_cons, hblank, Option.map_eq_bind]
    rfl
  all_goals
    intro rest heq
    cases (List.cons.inj heq).1
    exact absurd hfirst (by decide)

end Document

/-- The kinds of lines that a file without arrays, numbers and inline tables has. -/
inductive Line where
  | blank
  | comment (text : List Char)
  | header (name : List Char)
  | entry (name literal text : List Char)

namespace Line

def chars : Line → List Char
  | .blank => ['\n']
  | .comment text => '#' :: (text ++ ['\n'])
  | .header name => '[' :: (name ++ [']', '\n'])
  | .entry name literal _ => name ++ ' ' :: '=' :: ' ' :: (literal ++ ['\n'])

/-- A line that can be read: a literal has to stand for its text wherever it ends a line. -/
inductive Readable : Line → Prop where
  | blank : Readable .blank
  | comment {text : List Char} (h : text.all isPlain = true) : Readable (.comment text)
  | header {name : List Char} (h : Bare name) : Readable (.header name)
  | entry {name literal text : List Char} (h : Bare name)
      (hliteral : ∀ rest, readString (literal ++ '\n' :: rest) = some (text, '\n' :: rest)) :
      Readable (.entry name literal text)

/-- What a line does to a document. -/
def effect (d : Document) : Line → Option Document
  | .blank | .comment _ => some d
  | .header name => d.enter [String.ofList name] Entries.openTable
  | .entry name _ text => d.assign [String.ofList name] (.string (String.ofList text))

variable {l : Line}

/-- A line starts neither with a blank nor with a byte order mark. -/
theorem Readable.exists_cons (h : l.Readable) :
    ∃ first more, l.chars = first :: more ∧ isBlank first = false ∧ first ≠ '\ufeff' := by
  cases h with
  | blank => exact ⟨'\n', [], rfl, rfl, by decide⟩
  | comment => exact ⟨'#', _, rfl, rfl, by decide⟩
  | header => exact ⟨'[', _, rfl, rfl, by decide⟩
  | entry hname =>
    obtain ⟨first, more, rfl, hfirst⟩ := hname.exists_cons
    refine ⟨first, _, rfl, isBlank_of_isKeyChar hfirst, ?_⟩
    rintro rfl
    exact absurd hfirst (by decide)

theorem Readable.readLine (h : l.Readable) (d : Document) (rest : List Char) :
    d.readLine (l.chars ++ rest) = (effect d l).map fun d => (d, rest) := by
  cases h with
  | blank => rfl
  | comment htext =>
    have hread := Document.readLine_comment htext d rest
    simpa [chars, effect] using hread
  | header hname =>
    have hread := Document.readLine_header hname d rest
    simpa [chars, effect] using hread
  | @entry name literal text hname hliteral =>
    have hstring := hliteral rest
    obtain ⟨quote, more, hquote, hkind⟩ := exists_quote_of_readString hstring
    have hblanks : skipBlanks (literal ++ '\n' :: rest) = literal ++ '\n' :: rest := by
      rw [hquote]
      apply skipBlanks_cons
      rcases hkind with rfl | rfl <;> decide
    have hread := Document.readLine_entry hname d (literal ++ '\n' :: rest)
    rw [hblanks, value_of_readString hstring] at hread
    have hchars : (Line.entry name literal text).chars ++ rest =
        name ++ ' ' :: '=' :: ' ' :: (literal ++ '\n' :: rest) := by
      simp [chars]
    rw [hchars, hread]
    simp only [Option.bind_some, restOfLine_cons]
    rfl

end Line

/-- A document is read line by line. -/
theorem Document.readLines_lines {lines : List Line} (h : ∀ l ∈ lines, l.Readable) (fuel : Nat)
    (d : Document) (rest : List Char) :
    readLines (fuel + lines.length) d (lines.flatMap Line.chars ++ rest) =
      (lines.foldlM Line.effect d).bind fun d => readLines fuel d rest := by
  induction lines generalizing d with
  | nil => rfl
  | cons l lines ih =>
    have hl := h l List.mem_cons_self
    obtain ⟨first, more, hchars, hfirst, -⟩ := hl.exists_cons
    have hblanks (s : List Char) : skipBlanks (l.chars ++ s) = l.chars ++ s := by
      rw [hchars]
      exact skipBlanks_cons hfirst _
    rw [List.length_cons, ← Nat.add_assoc, readLines, List.flatMap_cons, List.append_assoc,
      hblanks, List.foldlM_cons]
    have hne : l.chars ++ (lines.flatMap Line.chars ++ rest) ≠ [] := by
      rw [hchars]
      simp
    split
    case h_1 heq => exact absurd heq hne
    case h_2 =>
      rw [hl.readLine]
      cases heffect : Line.effect d l with
      | none => rfl
      | some d' =>
        exact ih (fun l' hl' => h l' (List.mem_cons_of_mem l hl')) d'

theorem Line.length_le_flatMap {lines : List Line} (h : ∀ l ∈ lines, l.Readable) :
    lines.length ≤ (lines.flatMap Line.chars).length := by
  induction lines with
  | nil => exact Nat.le_refl 0
  | cons l lines ih =>
    obtain ⟨first, more, hchars, -⟩ := (h l List.mem_cons_self).exists_cons
    have hrest := ih fun l' hl' => h l' (List.mem_cons_of_mem l hl')
    rw [List.flatMap_cons, hchars, List.length_append, List.length_cons, List.length_cons]
    omega

/-- A text that starts with lines has what comes of reading the rest of it behind them. -/
theorem read_eq_of_lines {lines : List Line} (h : ∀ l ∈ lines, l.Readable) (hne : lines ≠ [])
    {text : String} {s : List Char} (htext : text.toList = lines.flatMap Line.chars ++ s) :
    ∃ fuel, s.length < fuel ∧ read text =
      ((lines.foldlM Line.effect {}).bind fun d => Document.readLines fuel d s).map
        fun d => fields d.root := by
  have hmark : dropMark text.toList = text.toList := by
    obtain ⟨l, lines, rfl⟩ := List.exists_cons_of_ne_nil hne
    obtain ⟨first, more, hchars, -, hfirst⟩ := (h l List.mem_cons_self).exists_cons
    rw [htext, List.flatMap_cons, hchars]
    unfold dropMark
    split
    case h_1 heq => exact absurd (List.cons.inj heq).1 hfirst
    case h_2 => rfl
  have hlength := Line.length_le_flatMap h
  obtain ⟨fuel, hfuel⟩ : ∃ fuel, text.toList.length + 1 = fuel + lines.length := by
    refine ⟨text.toList.length + 1 - lines.length, ?_⟩
    rw [htext, List.length_append]
    omega
  refine ⟨fuel, ?_, ?_⟩
  · rw [htext, List.length_append] at hfuel
    omega
  · unfold read
    dsimp only
    rw [hmark, hfuel, htext, Document.readLines_lines h]

/-- A text of lines is read as what the lines do one after another. -/
theorem read_lines {lines : List Line} (h : ∀ l ∈ lines, l.Readable) (hne : lines ≠ [])
    {text : String} (htext : text.toList = lines.flatMap Line.chars) :
    read text = (lines.foldlM Line.effect {}).map fun d => fields d.root := by
  obtain ⟨fuel, hfuel, hread⟩ := read_eq_of_lines h hne (s := []) (by rw [htext, List.append_nil])
  obtain ⟨fuel, rfl⟩ := Nat.exists_eq_add_one_of_ne_zero (Nat.ne_of_gt hfuel)
  have hend (d : Document) : Document.readLines (fuel + 1) d [] = some d := rfl
  simpa only [hend, Option.bind_fun_some] using hread

end IdentityVault.Toml
