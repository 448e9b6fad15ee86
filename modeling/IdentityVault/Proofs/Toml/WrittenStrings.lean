import IdentityVault.Proofs.Toml.Strings
import Mathlib.Tactic.SplitIfs

/-! A string is read back as it was written, in each form that can hold it. Between quotes of one
line every character stands for itself or has a code. Between quotes of several lines line ends
stand for themselves as well, and so do two of the closing quotes in a row. -/
namespace IdentityVault.Toml

section Codes

variable {c x : Char} {code s text tail rest : List Char}

/-- What a basic string may hold for a character. -/
inductive Code : (code : List Char) → Char → Prop where
  | ordinary {c : Char} (h : Ordinary c) : Code [c] c
  | escape {e c : Char} (h : escapeValue? e = some c) : Code ['\\', e] c
  | number {a b d e c : Char} (h : codePoint? [a, b, d, e] = some c) :
      Code ['\\', 'u', a, b, d, e] c

theorem ne_of_escapeValue? {e : Char} (h : escapeValue? e = some c) (hx : escapeValue? x = none) :
    e ≠ x := by
  rintro rfl
  cases hx.symm.trans h

theorem codePoint?_codeEscape_of_lt :
    ∀ n < 0x80, codePoint? ['0', '0', upperHexDigit (n / 16), upperHexDigit (n % 16)] =
      some (Char.ofNat n) := by
  decide +kernel

theorem Code.of_needsCode (h : needsCode c = true) : Code (codeEscape c) c := by
  have hn : c.toNat < 0x80 := by
    by_contra hlarge
    simp only [needsCode, isPlain, Bool.and_eq_true, Bool.not_eq_true', Bool.or_eq_false_iff,
      Bool.and_eq_false_iff, decide_eq_false_iff_not] at h
    omega
  have hcode := codePoint?_codeEscape_of_lt c.toNat hn
  rw [Char.ofNat_toNat] at hcode
  exact .number hcode

theorem readBasic_code (h : Code code c) (tail : List Char) :
    readBasic (code ++ tail) = (readBasic tail).cons c := by
  cases h with
  | ordinary h =>
    obtain ⟨hplain, hquote, hslash⟩ := h
    rw [List.singleton_append, readBasic, if_pos hplain]
    all_goals simp [hquote, hslash]
  | @escape e c h =>
    rw [List.cons_append, List.singleton_append, readBasic, h]
    · rfl
    all_goals simp [ne_of_escapeValue? h (x := 'u') rfl, ne_of_escapeValue? h (x := 'U') rfl]
  | number h =>
    simp only [List.cons_append, List.nil_append]
    rw [readBasic, h]
    rfl

theorem readBasicLines_code (h : Code code c) (tail : List Char) :
    readBasicLines .text (code ++ tail) = (readBasicLines .text tail).cons c := by
  cases h with
  | ordinary h =>
    obtain ⟨hplain, hquote, hslash⟩ := h
    have hreturn : c ≠ '\r' := by
      rintro rfl
      exact absurd hplain (by decide)
    rw [List.singleton_append, readBasicLines]
    all_goals simp [hquote, hslash, hreturn, hplain]
  | @escape e c h =>
    have hline := ne_of_escapeValue? h (x := '\n') rfl
    have hblank : isBlank e = false := by
      simp [isBlank, ne_of_escapeValue? h (x := ' ') rfl, ne_of_escapeValue? h (x := '\t') rfl]
    rw [List.cons_append, List.singleton_append, readBasicLines, h]
    · simp [hline, hblank]
    all_goals
      simp [ne_of_escapeValue? h (x := '\r') rfl, ne_of_escapeValue? h (x := 'u') rfl,
        ne_of_escapeValue? h (x := 'U') rfl]
  | number h =>
    simp only [List.cons_append, List.nil_append]
    rw [readBasicLines, h]
    rfl

/-- How a text is written between the quotes of a basic string: in codes, but for what stands for
itself on several lines. -/
theorem escapeText_cons (severalLines : Bool) (quotes : Nat) (c : Char) (text : List Char) :
    (∃ code, Code code c ∧ escapeText severalLines quotes (c :: text) =
        code ++ escapeText severalLines 0 text) ∨
      (severalLines = true ∧ c = '\x22' ∧ quotes < 2 ∧ escapeText severalLines quotes (c :: text) =
        c :: escapeText severalLines (quotes + 1) text) ∨
      (severalLines = true ∧ c = '\n' ∧ escapeText severalLines quotes (c :: text) =
        c :: escapeText severalLines 0 text) := by
  rw [escapeText]
  split_ifs with hquote hlines hback htab hline hfeed hreturn hslash hcode
  · exact .inr (.inl ⟨hlines.1, hquote, hlines.2, rfl⟩)
  · exact .inl ⟨['\\', c], .escape (by rw [hquote]; rfl), rfl⟩
  · exact .inl ⟨['\\', 'b'], .escape (by rw [hback]; rfl), rfl⟩
  · exact .inl ⟨['\\', 't'], .escape (by rw [htab]; rfl), rfl⟩
  · exact .inl ⟨['\\', 'n'], .escape (by rw [hline.1]; rfl), rfl⟩
  · exact .inl ⟨['\\', 'f'], .escape (by rw [hfeed]; rfl), rfl⟩
  · exact .inl ⟨['\\', 'r'], .escape (by rw [hreturn]; rfl), rfl⟩
  · exact .inl ⟨['\\', '\\'], .escape (by rw [hslash]; rfl), rfl⟩
  · exact .inl ⟨codeEscape c, .of_needsCode hcode, rfl⟩
  · by_cases hnewline : c = '\n'
    · exact .inr (.inr ⟨by simpa [hnewline] using hline, hnewline, rfl⟩)
    · have hplain : isPlain c = true := by simpa [needsCode, hnewline] using hcode
      exact .inl ⟨[c], .ordinary ⟨hplain, hquote, hslash⟩, rfl⟩

theorem readBasic_escapeText (quotes : Nat) (s rest : List Char) :
    readBasic (escapeText false quotes s ++ '\x22' :: rest) = some (s, rest) := by
  induction s generalizing quotes with
  | nil => rfl
  | cons c s ih =>
    obtain ⟨code, hcode, htext⟩ | ⟨hlines, -⟩ | ⟨hlines, -⟩ := escapeText_cons false quotes c s
    · rw [htext, List.append_assoc, readBasic_code hcode, ih]
      rfl
    · cases hlines
    · cases hlines

/-- One quote starts a string on one line, where no more quotes follow unless it is empty. -/
theorem readString_of_readBasic (h : readBasic s = some (text, '\n' :: rest)) :
    readString ('\x22' :: s) = some (text, '\n' :: rest) := by
  unfold readString
  split
  case h_1 heq =>
    cases (List.cons.inj heq).2
    cases h
  case h_2 heq =>
    cases (List.cons.inj heq).2
    exact h
  case h_3 heq => cases (List.cons.inj heq).1
  case h_4 heq => cases (List.cons.inj heq).1
  case h_5 _ hquote _ _ => exact absurd rfl (hquote _)

theorem readString_of_readLiteral (h : readLiteral s = some (text, '\n' :: rest)) :
    readString ('\x27' :: s) = some (text, '\n' :: rest) := by
  unfold readString
  split
  case h_1 heq => cases (List.cons.inj heq).1
  case h_2 heq => cases (List.cons.inj heq).1
  case h_3 heq =>
    cases (List.cons.inj heq).2
    cases h
  case h_4 heq =>
    cases (List.cons.inj heq).2
    exact h
  case h_5 _ _ _ hquote => exact absurd rfl (hquote _)

theorem readString_writeBasic (s rest : List Char) :
    readString (writeBasic s ++ '\n' :: rest) = some (s, '\n' :: rest) := by
  have hread := readBasic_escapeText 0 s ('\n' :: rest)
  simpa [writeBasic] using readString_of_readBasic hread

theorem readLiteral_plain (h : ∀ c ∈ s, isPlain c = true) (hquote : '\x27' ∉ s) (rest : List Char) :
    readLiteral (s ++ '\x27' :: rest) = some (s, rest) := by
  induction s with
  | nil => rfl
  | cons c s ih =>
    obtain ⟨hc, hs⟩ := List.forall_mem_cons.1 h
    rw [List.mem_cons, not_or] at hquote
    rw [List.cons_append, readLiteral, if_pos hc, ih hs hquote.2]
    · rfl
    · exact fun heq => hquote.1 heq.symm

theorem readString_writeLiteral (h : ∀ c ∈ s, isPlain c = true) (hquote : '\x27' ∉ s)
    (rest : List Char) : readString (writeLiteral s ++ '\n' :: rest) = some (s, '\n' :: rest) := by
  have hread := readLiteral_plain h hquote ('\n' :: rest)
  simpa [writeLiteral] using readString_of_readLiteral hread

end Codes

/-! ### Several lines -/

/-- A way to read what stands behind three quotes. -/
structure LinesReader (quote : Char) (read : List Char → Scanned) : Prop where
  readString_eq (s : List Char) :
    readString (quote :: quote :: quote :: s) = read (dropFirstLineEnd s)
  not_lineEnd : quote ≠ '\n' ∧ quote ≠ '\r'
  close {quotes : Nat} (h : quotes ≤ 2) (rest : List Char) :
    read (List.replicate quotes quote ++ quote :: quote :: quote :: '\n' :: rest) =
      some (List.replicate quotes quote, '\n' :: rest)
  keep {quotes : Nat} (h : quotes ≤ 2) {c : Char} (hc : c ≠ quote) {s text rest : List Char}
    (hread : read (c :: s) = some (text, rest)) :
    read (List.replicate quotes quote ++ c :: s) = some (List.replicate quotes quote ++ text, rest)

theorem linesReader_basic : LinesReader '\x22' (readBasicLines .text) where
  readString_eq s := rfl
  not_lineEnd := by decide
  close {quotes} h rest := by
    obtain rfl | rfl | rfl : quotes = 0 ∨ quotes = 1 ∨ quotes = 2 := by omega
    all_goals rfl
  keep {quotes} h {c} hc {s} {text} {rest} hread := by
    have hone : readBasicLines .text ('\x22' :: c :: s) = some ('\x22' :: text, rest) := by
      rw [readBasicLines, hread]
      all_goals simp [hc, isPlain, Scanned.cons]
    obtain rfl | rfl | rfl : quotes = 0 ∨ quotes = 1 ∨ quotes = 2 := by omega
    · exact hread
    · exact hone
    · change readBasicLines .text ('\x22' :: '\x22' :: c :: s) = _
      rw [readBasicLines, hone]
      all_goals simp [hc, isPlain, Scanned.cons]

theorem linesReader_literal : LinesReader '\x27' readLiteralLines where
  readString_eq s := rfl
  not_lineEnd := by decide
  close {quotes} h rest := by
    obtain rfl | rfl | rfl : quotes = 0 ∨ quotes = 1 ∨ quotes = 2 := by omega
    all_goals rfl
  keep {quotes} h {c} hc {s} {text} {rest} hread := by
    have hone : readLiteralLines ('\x27' :: c :: s) = some ('\x27' :: text, rest) := by
      rw [readLiteralLines, hread]
      all_goals simp [hc, isPlain, Scanned.cons]
    obtain rfl | rfl | rfl : quotes = 0 ∨ quotes = 1 ∨ quotes = 2 := by omega
    · exact hread
    · exact hone
    · change readLiteralLines ('\x27' :: '\x27' :: c :: s) = _
      rw [readLiteralLines, hone]
      all_goals simp [hc, isPlain, Scanned.cons]

/-- How a text is written between three quotes, behind some quotes in a row that belong to it. -/
inductive Written (quote : Char) (read : List Char → Scanned) :
    (quotes : Nat) → (content text : List Char) → Prop where
  | nil {quotes : Nat} : Written quote read quotes [] []
  | quote {quotes : Nat} {content text : List Char} (hlt : quotes < 2)
      (h : Written quote read (quotes + 1) content text) :
      Written quote read quotes (quote :: content) (quote :: text)
  | code {quotes : Nat} {first c : Char} {more content text : List Char} (hquote : first ≠ quote)
      (hreturn : first ≠ '\r') (hline : first = '\n' → c = '\n')
      (hread : ∀ tail, read (first :: more ++ tail) = (read tail).cons c)
      (h : Written quote read 0 content text) :
      Written quote read quotes (first :: more ++ content) (c :: text)

section Lines

variable {quote : Char} {read : List Char → Scanned} {quotes : Nat} {content text : List Char}

/-- A character that stands for itself. -/
theorem Written.plain {c : Char} (hquote : c ≠ quote) (hreturn : c ≠ '\r')
    (hread : ∀ tail, read (c :: tail) = (read tail).cons c)
    (h : Written quote read 0 content text) :
    Written quote read quotes (c :: content) (c :: text) :=
  @Written.code quote read quotes c c [] content text hquote hreturn (fun heq => heq) hread h

theorem Written.read_eq (hreads : LinesReader quote read)
    (h : Written quote read quotes content text) (hquotes : quotes ≤ 2) (rest : List Char) :
    read (List.replicate quotes quote ++ (content ++ quote :: quote :: quote :: '\n' :: rest)) =
      some (List.replicate quotes quote ++ text, '\n' :: rest) := by
  induction h with
  | nil => simpa using hreads.close hquotes rest
  | @quote quotes content text hlt h ih =>
    have hread := ih hlt
    rwa [List.replicate_succ', List.append_assoc, List.append_assoc] at hread
  | @code quotes first c more content text hquote hreturn hline hread h ih =>
    refine hreads.keep hquotes hquote ?_
    have hbehind := ih (Nat.zero_le 2)
    simp only [List.replicate_zero, List.nil_append] at hbehind
    have htail := hread (content ++ quote :: quote :: quote :: '\n' :: rest)
    rw [hbehind] at htail
    simpa [Scanned.cons] using htail

theorem dropFirstLineEnd_cons {c : Char} (hline : c ≠ '\n') (hreturn : c ≠ '\r') (s : List Char) :
    dropFirstLineEnd (c :: s) = c :: s := by
  unfold dropFirstLineEnd
  split
  case h_1 heq => exact absurd (List.cons.inj heq).1 hline
  case h_2 heq => exact absurd (List.cons.inj heq).1 hreturn
  case h_3 => rfl

/-- Only a text with a line end may start with one, and in front of that stands another. -/
theorem Written.dropFirstLineEnd_eq (hreads : LinesReader quote read)
    (h : Written quote read quotes content text) (s : List Char) :
    dropFirstLineEnd ((if text.contains '\n' then ['\n'] else []) ++ (content ++ quote :: s)) =
      content ++ quote :: s := by
  split_ifs with hcontains
  · rfl
  · obtain ⟨hline, hreturn⟩ := hreads.not_lineEnd
    cases h with
    | nil => exact dropFirstLineEnd_cons hline hreturn s
    | quote hlt h => exact dropFirstLineEnd_cons hline hreturn _
    | code hquote hreturn hline hread h =>
      refine dropFirstLineEnd_cons ?_ hreturn _
      intro hfirst
      simp [hline hfirst] at hcontains

theorem readString_writeLines (hreads : LinesReader quote read)
    (h : Written quote read 0 content text) (rest : List Char) :
    readString (writeLines quote content text ++ '\n' :: rest) = some (text, '\n' :: rest) := by
  have hdrop := h.dropFirstLineEnd_eq hreads (quote :: quote :: '\n' :: rest)
  have hread := h.read_eq hreads (Nat.zero_le 2) rest
  have hwritten : writeLines quote content text ++ '\n' :: rest =
      quote :: quote :: quote :: ((if text.contains '\n' then ['\n'] else []) ++
        (content ++ quote :: quote :: quote :: '\n' :: rest)) := by
    simp [writeLines, List.replicate]
  rw [hwritten, hreads.readString_eq, hdrop]
  simpa using hread

/-- A code of a basic string is one on several lines as well. -/
theorem Written.of_code {code : List Char} {c : Char} (hcode : Code code c)
    (h : Written '\x22' (readBasicLines .text) 0 content text) :
    Written '\x22' (readBasicLines .text) quotes (code ++ content) (c :: text) := by
  have hread := readBasicLines_code hcode
  cases hcode with
  | ordinary hc =>
    obtain ⟨hplain, hquote, -⟩ := hc
    refine .plain hquote ?_ hread h
    rintro rfl
    exact absurd hplain (by decide)
  | escape => exact .code (by decide) (by decide) (fun heq => by cases heq) hread h
  | number => exact .code (by decide) (by decide) (fun heq => by cases heq) hread h

theorem written_escapeText (quotes : Nat) (s : List Char) :
    Written '\x22' (readBasicLines .text) quotes (escapeText true quotes s) s := by
  induction s generalizing quotes with
  | nil => exact .nil
  | cons c s ih =>
    obtain ⟨code, hcode, htext⟩ | ⟨-, rfl, hlt, htext⟩ | ⟨-, rfl, htext⟩ :=
      escapeText_cons true quotes c s
    · rw [htext]
      exact .of_code hcode (ih 0)
    · rw [htext]
      exact .quote hlt (ih (quotes + 1))
    · rw [htext]
      exact .plain (by decide) (by decide) (fun tail => rfl) (ih 0)

theorem le_longestRun (x : Char) (run : Nat) (s : List Char) : run ≤ longestRun x run s := by
  induction s generalizing run with
  | nil => exact Nat.le_refl run
  | cons c s ih =>
    rw [longestRun]
    split_ifs
    · exact Nat.le_of_succ_le (ih (run + 1))
    · exact Nat.le_max_left run _

theorem notMem_of_longestRun_eq_zero {x : Char} {s : List Char} (h : longestRun x 0 s = 0) :
    x ∉ s := by
  induction s with
  | nil => exact List.not_mem_nil
  | cons c s ih =>
    rw [longestRun] at h
    split_ifs at h with hc
    · have hle := le_longestRun x (0 + 1) s
      omega
    · rw [Nat.max_eq_zero_iff] at h
      rw [List.mem_cons, not_or]
      exact ⟨Ne.symm hc, ih h.2⟩

/-- A text whose quotes come at most two in a row stands for itself. -/
theorem written_self {s : List Char} (hplain : ∀ c ∈ s, c = '\n' ∨ isPlain c = true)
    (hrun : longestRun '\x27' quotes s ≤ 2) : Written '\x27' readLiteralLines quotes s s := by
  induction s generalizing quotes with
  | nil => exact .nil
  | cons c s ih =>
    obtain ⟨hc, hs⟩ := List.forall_mem_cons.1 hplain
    rw [longestRun] at hrun
    split_ifs at hrun with hquote
    · subst hquote
      exact .quote ((le_longestRun _ _ s).trans hrun) (ih hs hrun)
    · have hreturn : c ≠ '\r' := by
        rintro rfl
        exact absurd hc (by decide)
      refine .plain hquote hreturn ?_ (ih hs (by omega))
      intro tail
      rw [readLiteralLines, if_pos hc]
      all_goals simp [hquote, hreturn]

end Lines

/-- Every string is read back as it was written. -/
theorem readString_writeString (s rest : List Char) :
    readString (writeString s ++ '\n' :: rest) = some (s, '\n' :: rest) := by
  have hkept (h : s.any needsCode = false) : ∀ c ∈ s, c = '\n' ∨ isPlain c = true := by
    intro c hc
    have hcode := List.any_eq_false.1 h c hc
    by_cases hline : c = '\n'
    · exact .inl hline
    · exact .inr (by simpa [needsCode, hline] using hcode)
  simp only [writeString, Bool.and_eq_true, Bool.not_eq_true', decide_eq_true_eq]
  split_ifs with hbasic hliteral hbasicLines hliteralLines
  · exact readString_writeBasic s rest
  · obtain ⟨⟨hcoded, hline⟩, hrun⟩ := hliteral
    refine readString_writeLiteral ?_ (notMem_of_longestRun_eq_zero hrun) rest
    intro c hc
    refine (hkept hcoded c hc).resolve_left ?_
    rintro rfl
    simp [hc] at hline
  · exact readString_writeLines linesReader_basic (written_escapeText 0 s) rest
  · obtain ⟨hcoded, hrun⟩ := hliteralLines
    exact readString_writeLines linesReader_literal (written_self (hkept hcoded) hrun) rest
  · exact readString_writeLines linesReader_basic (written_escapeText 0 s) rest
  · exact readString_writeBasic s rest

end IdentityVault.Toml
