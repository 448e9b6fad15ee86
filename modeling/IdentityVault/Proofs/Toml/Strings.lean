import IdentityVault.Toml.Quoted
import Mathlib.Data.List.Infix

/-! What is read from a string between quotes. Ordinary characters stand for themselves; any other
way to write a text is longer than the text. -/
namespace IdentityVault.Toml

/-- A character that stands for itself between the quotes of a basic string. -/
def Ordinary (c : Char) : Prop := isPlain c = true ∧ c ≠ '\x22' ∧ c ≠ '\\'

instance (c : Char) : Decidable (Ordinary c) := inferInstanceAs (Decidable (_ ∧ _))

/-- A spelling of a text on one line: characters that stand for themselves, and longer codes. -/
inductive Spells : (used text : List Char) → Prop where
  | nil : Spells [] []
  | ordinary {c : Char} {used text : List Char} (hc : Ordinary c) (h : Spells used text) :
      Spells (c :: used) (c :: text)
  | code {code used text : List Char} (x : Char) (hlong : 2 ≤ code.length) (hline : '\n' ∉ code)
      (h : Spells used text) : Spells (code ++ used) (x :: text)

namespace Spells

variable {used text : List Char}

theorem newline_notMem (h : Spells used text) : '\n' ∉ used := by
  induction h with
  | nil => simp
  | ordinary hc h ih =>
    rw [List.mem_cons, not_or]
    refine ⟨?_, ih⟩
    rintro rfl
    exact absurd hc (by decide)
  | code x hlong hline h ih =>
    rw [List.mem_append, not_or]
    exact ⟨hline, ih⟩

theorem length_le (h : Spells used text) : text.length ≤ used.length := by
  induction h with
  | nil => exact Nat.le_refl 0
  | ordinary hc h ih => simpa using ih
  | code x hlong hline h ih =>
    rw [List.length_cons, List.length_append]
    omega

/-- Only a text without codes is as long as its spelling. -/
theorem ordinary_of_length_le (h : Spells used text) (hlength : used.length ≤ text.length) :
    ∀ c ∈ used, Ordinary c := by
  induction h with
  | nil => simp
  | ordinary hc h ih =>
    rw [List.forall_mem_cons]
    exact ⟨hc, ih (by simpa using hlength)⟩
  | code x hlong hline h ih =>
    have hle := h.length_le
    rw [List.length_cons, List.length_append] at hlength
    omega

end Spells

section Reading

variable {s text rest digits : List Char} {c x : Char}

theorem Scanned.cons_eq_some {scanned : Scanned} (h : Scanned.cons c scanned = some (text, rest)) :
    ∃ text', text = c :: text' ∧ scanned = some (text', rest) := by
  obtain ⟨⟨text', rest'⟩, hscanned, heq⟩ := Option.map_eq_some_iff.1 h
  cases heq
  exact ⟨text', rfl, hscanned⟩

theorem newline_notMem_of_codePoint? (h : codePoint? digits = some x) : '\n' ∉ digits := by
  obtain ⟨n, hn, -⟩ := Option.bind_eq_some_iff.1 h
  clear h
  generalize 0 = start at hn
  induction digits generalizing start with
  | nil => simp
  | cons c digits ih =>
    rw [List.foldlM_cons] at hn
    obtain ⟨next, hnext, hrest⟩ := Option.bind_eq_some_iff.1 hn
    rw [List.mem_cons, not_or]
    refine ⟨?_, ih next hrest⟩
    rintro rfl
    cases hnext

theorem readBasic_ordinary (h : ∀ c ∈ text, Ordinary c) (rest : List Char) :
    readBasic (text ++ '\x22' :: rest) = some (text, rest) := by
  induction text with
  | nil => rw [List.nil_append, readBasic]
  | cons c text ih =>
    obtain ⟨⟨hplain, hquote, hslash⟩, htext⟩ := List.forall_mem_cons.1 h
    rw [List.cons_append, readBasic, ih htext, if_pos hplain]
    · rfl
    all_goals simp [hquote, hslash]

/-- A quote stands behind a spelling of a text. -/
def QuotedBehind (s text rest : List Char) : Prop :=
  ∃ used, s = used ++ '\x22' :: rest ∧ Spells used text

/-- A character in front of a text was written as a code. -/
theorem QuotedBehind.code {scanned : Scanned}
    (hscanned : ∀ {text rest}, scanned = some (text, rest) → QuotedBehind s text rest)
    (h : scanned.cons x = some (text, rest)) {code : List Char} (hlong : 2 ≤ code.length)
    (hline : '\n' ∉ code) : QuotedBehind (code ++ s) text rest := by
  obtain ⟨text', rfl, hread⟩ := Scanned.cons_eq_some h
  obtain ⟨used, rfl, hused⟩ := hscanned hread
  exact ⟨code ++ used, by rw [List.append_assoc], .code x hlong hline hused⟩

theorem quotedBehind_of_readBasic (h : readBasic s = some (text, rest)) :
    QuotedBehind s text rest := by
  fun_induction readBasic s generalizing text rest with
  | case1 => cases h
  | case2 rest' =>
    cases h
    exact ⟨[], rfl, .nil⟩
  | case3 a b c d rest' ih =>
    obtain ⟨x, hx, hcons⟩ := Option.bind_eq_some_iff.1 h
    have hline := newline_notMem_of_codePoint? hx
    have hcode : '\n' ∉ ['\\', 'u', a, b, c, d] := by simpa using hline
    exact .code ih hcons (by simp) hcode
  | case4 a b c d e f g i rest' ih =>
    obtain ⟨x, hx, hcons⟩ := Option.bind_eq_some_iff.1 h
    have hline := newline_notMem_of_codePoint? hx
    have hcode : '\n' ∉ ['\\', 'U', a, b, c, d, e, f, g, i] := by simpa using hline
    exact .code ih hcons (by simp) hcode
  | case5 e rest' hu hU ih =>
    obtain ⟨x, hx, hcons⟩ := Option.bind_eq_some_iff.1 h
    have he : e ≠ '\n' := by
      rintro rfl
      cases hx
    have hcode : '\n' ∉ ['\\', e] := by simp [Ne.symm he]
    exact .code ih hcons (by simp) hcode
  | case6 c rest' hquote hu hU hescape hplain ih =>
    obtain ⟨text', rfl, hread⟩ := Scanned.cons_eq_some h
    obtain ⟨used, rfl, hused⟩ := ih hread
    refine ⟨c :: used, rfl, .ordinary ⟨hplain, hquote, ?_⟩ hused⟩
    -- A backslash with anything behind it starts a code instead.
    rintro rfl
    cases used with
    | nil => exact hescape _ _ rfl rfl
    | cons e used => exact hescape _ _ rfl rfl
  | case7 => cases h

/-- Three quotes stand behind at least as much as a text is long. -/
def ClosedBehind (s text rest : List Char) : Prop :=
  ∃ used, s = used ++ '\x22' :: '\x22' :: '\x22' :: rest ∧ text.length ≤ used.length

theorem ClosedBehind.skip (h : ClosedBehind s text rest) (more : List Char) :
    ClosedBehind (more ++ s) text rest := by
  obtain ⟨used, rfl, hlength⟩ := h
  refine ⟨more ++ used, by rw [List.append_assoc], ?_⟩
  rw [List.length_append]
  omega

/-- A character in front of a text was written with one character or more. -/
theorem ClosedBehind.cons {scanned : Scanned}
    (hscanned : ∀ {text rest}, scanned = some (text, rest) → ClosedBehind s text rest)
    (h : scanned.cons x = some (text, rest)) (c : Char) (more : List Char) :
    ClosedBehind (c :: more ++ s) text rest := by
  obtain ⟨text', rfl, hread⟩ := Scanned.cons_eq_some h
  obtain ⟨used, rfl, hlength⟩ := hscanned hread
  refine ⟨c :: more ++ used, by rw [List.append_assoc], ?_⟩
  rw [List.length_cons, List.length_append, List.length_cons]
  omega

/-- A string on several lines ends in three quotes, and its text is no longer than what stands in
front of them. -/
theorem closedBehind_of_readBasicLines {p : Position}
    (h : readBasicLines p s = some (text, rest)) : ClosedBehind s text rest := by
  fun_induction readBasicLines p s generalizing text rest with
  | case1 | case2 | case4 | case6 | case10 | case12 | case14 | case16 | case23 => cases h
  | case3 =>
    cases h
    exact ⟨['\x22', '\x22'], rfl, Nat.le_refl 2⟩
  | case5 =>
    cases h
    exact ⟨['\x22'], rfl, Nat.le_refl 1⟩
  | case7 =>
    cases h
    exact ⟨[], rfl, Nat.le_refl 0⟩
  | case8 rest' ih => exact .cons ih h '\r' ['\n']
  | case13 p a b c d rest' hp ih =>
    obtain ⟨x, -, hcons⟩ := Option.bind_eq_some_iff.1 h
    exact .cons ih hcons '\\' ['u', a, b, c, d]
  | case15 p a b c d e f g i rest' hp ih =>
    obtain ⟨x, -, hcons⟩ := Option.bind_eq_some_iff.1 h
    exact .cons ih hcons '\\' ['U', a, b, c, d, e, f, g, i]
  | case19 p e rest' hreturn hu hU hp hline hblank ih =>
    obtain ⟨x, -, hcons⟩ := Option.bind_eq_some_iff.1 h
    exact .cons ih hcons '\\' [e]
  | case22 p c rest' _ _ _ _ _ _ _ _ _ _ _ ih => exact .cons ih h c []
  | case9 p rest' hp ih => exact (ih h).skip ['\r', '\n']
  | case11 p rest' hp ih => exact (ih h).skip ['\\', '\r', '\n']
  | case17 p rest' hp hreturn hu hU ih => exact (ih h).skip ['\\', '\n']
  | case18 p e rest' hreturn hu hU hp hline hblank ih => exact (ih h).skip ['\\', e]
  | case20 p c rest' _ _ _ _ _ _ _ _ _ ih => exact (ih h).skip [c]
  | case21 p c rest' _ _ _ _ _ _ _ _ _ _ ih => exact (ih h).skip [c]

theorem readString_ordinary (h : ∀ c ∈ text, Ordinary c) (rest : List Char) :
    readString ('\x22' :: (text ++ '\x22' :: '\n' :: rest)) = some (text, '\n' :: rest) := by
  have hread := readBasic_ordinary h ('\n' :: rest)
  unfold readString
  split
  case h_1 heq =>
    cases text with
    | nil => simp at heq
    | cons c text =>
      cases (List.cons.inj (List.cons.inj heq).2).1
      exact absurd (h '\x22' List.mem_cons_self) (by decide)
  case h_2 heq =>
    cases (List.cons.inj heq).2
    exact hread
  case h_3 heq => cases (List.cons.inj heq).1
  case h_4 heq => cases (List.cons.inj heq).1
  case h_5 _ hquote _ _ => exact absurd rfl (hquote _)

theorem dropFirstLineEnd_eq (s : List Char) : ∃ more, s = more ++ dropFirstLineEnd s := by
  unfold dropFirstLineEnd
  split
  case h_1 rest => exact ⟨['\n'], rfl⟩
  case h_2 rest => exact ⟨['\r', '\n'], rfl⟩
  case h_3 => exact ⟨[], rfl⟩

/-- Only ordinary characters come back unchanged from between the quotes of a line, where no later
line closes a string of several lines. -/
theorem ordinary_of_readString
    (h : readString ('\x22' :: (text ++ '\x22' :: '\n' :: s)) = some (text, rest))
    (hs : ¬ ['\x22', '\x22', '\x22'] <:+: s) : ∀ c ∈ text, Ordinary c := by
  unfold readString at h
  split at h
  case h_1 behind heq =>
    obtain ⟨more, hmore⟩ := dropFirstLineEnd_eq behind
    have hclosed := (closedBehind_of_readBasicLines h).skip more
    rw [← hmore] at hclosed
    obtain ⟨used, rfl, hlength⟩ := hclosed
    have hdrop := congrArg (List.drop (text.length + 2)) (List.cons.inj heq).2
    have hbehind : (text ++ '\x22' :: '\n' :: s).drop (text.length + 2) = s := by simp
    rw [hbehind, List.drop_succ_cons, List.drop_succ_cons,
      List.drop_append_of_le_length hlength] at hdrop
    refine absurd ?_ hs
    exact ⟨used.drop text.length, rest, by rw [hdrop]; simp⟩
  case h_2 behind hbehind heq =>
    cases (List.cons.inj heq).2
    obtain ⟨used, hused, hspells⟩ := quotedBehind_of_readBasic h
    have hdrop := congrArg (List.drop text.length) hused
    have hlength := hspells.length_le
    rw [List.drop_left, List.drop_append_of_le_length hlength] at hdrop
    have hle : used.length ≤ text.length := by
      cases hbeyond : used.drop text.length with
      | nil => exact List.drop_eq_nil_iff.1 hbeyond
      | cons quote beyond =>
        -- What was used up would reach past the quote into the line end.
        rw [hbeyond, List.cons_append, List.cons.injEq] at hdrop
        cases beyond with
        | nil => cases (List.cons.inj hdrop.2).1
        | cons next beyond =>
          cases (List.cons.inj hdrop.2).1
          have hmem : '\n' ∈ used.drop text.length := by simp [hbeyond]
          exact absurd (List.mem_of_mem_drop hmem) hspells.newline_notMem
    have htext := (List.append_inj hused (Nat.le_antisymm hlength hle)).1
    rw [htext]
    exact hspells.ordinary_of_length_le hle
  case h_3 heq => cases (List.cons.inj heq).1
  case h_4 heq => cases (List.cons.inj heq).1
  case h_5 => cases h

end Reading

end IdentityVault.Toml
