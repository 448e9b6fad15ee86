import IdentityVault.Hash.Sha1

/-! SHA-1 on natural numbers, in a form that the kernel evaluates fast. Every word is a numeral
before it is used again, and the recursors and the operations are those that the kernel knows. -/
namespace IdentityVault.Sha1.Numbers

/-- Go on with a number that is evaluated first, since the recursor asks for it. -/
def force {α : Type} (n : Nat) (next : Nat → α) : α :=
  Nat.rec (next 0) (fun m _ => next m) (Nat.succ n)

theorem force_eq {α : Type} (n : Nat) (next : Nat → α) : force n next = next n := rfl

/-- The lowest word of a number. -/
def low (n : Nat) : Nat := Nat.mod n 0x100000000

/-- Rotate a word; `right` is the rest of its bits. The result may be longer than a word. -/
def rotated (n left right : Nat) : Nat := Nat.lor (Nat.shiftLeft n left) (Nat.shiftRight n right)

def choice (b c d : Nat) : Nat :=
  Nat.add (Nat.lor (Nat.land b c) (Nat.land (Nat.sub 0xffffffff b) d)) 0x5a827999

def parity (constant b c d : Nat) : Nat := Nat.add (Nat.xor (Nat.xor b c) d) constant

def majority (b c d : Nat) : Nat :=
  Nat.add (Nat.lor (Nat.lor (Nat.land b c) (Nat.land b d)) (Nat.land c d)) 0x8f1bbcdc

/-- The mixing functions of the eighty rounds. -/
def mixings : List (Nat → Nat → Nat → Nat) :=
  List.replicate 20 choice ++ (List.replicate 20 (parity 0x6ed9eba1) ++
    (List.replicate 20 majority ++ (List.replicate 20 (parity 0xca62c1d6) ++ [])))

/-- One round for each mixing function, on the words of a state and the next sixteen words of the
schedule. -/
noncomputable def rounds {α : Type} (mixings : List (Nat → Nat → Nat → Nat)) :
    (a b c d e w0 w1 w2 w3 w4 w5 w6 w7 w8 w9 w10 w11 w12 w13 w14 w15 : Nat) →
      (Nat → Nat → Nat → Nat → Nat → α) → α :=
  List.rec
    (fun a b c d e _ _ _ _ _ _ _ _ _ _ _ _ _ _ _ _ next => next a b c d e)
    (fun mixing _ rest a b c d e w0 w1 w2 w3 w4 w5 w6 w7 w8 w9 w10 w11 w12 w13 w14 w15 next =>
      force (low (Nat.add (Nat.add (Nat.add (rotated a 5 27) (mixing b c d)) e) w0)) fun a' =>
      force (low (rotated b 30 2)) fun b' =>
      force (Nat.xor (Nat.xor (Nat.xor w13 w8) w2) w0) fun w =>
      force (low (rotated w 1 31)) fun w' =>
      rest a' a b' c d w1 w2 w3 w4 w5 w6 w7 w8 w9 w10 w11 w12 w13 w14 w15 w' next)
    mixings

/-- Word number `i` of a number, from the lowest on. -/
def word (i n : Nat) : Nat := low (Nat.shiftRight n (Nat.mul 32 i))

/-- A word below a number. -/
def join (n w : Nat) : Nat := Nat.add (Nat.shiftLeft n 32) w

/-- Five words as one number, the first word highest. -/
def pack (a b c d e : Nat) : Nat := join (join (join (join a b) c) d) e

def unpack {α : Type} (n : Nat) (next : Nat → Nat → Nat → Nat → Nat → α) : α :=
  force (word 4 n) fun a => force (word 3 n) fun b => force (word 2 n) fun c =>
    force (word 1 n) fun d => force (word 0 n) fun e => next a b c d e

/-- Compress a block, given by its words, into a state that is packed. -/
noncomputable def compress
    (s w0 w1 w2 w3 w4 w5 w6 w7 w8 w9 w10 w11 w12 w13 w14 w15 : Nat) : Nat :=
  unpack s fun a b c d e =>
    rounds mixings a b c d e w0 w1 w2 w3 w4 w5 w6 w7 w8 w9 w10 w11 w12 w13 w14 w15
      fun a' b' c' d' e' =>
        pack (low (Nat.add a a')) (low (Nat.add b b')) (low (Nat.add c c')) (low (Nat.add d d'))
          (low (Nat.add e e'))

theorem low_eq (n : Nat) : low n = n % 4294967296 := rfl

theorem low_toNat (w : UInt32) : low w.toNat = w.toNat := Nat.mod_eq_of_lt w.toNat_lt

theorem low_rotated (w left : UInt32) (hleft : left.toNat < 32) {right : Nat}
    (hright : (32 - left).toNat % 32 = right) :
    low (rotated w.toNat left.toNat right) = (rotateLeft w left).toNat := by
  have hshift : w.toNat >>> right < 2 ^ 32 := Nat.lt_of_le_of_lt (Nat.shiftRight_le ..) w.toNat_lt
  unfold rotateLeft
  rw [UInt32.toNat_or, UInt32.toNat_shiftLeft, UInt32.toNat_shiftRight, hright,
    Nat.mod_eq_of_lt hleft]
  show (w.toNat <<< left.toNat ||| w.toNat >>> right) % 2 ^ 32 = _
  rw [Nat.or_mod_two_pow, Nat.mod_eq_of_lt hshift]

theorem low_choice (b c d : UInt32) :
    low (choice b.toNat c.toNat d.toNat) =
      (((b &&& c) ||| (~~~b &&& d)) + 0x5a827999).toNat := by
  rw [UInt32.toNat_add, UInt32.toNat_or, UInt32.toNat_and, UInt32.toNat_and, UInt32.toNat_not]
  rfl

theorem low_parity (constant b c d : UInt32) :
    low (parity constant.toNat b.toNat c.toNat d.toNat) = ((b ^^^ c ^^^ d) + constant).toNat := by
  rw [UInt32.toNat_add, UInt32.toNat_xor, UInt32.toNat_xor]
  rfl

theorem low_majority (b c d : UInt32) :
    low (majority b.toNat c.toNat d.toNat) =
      (((b &&& c) ||| (b &&& d) ||| (c &&& d)) + 0x8f1bbcdc).toNat := by
  rw [UInt32.toNat_add, UInt32.toNat_or, UInt32.toNat_or, UInt32.toNat_and, UInt32.toNat_and,
    UInt32.toNat_and]
  rfl

/-- The functions mix like the rounds from round `t` on to the last. -/
def Mix : Nat → List (Nat → Nat → Nat → Nat) → Prop
  | t, [] => t = 80
  | t, f :: fs =>
      (∀ b c d : UInt32, low (f b.toNat c.toNat d.toNat) = (mixing t b c d).toNat) ∧ Mix (t + 1) fs

theorem Mix.length {t : Nat} {fs : List (Nat → Nat → Nat → Nat)} (h : Mix t fs) :
    t + fs.length = 80 := by
  induction fs generalizing t with
  | nil => exact h
  | cons f fs ih =>
    have hlength := ih h.2
    rw [List.length_cons]
    omega

theorem Mix.replicate {t n : Nat} {f : Nat → Nat → Nat → Nat} {fs : List (Nat → Nat → Nat → Nat)}
    (hf : ∀ i, t ≤ i → i < t + n → ∀ b c d : UInt32,
      low (f b.toNat c.toNat d.toNat) = (mixing i b c d).toNat)
    (hfs : Mix (t + n) fs) : Mix t (List.replicate n f ++ fs) := by
  induction n generalizing t with
  | zero => exact hfs
  | succ n ih =>
    refine ⟨hf t (Nat.le_refl t) (by omega), ih (fun i hle hlt => hf i (by omega) (by omega)) ?_⟩
    rwa [Nat.add_right_comm]

theorem mix_mixings : Mix 0 mixings := by
  refine .replicate (fun t _ ht b c d => ?_) (.replicate (fun t hle ht b c d => ?_)
    (.replicate (fun t hle ht b c d => ?_) (.replicate (fun t hle ht b c d => ?_) rfl)))
  · rw [low_choice, mixing, if_pos (by omega)]
  · rw [mixing, if_neg (by omega), if_pos (by omega)]
    exact low_parity 0x6ed9eba1 b c d
  · rw [low_majority, mixing, if_neg (by omega), if_neg (by omega), if_pos (by omega)]
  · rw [mixing, if_neg (by omega), if_neg (by omega), if_neg (by omega)]
    exact low_parity 0xca62c1d6 b c d

theorem low_round (f : Nat → Nat → Nat → Nat) {t : Nat} (s : State) (w : UInt32)
    (hf : low (f s.b.toNat s.c.toNat s.d.toNat) = (mixing t s.b s.c s.d).toNat) :
    low (Nat.add (Nat.add (Nat.add (rotated s.a.toNat 5 27) (f s.b.toNat s.c.toNat s.d.toNat))
      s.e.toNat) w.toNat) = (round t w s).a.toNat := by
  have hrotated : low (rotated s.a.toNat 5 27) = (rotateLeft s.a 5).toNat :=
    low_rotated s.a 5 (by decide) (by decide)
  simp only [round, UInt32.toNat_add, ← hrotated, ← hf]
  simp only [low_eq, Nat.add_eq]
  omega

/-- A sequence of words that goes on as a message schedule does. -/
def Schedule (g : Nat → UInt32) : Prop :=
  ∀ t, g (t + 16) = rotateLeft (g (t + 13) ^^^ g (t + 8) ^^^ g (t + 2) ^^^ g t) 1

theorem low_schedule {g : Nat → UInt32} (hg : Schedule g) (t : Nat) :
    low (rotated (Nat.xor (Nat.xor (Nat.xor (g (t + 13)).toNat (g (t + 8)).toNat)
      (g (t + 2)).toNat) (g t).toNat) 1 31) = (g (t + 16)).toNat := by
  rw [hg]
  have hxor : Nat.xor (Nat.xor (Nat.xor (g (t + 13)).toNat (g (t + 8)).toNat)
      (g (t + 2)).toNat) (g t).toNat =
      (g (t + 13) ^^^ g (t + 8) ^^^ g (t + 2) ^^^ g t).toNat := by
    simp only [UInt32.toNat_xor]
    rfl
  rw [hxor]
  exact low_rotated _ 1 (by decide) (by decide)

theorem rounds_cons {α : Type} (f : Nat → Nat → Nat → Nat) (fs : List (Nat → Nat → Nat → Nat))
    (a b c d e w0 w1 w2 w3 w4 w5 w6 w7 w8 w9 w10 w11 w12 w13 w14 w15 : Nat)
    (next : Nat → Nat → Nat → Nat → Nat → α) :
    rounds (f :: fs) a b c d e w0 w1 w2 w3 w4 w5 w6 w7 w8 w9 w10 w11 w12 w13 w14 w15 next =
      rounds fs (low (Nat.add (Nat.add (Nat.add (rotated a 5 27) (f b c d)) e) w0)) a
        (low (rotated b 30 2)) c d w1 w2 w3 w4 w5 w6 w7 w8 w9 w10 w11 w12 w13 w14 w15
        (low (rotated (Nat.xor (Nat.xor (Nat.xor w13 w8) w2) w0) 1 31)) next := rfl

/-- The rounds of a state on numbers are its rounds on words. -/
theorem rounds_eq {α : Type} {g : Nat → UInt32} (hg : Schedule g) {w : Array UInt32}
    (hw : ∀ t < 80, w.getD t 0 = g t) (fs : List (Nat → Nat → Nat → Nat)) {t : Nat}
    (hfs : Mix t fs) (s : State) (next : Nat → Nat → Nat → Nat → Nat → α) :
    rounds fs s.a.toNat s.b.toNat s.c.toNat s.d.toNat s.e.toNat (g t).toNat (g (t + 1)).toNat
        (g (t + 2)).toNat (g (t + 3)).toNat (g (t + 4)).toNat (g (t + 5)).toNat (g (t + 6)).toNat
        (g (t + 7)).toNat (g (t + 8)).toNat (g (t + 9)).toNat (g (t + 10)).toNat
        (g (t + 11)).toNat (g (t + 12)).toNat (g (t + 13)).toNat (g (t + 14)).toNat
        (g (t + 15)).toNat next =
      next (Sha1.rounds w fs.length t s).a.toNat (Sha1.rounds w fs.length t s).b.toNat
        (Sha1.rounds w fs.length t s).c.toNat (Sha1.rounds w fs.length t s).d.toNat
        (Sha1.rounds w fs.length t s).e.toNat := by
  induction fs generalizing t s with
  | nil => rfl
  | cons f fs ih =>
    obtain ⟨hf, hrest⟩ := hfs
    have hround := low_round f s (g t) (hf s.b s.c s.d)
    have hrotated : low (rotated s.b.toNat 30 2) = (rotateLeft s.b 30).toNat :=
      low_rotated s.b 30 (by decide) (by decide)
    have hword := low_schedule hg t
    have hlater := ih hrest (round t (g t) s)
    have ht : w.getD t 0 = g t := by
      have hlength := hrest.length
      exact hw t (by omega)
    rw [rounds_cons, hround, hrotated, hword, List.length_cons, Sha1.rounds, ht]
    exact hlater

theorem extend_eq {g : Nat → UInt32} (hg : Schedule g) (n : Nat) {w : Array UInt32}
    (hsize : 16 ≤ w.size) (hw : ∀ t < w.size, w.getD t 0 = g t) :
    ∀ t < w.size + n, (extend n w).getD t 0 = g t := by
  induction n generalizing w with
  | zero => exact hw
  | succ n ih =>
    obtain ⟨k, hk⟩ := Nat.exists_eq_add_of_le' hsize
    have hnext : rotateLeft (w.getD (w.size - 3) 0 ^^^ w.getD (w.size - 8) 0 ^^^
        w.getD (w.size - 14) 0 ^^^ w.getD (w.size - 16) 0) 1 = g w.size := by
      rw [hw _ (by omega), hw _ (by omega), hw _ (by omega), hw _ (by omega), hk, hg k]
      congr
    intro t ht
    rw [extend, hnext]
    refine ih (by rw [Array.size_push]; omega) (fun i hi => ?_) t (by rw [Array.size_push]; omega)
    rw [Array.size_push] at hi
    by_cases hlast : i = w.size
    · rw [hlast, Array.getD_eq_getD_getElem?, Array.getElem?_push_size, Option.getD_some]
    · rw [← hw i (by omega), Array.getD_eq_getD_getElem?, Array.getD_eq_getD_getElem?,
        Array.getElem?_push, if_neg hlast]

/-- The sequence that begins with these sixteen words. -/
def sequence (words : List UInt32) (t : Nat) : UInt32 :=
  if t < 16 then words.getD t 0
  else rotateLeft (sequence words (t - 3) ^^^ sequence words (t - 8) ^^^ sequence words (t - 14) ^^^
    sequence words (t - 16)) 1

theorem schedule_sequence (words : List UInt32) : Schedule (sequence words) := by
  intro t
  rw [sequence, if_neg (by omega)]
  congr

theorem sequence_of_lt (words : List UInt32) {t : Nat} (h : t < 16) :
    sequence words t = words.getD t 0 := by
  unfold sequence
  rw [if_pos h]

def packed (s : State) : Nat := pack s.a.toNat s.b.toNat s.c.toNat s.d.toNat s.e.toNat

theorem join_eq (n w : Nat) : join n w = n * 4294967296 + w :=
  congrArg (· + w) (Nat.shiftLeft_eq n 32)

theorem word_zero_join (n : Nat) (w : UInt32) : word 0 (join n w.toNat) = w.toNat := by
  have hw := w.toNat_lt
  show join n w.toNat >>> 0 % 4294967296 = w.toNat
  rw [join_eq, Nat.shiftRight_zero]
  omega

theorem word_succ_join (i n : Nat) (w : UInt32) :
    word (i + 1) (join n w.toNat) = word i n := by
  have hw := w.toNat_lt
  have hrest : (n * 4294967296 + w.toNat) / 2 ^ 32 = n := by omega
  show join n w.toNat >>> (32 * (i + 1)) % 4294967296 = n >>> (32 * i) % 4294967296
  rw [join_eq, Nat.mul_succ 32 i, Nat.add_comm (32 * i), Nat.shiftRight_add,
    Nat.shiftRight_eq_div_pow _ 32, hrest]

theorem word_packed (s : State) :
    word 4 (packed s) = s.a.toNat ∧ word 3 (packed s) = s.b.toNat ∧
      word 2 (packed s) = s.c.toNat ∧ word 1 (packed s) = s.d.toNat ∧
      word 0 (packed s) = s.e.toNat := by
  refine ⟨?_, ?_, ?_, ?_, ?_⟩ <;> rw [packed, pack]
  · rw [word_succ_join 3, word_succ_join 2, word_succ_join 1, word_succ_join 0]
    exact low_toNat s.a
  · rw [word_succ_join 2, word_succ_join 1, word_succ_join 0, word_zero_join]
  · rw [word_succ_join 1, word_succ_join 0, word_zero_join]
  · rw [word_succ_join 0, word_zero_join]
  · rw [word_zero_join]

theorem unpack_packed {α : Type} (s : State) (next : Nat → Nat → Nat → Nat → Nat → α) :
    unpack (packed s) next = next s.a.toNat s.b.toNat s.c.toNat s.d.toNat s.e.toNat := by
  obtain ⟨ha, hb, hc, hd, he⟩ := word_packed s
  rw [unpack, force_eq, force_eq, force_eq, force_eq, force_eq, ha, hb, hc, hd, he]

/-- The state that a number packs. -/
def state (n : Nat) : State :=
  ⟨.ofNat (word 4 n), .ofNat (word 3 n), .ofNat (word 2 n), .ofNat (word 1 n), .ofNat (word 0 n)⟩

theorem state_packed (s : State) : state (packed s) = s := by
  obtain ⟨ha, hb, hc, hd, he⟩ := word_packed s
  simp only [state, ha, hb, hc, hd, he, UInt32.ofNat_toNat]

theorem compress_eq (s : State) {block : Bytes} {words : List UInt32}
    (hwords : Bytes.toWords block = words) (hlength : words.length = 16) :
    compress (packed s) (words.getD 0 0).toNat (words.getD 1 0).toNat (words.getD 2 0).toNat
        (words.getD 3 0).toNat (words.getD 4 0).toNat (words.getD 5 0).toNat
        (words.getD 6 0).toNat (words.getD 7 0).toNat (words.getD 8 0).toNat
        (words.getD 9 0).toNat (words.getD 10 0).toNat (words.getD 11 0).toNat
        (words.getD 12 0).toNat (words.getD 13 0).toNat (words.getD 14 0).toNat
        (words.getD 15 0).toNat =
      packed (Sha1.compress s block) := by
  have hschedule : ∀ t < 80, (schedule block).getD t 0 = sequence words t := by
    have hsize : words.toArray.size = 16 := by rw [List.size_toArray, hlength]
    have hfirst : ∀ t < words.toArray.size, words.toArray.getD t 0 = sequence words t := by
      intro t ht
      rw [sequence_of_lt words (by omega)]
      simp
    have hextend := extend_eq (schedule_sequence words) 64 (Nat.le_of_eq hsize.symm) hfirst
    rw [hsize] at hextend
    unfold schedule
    rw [hwords]
    exact hextend
  have hrounds := rounds_eq (schedule_sequence words) hschedule mixings mix_mixings s
    (fun a' b' c' d' e' => pack (low (Nat.add s.a.toNat a')) (low (Nat.add s.b.toNat b'))
      (low (Nat.add s.c.toNat c')) (low (Nat.add s.d.toNat d')) (low (Nat.add s.e.toNat e')))
  simp only [sequence_of_lt words, Nat.zero_add, Nat.reduceLT] at hrounds
  have hadd (x y : UInt32) : low (Nat.add x.toNat y.toNat) = (x + y).toNat :=
    (UInt32.toNat_add x y).symm
  have hcount : mixings.length = 80 := by rw [← Nat.zero_add mixings.length, mix_mixings.length]
  unfold compress
  rw [unpack_packed, hrounds, hcount]
  simp only [hadd, packed, Sha1.compress]

end IdentityVault.Sha1.Numbers
