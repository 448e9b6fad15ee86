import IdentityVault.Engine.Contention
import IdentityVault.Proofs.Program.History
import Mathlib.Data.List.Count
import Mathlib.Logic.IsEmpty.Basic
import Mathlib.Tactic.SplitIfs

/-! Threads at one lock, in any order. The answers that a thread got tell how many levels it has by
lock calls and how many by guards, and the lock goes by these numbers alone. -/
namespace IdentityVault

/-- The way back from an entry. -/
def Entry.leaving : Entry → LockAction
  | .lockCall => .unlock
  | .guarded => .release

/-- A thread, what it asked of the lock, and the answer. A call that waits is answered again when
the thread is let in. -/
abbrev LockDeed (τ : Type) := τ × LockAction × LockAnswer

variable {τ : Type} [DecidableEq τ]

/-- The levels that a thread took by one kind of entry, less those that it gave back. -/
def levelsBy (entry : Entry) (past : List (LockDeed τ)) (t : τ) : Int :=
  past.count (t, .enter entry, .done) - past.count (t, entry.leaving, .done)

def levels (past : List (LockDeed τ)) (t : τ) : Int :=
  levelsBy .lockCall past t + levelsBy .guarded past t

section Counts

variable (past : List (LockDeed τ)) (t u : τ) (entry other : Entry)

theorem count_deed (a b : LockAction) (answer : LockAnswer) :
    List.count (t, b, .done) ((u, a, answer) :: past) =
      past.count (t, b, .done) + if t = u ∧ b = a ∧ answer = .done then 1 else 0 := by
  simp only [List.count_cons, beq_iff_eq, Prod.mk.injEq, @eq_comm _ t u, @eq_comm _ b a]

theorem Entry.leaving_ne_enter : entry.leaving ≠ .enter other := by
  cases entry <;> simp [leaving]

theorem Entry.leaving_inj : entry.leaving = other.leaving ↔ entry = other := by
  cases entry <;> cases other <;> simp [leaving]

theorem levelsBy_enter : levelsBy entry ((u, .enter other, .done) :: past) t =
    levelsBy entry past t + if t = u ∧ entry = other then 1 else 0 := by
  simp only [levelsBy, count_deed, LockAction.enter.injEq, entry.leaving_ne_enter, and_false,
    and_true, if_false]
  split_ifs <;> omega

theorem levelsBy_leaving : levelsBy entry ((u, other.leaving, .done) :: past) t =
    levelsBy entry past t - if t = u ∧ entry = other then 1 else 0 := by
  have henter : LockAction.enter entry ≠ other.leaving := (other.leaving_ne_enter entry).symm
  simp only [levelsBy, count_deed, henter, entry.leaving_inj, and_false, and_true, if_false]
  split_ifs <;> omega

theorem levelsBy_unlock : levelsBy entry ((u, .unlock, .done) :: past) t =
    levelsBy entry past t - if t = u ∧ entry = .lockCall then 1 else 0 :=
  levelsBy_leaving past t u entry .lockCall

theorem levelsBy_release : levelsBy entry ((u, .release, .done) :: past) t =
    levelsBy entry past t - if t = u ∧ entry = .guarded then 1 else 0 :=
  levelsBy_leaving past t u entry .guarded

/-- Only what was done counts. -/
theorem levelsBy_of_ne_done {a : LockAction} {answer : LockAnswer} (h : answer ≠ .done) :
    levelsBy entry ((u, a, answer) :: past) t = levelsBy entry past t := by
  simp only [levelsBy, count_deed, h, and_false, if_false, Nat.add_zero]

end Counts

namespace ReentrantLock

/-- The lock of a thread with some levels. It is free without any. -/
def of (t : τ) (levels depth : Nat) : ReentrantLock τ :=
  ⟨if levels = 0 then none else some t, levels, depth⟩

variable {t u : τ} {n depth : Nat}

theorem isHeldBy_of : (of t n depth).isHeldBy u = decide (u = t ∧ n ≠ 0) := by
  cases n <;> simp [of, isHeldBy, eq_comm]

theorem enter?_of_self : (of t n depth).enter? t = some (of t (n + 1) depth) := by
  cases n <;> simp [of, enter?]

theorem enter?_of_ne (h : u ≠ t) (hn : n ≠ 0) : (of t n depth).enter? u = none := by
  simp [of, enter?, hn, h.symm]

theorem lock?_of_self : (of t n depth).lock? t = some (of t (n + 1) (depth + 1)) := by
  rw [lock?, enter?_of_self]
  rfl

theorem unlock_of_other (h : ¬(u = t ∧ n ≠ 0)) : (of t n depth).unlock u = .error .notOwner := by
  simp [unlock, isHeldBy_of, h]

theorem unlock_of_zero (hn : n ≠ 0) : (of t n 0).unlock t = .error .unbalanced := by
  have hheld : (of t n 0).isHeldBy t = true := by simp [isHeldBy_of, hn]
  simp only [unlock, hheld]
  rfl

omit [DecidableEq τ] in
theorem leave_of_succ : (of t (n + 1) depth).leave = of t n depth := by
  cases n <;> simp [of, leave]

theorem unlock_of_succ : (of t (n + 1) (depth + 1)).unlock t = .ok (of t n depth) := by
  have hheld : (of t (n + 1) (depth + 1)).isHeldBy t = true := by simp [isHeldBy_of]
  simp only [unlock, hheld, Bool.not_true, Bool.false_eq_true, if_false]
  exact (if_neg (Nat.succ_ne_zero depth)).trans (congrArg Except.ok leave_of_succ)

end ReentrantLock

namespace Contention

/-- Threads act in any order. One that waits does nothing else; it is let in at any moment at which
it can take its level. -/
inductive Turn : Contention τ → LockDeed τ → Contention τ → Prop where
  | act {c : Contention τ} (t : τ) (a : LockAction) (ready : ∀ entry, (t, entry) ∉ c.waiting) :
      Turn c (t, a, (c.act t a).1) (c.act t a).2
  | letIn {c c' : Contention τ} (t : τ) (entry : Entry) (waits : (t, entry) ∈ c.waiting)
      (enters : { c with waiting := c.waiting.erase (t, entry) }.enter? t entry = some c') :
      Turn c (t, .enter entry, .done) c'

/-- What threads can do at a lock that was free. -/
abbrev Run : List (LockDeed τ) → Contention τ → Prop := History Turn {}

/-- All levels are those of one thread, `calls` by lock calls and `guards` by guards, as its deeds
tell. -/
structure HeldBy (past : List (LockDeed τ)) (c : Contention τ) (t : τ) (calls guards : Nat) :
    Prop where
  lock : c.lock = .of t (calls + guards) calls
  guards_eq (u : τ) : c.guards u = if u = t then guards else 0
  lockCall (u : τ) : levelsBy .lockCall past u = if u = t then (calls : Int) else 0
  guarded (u : τ) : levelsBy .guarded past u = if u = t then (guards : Int) else 0

variable {past : List (LockDeed τ)} {c c' : Contention τ} {t u : τ} {calls guards : Nat}
  {entry : Entry}

namespace HeldBy

theorem start (t : τ) : HeldBy [] {} t 0 0 where
  lock := rfl
  guards_eq u := by split_ifs <;> rfl
  lockCall u := by split_ifs <;> rfl
  guarded u := by split_ifs <;> rfl

/-- A free lock is anyone's with no level. -/
theorem of_free (h : HeldBy past c u 0 0) (t : τ) : HeldBy past c t 0 0 where
  lock := h.lock
  guards_eq v := by rw [h.guards_eq, ite_self, ite_self]
  lockCall v := by simp [h.lockCall]
  guarded v := by simp [h.guarded]

/-- The lock is open to a thread, or another has it. -/
theorem open_or_other (h : HeldBy past c u calls guards) (t : τ) :
    (∃ calls guards, HeldBy past c t calls guards) ∨ t ≠ u ∧ calls + guards ≠ 0 := by
  by_cases htu : t = u
  · subst htu
    exact .inl ⟨calls, guards, h⟩
  · by_cases hlevels : calls + guards = 0
    · obtain ⟨rfl, rfl⟩ : calls = 0 ∧ guards = 0 := by omega
      exact .inl ⟨0, 0, h.of_free t⟩
    · exact .inr ⟨htu, hlevels⟩

theorem enter?_other (h : HeldBy past c u calls guards) (htu : t ≠ u) (hlevels : calls + guards ≠ 0)
    (entry : Entry) : c.enter? t entry = none := by
  have hnone : (ReentrantLock.of u (calls + guards) calls).enter? t = none :=
    ReentrantLock.enter?_of_ne htu hlevels
  cases entry <;> simp [Contention.enter?, h.lock, ReentrantLock.lock?, hnone]

/-- Who waits plays no part. -/
theorem congr (h : HeldBy past c u calls guards) (hlock : c'.lock = c.lock)
    (hguards : c'.guards = c.guards) : HeldBy past c' u calls guards where
  lock := hlock.trans h.lock
  guards_eq v := by rw [hguards, h.guards_eq]
  lockCall := h.lockCall
  guarded := h.guarded

/-- What was refused, asked or left waiting changes no levels. -/
theorem of_ne_done (h : HeldBy past c u calls guards) (t : τ) (a : LockAction)
    {answer : LockAnswer} (hanswer : answer ≠ .done) :
    HeldBy ((t, a, answer) :: past) c u calls guards where
  lock := h.lock
  guards_eq := h.guards_eq
  lockCall v := by rw [levelsBy_of_ne_done _ _ _ _ hanswer, h.lockCall]
  guarded v := by rw [levelsBy_of_ne_done _ _ _ _ hanswer, h.guarded]

theorem enter (h : HeldBy past c t calls guards) (henter : c.enter? t entry = some c') :
    ∃ calls guards, HeldBy ((t, .enter entry, .done) :: past) c' t calls guards := by
  cases entry with
  | lockCall =>
    simp only [Contention.enter?, h.lock, ReentrantLock.lock?_of_self, Option.map_some,
      Option.some.injEq] at henter
    subst henter
    refine ⟨calls + 1, guards, ?_, h.guards_eq, fun u => ?_, fun u => ?_⟩
    · rw [Nat.add_right_comm]
    · rw [levelsBy_enter, h.lockCall]
      by_cases hut : u = t <;> simp [hut]
    · rw [levelsBy_enter, h.guarded]
      simp
  | guarded =>
    simp only [Contention.enter?, h.lock, ReentrantLock.enter?_of_self, Option.map_some,
      Option.some.injEq] at henter
    subst henter
    refine ⟨calls, guards + 1, rfl, fun u => ?_, fun u => ?_, fun u => ?_⟩
    · by_cases hut : u = t <;> simp [setGuards, h.guards_eq, hut]
    · rw [levelsBy_enter, h.lockCall]
      simp
    · rw [levelsBy_enter, h.guarded]
      by_cases hut : u = t <;> simp [hut]

theorem unlock_eq (h : HeldBy past c t calls guards) : c.lock.unlock t = match calls, guards with
    | 0, 0 => .error .notOwner
    | 0, _ + 1 => .error .unbalanced
    | n + 1, guards => .ok (.of t (n + guards) n) := by
  rw [h.lock]
  match calls, guards with
  | 0, 0 => exact ReentrantLock.unlock_of_other (by simp)
  | 0, guards + 1 => exact ReentrantLock.unlock_of_zero (by omega)
  | n + 1, guards =>
    rw [Nat.add_right_comm]
    exact ReentrantLock.unlock_of_succ

theorem unlock_other (h : HeldBy past c u calls guards) (htu : t ≠ u) :
    c.lock.unlock t = .error .notOwner := by
  rw [h.lock]
  exact ReentrantLock.unlock_of_other (fun hheld => htu hheld.1)

theorem unlock {lock : ReentrantLock τ} (h : HeldBy past c t calls guards)
    (hunlock : c.lock.unlock t = .ok lock) :
    ∃ calls, HeldBy ((t, .unlock, .done) :: past) { c with lock := lock } t calls guards := by
  rw [h.unlock_eq] at hunlock
  match calls, guards with
  | 0, 0 => cases hunlock
  | 0, _ + 1 => cases hunlock
  | n + 1, guards =>
    cases hunlock
    refine ⟨n, rfl, h.guards_eq, fun u => ?_, fun u => ?_⟩
    · rw [levelsBy_unlock, h.lockCall]
      by_cases hut : u = t <;> simp [hut]
    · rw [levelsBy_unlock, h.guarded]
      simp

theorem release (h : HeldBy past c t calls (guards + 1)) :
    HeldBy ((t, .release, .done) :: past)
      ({ c with lock := c.lock.leave }.setGuards t guards) t calls guards where
  lock := by
    change c.lock.leave = _
    rw [h.lock, ← Nat.add_assoc]
    exact ReentrantLock.leave_of_succ
  guards_eq u := by by_cases hut : u = t <;> simp [setGuards, h.guards_eq, hut]
  lockCall u := by
    rw [levelsBy_release, h.lockCall]
    simp
  guarded u := by
    rw [levelsBy_release, h.guarded]
    by_cases hut : u = t <;> simp [hut]

/-- Whoever acts or is let in, the levels stay with one thread. -/
theorem turn {d : LockDeed τ} (h : HeldBy past c u calls guards) (hturn : Turn c d c') :
    ∃ u calls guards, HeldBy (d :: past) c' u calls guards := by
  cases hturn with
  | letIn t entry waits enters =>
    have hsame : HeldBy past { c with waiting := c.waiting.erase (t, entry) } u calls guards :=
      h.congr rfl rfl
    rcases hsame.open_or_other t with ⟨calls, guards, hopen⟩ | ⟨htu, hlevels⟩
    · exact ⟨t, hopen.enter enters⟩
    · rw [hsame.enter?_other htu hlevels] at enters
      cases enters
  | act t a ready =>
    rcases h.open_or_other t with ⟨calls, guards, hopen⟩ | ⟨htu, hlevels⟩
    · cases a with
      | enter entry =>
        cases henter : c.enter? t entry with
        | none =>
          have hwaits : HeldBy past { c with waiting := c.waiting ++ [(t, entry)] } t
              calls guards := hopen.congr rfl rfl
          simp only [Contention.act, henter]
          exact ⟨t, calls, guards, hwaits.of_ne_done t _ (by simp)⟩
        | some c' =>
          simp only [Contention.act, henter]
          exact ⟨t, hopen.enter henter⟩
      | unlock =>
        cases hunlock : c.lock.unlock t with
        | error e =>
          simp only [Contention.act, hunlock]
          exact ⟨t, calls, guards, hopen.of_ne_done t _ (by simp)⟩
        | ok lock =>
          obtain ⟨calls, hafter⟩ := hopen.unlock hunlock
          simp only [Contention.act, hunlock]
          exact ⟨t, calls, guards, hafter⟩
      | release =>
        have hguards : c.guards t = guards := by rw [hopen.guards_eq, if_pos rfl]
        cases guards with
        | zero =>
          simp only [Contention.act, hguards]
          exact ⟨t, calls, 0, hopen.of_ne_done t _ (by simp)⟩
        | succ guards =>
          simp only [Contention.act, hguards]
          exact ⟨t, calls, guards, hopen.release⟩
      | ask => exact ⟨t, calls, guards, hopen.of_ne_done t _ (by simp [Contention.act])⟩
    · -- Another thread has the lock, so that this one gets nothing done.
      have hact : (c.act t a).1 ≠ .done ∧ (c.act t a).2.lock = c.lock ∧
          (c.act t a).2.guards = c.guards := by
        cases a with
        | enter entry => simp [Contention.act, h.enter?_other htu hlevels]
        | unlock => simp [Contention.act, h.unlock_other htu]
        | release => simp [Contention.act, h.guards_eq, htu]
        | ask => simp [Contention.act]
      exact ⟨u, calls, guards, (h.congr hact.2.1 hact.2.2).of_ne_done t a hact.1⟩

end HeldBy

/-- At every moment all levels are those of one thread. -/
theorem Run.heldBy (h : Run past c) (t : τ) : ∃ u calls guards, HeldBy past c u calls guards := by
  induction h with
  | start => exact ⟨t, 0, 0, .start t⟩
  | next before taken ih =>
    obtain ⟨u, calls, guards, hheld⟩ := ih
    exact hheld.turn taken

theorem Run.eq_start [IsEmpty τ] (h : Run past c) : past = [] ∧ c = {} := by
  cases h with
  | start => exact ⟨rfl, rfl⟩
  | @next past s s' d before taken => exact isEmptyElim d.1

namespace HeldBy

theorem levelsBy_nonneg (h : HeldBy past c u calls guards) (t : τ) (entry : Entry) :
    0 ≤ levelsBy entry past t := by
  cases entry
  · rw [h.lockCall]
    split_ifs <;> omega
  · rw [h.guarded]
    split_ifs <;> omega

theorem levels_eq (h : HeldBy past c u calls guards) (t : τ) :
    levels past t = if t = u then (calls + guards : Int) else 0 := by
  rw [levels, h.lockCall, h.guarded]
  split_ifs <;> rfl

theorem levels_pos_iff (h : HeldBy past c u calls guards) (t : τ) :
    0 < levels past t ↔ t = u ∧ calls + guards ≠ 0 := by
  rw [h.levels_eq]
  by_cases htu : t = u
  · simp only [htu, if_true, true_and]
    omega
  · simp [htu]

theorem other_iff (h : HeldBy past c u calls guards) (t : τ) :
    (∃ v, v ≠ t ∧ 0 < levels past v) ↔ t ≠ u ∧ calls + guards ≠ 0 := by
  simp only [h.levels_pos_iff]
  constructor
  · rintro ⟨v, hvt, rfl, hlevels⟩
    exact ⟨hvt.symm, hlevels⟩
  · rintro ⟨htu, hlevels⟩
    exact ⟨u, htu.symm, rfl, hlevels⟩

theorem enter?_eq_none_iff (h : HeldBy past c u calls guards) (t : τ) (entry : Entry) :
    c.enter? t entry = none ↔ ∃ v, v ≠ t ∧ 0 < levels past v := by
  rw [h.other_iff]
  constructor
  · intro hnone
    rcases h.open_or_other t with ⟨calls, guards, hopen⟩ | hother
    · cases entry <;> simp [Contention.enter?, hopen.lock, ReentrantLock.enter?_of_self,
        ReentrantLock.lock?_of_self] at hnone
    · exact hother
  · rintro ⟨htu, hlevels⟩
    exact h.enter?_other htu hlevels entry

theorem isHeldBy_iff (h : HeldBy past c u calls guards) (t : τ) :
    c.lock.isHeldBy t = true ↔ 0 < levels past t := by
  rw [h.levels_pos_iff, h.lock, ReentrantLock.isHeldBy_of, decide_eq_true_eq]

end HeldBy

/-- What the answers of the past say about the lock, and about the answers that it gives next. -/
structure Accounts (past : List (LockDeed τ)) (c : Contention τ) : Prop where
  nonneg (t : τ) (entry : Entry) : 0 ≤ levelsBy entry past t
  unique (t u : τ) (ht : 0 < levels past t) (hu : 0 < levels past u) : t = u
  isLocked : c.lock.isLocked = true ↔ ∃ t, 0 < levels past t
  isHeldBy (t : τ) : c.lock.isHeldBy t = true ↔ 0 < levels past t
  depth_owner (t : τ) (ht : 0 < levels past t) : c.lock.depth = levelsBy .lockCall past t
  depth_free (h : ∀ t, levels past t = 0) : c.lock.depth = 0
  waits (t : τ) (entry : Entry) :
    (c.act t (.enter entry)).1 = .waits ↔ ∃ u, u ≠ t ∧ 0 < levels past u
  enters (t : τ) (entry : Entry) :
    (c.act t (.enter entry)).1 = .done ↔ ¬∃ u, u ≠ t ∧ 0 < levels past u
  letIn (t : τ) (entry : Entry) (hwaits : (t, entry) ∈ c.waiting) :
    (∃ c', Turn c (t, .enter entry, .done) c') ↔ ¬∃ u, u ≠ t ∧ 0 < levels past u
  unlock_done (t : τ) : (c.act t .unlock).1 = .done ↔ 0 < levelsBy .lockCall past t
  unlock_unbalanced (t : τ) : (c.act t .unlock).1 = .refused .unbalanced ↔
    levelsBy .lockCall past t = 0 ∧ 0 < levelsBy .guarded past t
  unlock_notOwner (t : τ) : (c.act t .unlock).1 = .refused .notOwner ↔
    levelsBy .lockCall past t = 0 ∧ levelsBy .guarded past t = 0
  unlock_refused (t : τ) (h : (c.act t .unlock).1 ≠ .done) : (c.act t .unlock).2 = c
  release (t : τ) : (c.act t .release).1 = .done ↔ 0 < levelsBy .guarded past t
  /-- No unlock call takes the level of a guard. -/
  guarded (t u : τ) (ht : 0 < levelsBy .guarded past t) :
    (c.act u .unlock).2.lock.isHeldBy t = true

theorem act_enter_fst (t : τ) (entry : Entry) : (c.act t (.enter entry)).1 =
    if c.enter? t entry = none then .waits else .done := by
  cases henter : c.enter? t entry <;> simp [act, henter]

namespace HeldBy

theorem act_unlock_fst (h : HeldBy past c u calls guards) (t : τ) : (c.act t .unlock).1 =
    if 0 < levelsBy .lockCall past t then .done
    else .refused (if 0 < levelsBy .guarded past t then .unbalanced else .notOwner) := by
  rcases h.open_or_other t with ⟨calls, guards, hopen⟩ | ⟨htu, -⟩
  · simp only [hopen.lockCall, hopen.guarded, if_true, Contention.act, hopen.unlock_eq]
    match calls, guards with
    | 0, 0 => rfl
    | 0, guards + 1 => simp
    | calls + 1, guards => simp
  · simp [Contention.act, h.unlock_other htu, h.lockCall, h.guarded, htu]

theorem act_release_fst (h : HeldBy past c u calls guards) (t : τ) :
    (c.act t .release).1 = .done ↔ 0 < levelsBy .guarded past t := by
  have hguards : levelsBy .guarded past t = c.guards t := by
    rw [h.guarded, h.guards_eq]
    split_ifs <;> rfl
  rw [hguards]
  cases hcount : c.guards t <;> simp [Contention.act, hcount]

/-- No unlock call takes the level of a guard. -/
theorem isHeldBy_unlock (h : HeldBy past c u calls guards) (t v : τ)
    (ht : 0 < levelsBy .guarded past t) : (c.act v .unlock).2.lock.isHeldBy t = true := by
  obtain ⟨rfl, hguards⟩ : t = u ∧ guards ≠ 0 := by
    rw [h.guarded] at ht
    split_ifs at ht with htu
    · exact ⟨htu, by omega⟩
    · omega
  cases hunlock : c.lock.unlock v with
  | error e =>
    simp only [Contention.act, hunlock]
    rw [h.isHeldBy_iff, h.levels_pos_iff]
    exact ⟨rfl, by omega⟩
  | ok lock =>
    obtain rfl : v = t := by
      by_contra hvt
      rw [h.unlock_other hvt] at hunlock
      cases hunlock
    obtain ⟨calls, hafter⟩ := h.unlock hunlock
    simp only [Contention.act, hunlock]
    rw [hafter.isHeldBy_iff, hafter.levels_pos_iff]
    exact ⟨rfl, by omega⟩

theorem letIn_iff (h : HeldBy past c u calls guards) (t : τ) (entry : Entry)
    (hwaits : (t, entry) ∈ c.waiting) :
    (∃ c', Turn c (t, .enter entry, .done) c') ↔ ¬∃ u, u ≠ t ∧ 0 < levels past u := by
  have hsame : HeldBy past { c with waiting := c.waiting.erase (t, entry) } u calls guards :=
    h.congr rfl rfl
  rw [← hsame.enter?_eq_none_iff t entry, ← ne_eq, Option.ne_none_iff_exists']
  constructor
  · rintro ⟨c', hturn⟩
    generalize hdeed : (t, LockAction.enter entry, LockAnswer.done) = d at hturn
    cases hturn with
    | act t' a ready =>
      simp only [Prod.mk.injEq] at hdeed
      obtain ⟨rfl, rfl, -⟩ := hdeed
      exact absurd hwaits (ready entry)
    | letIn t' entry' waits enters =>
      cases hdeed
      exact ⟨c', enters⟩
  · rintro ⟨c', henter⟩
    exact ⟨c', .letIn t entry hwaits henter⟩

theorem toAccounts (h : HeldBy past c u calls guards) : Accounts past c where
  nonneg := h.levelsBy_nonneg
  unique t v ht hv := by
    rw [h.levels_pos_iff] at ht hv
    exact ht.1.trans hv.1.symm
  isLocked := by
    simp only [h.levels_pos_iff, h.lock, exists_eq_left]
    simp [ReentrantLock.of, ReentrantLock.isLocked]
  isHeldBy := h.isHeldBy_iff
  depth_owner t ht := by
    rw [h.levels_pos_iff] at ht
    rw [h.lockCall, if_pos ht.1, h.lock]
    rfl
  depth_free hfree := by
    have hlevels := hfree u
    rw [h.levels_eq, if_pos rfl] at hlevels
    rw [h.lock]
    change calls = 0
    omega
  waits t entry := by
    rw [act_enter_fst, ← h.enter?_eq_none_iff t entry]
    split_ifs with hnone <;> simp [hnone]
  enters t entry := by
    rw [act_enter_fst, ← h.enter?_eq_none_iff t entry]
    split_ifs with hnone <;> simp [hnone]
  letIn := h.letIn_iff
  unlock_done t := by
    rw [h.act_unlock_fst]
    split_ifs with hcalls <;> simp [hcalls]
  unlock_unbalanced t := by
    have hcalls := h.levelsBy_nonneg t .lockCall
    rw [h.act_unlock_fst]
    split_ifs <;> simp <;> omega
  unlock_notOwner t := by
    have hcalls := h.levelsBy_nonneg t .lockCall
    have hguards := h.levelsBy_nonneg t .guarded
    rw [h.act_unlock_fst]
    split_ifs <;> simp <;> omega
  unlock_refused t hrefused := by
    cases hunlock : c.lock.unlock t <;> simp_all [Contention.act]
  release := h.act_release_fst
  guarded t v ht := h.isHeldBy_unlock t v ht

end HeldBy

/-- The lock goes by what the threads did: each lock call and each guard counts for its thread, in
whatever order they are taken and given back. -/
theorem Run.accounts (h : Run past c) : Accounts past c := by
  rcases isEmpty_or_nonempty τ with hnone | ⟨⟨t⟩⟩
  · obtain ⟨rfl, rfl⟩ := h.eq_start
    constructor
    case isLocked => simp [ReentrantLock.isLocked]
    case depth_free => exact fun _ => rfl
    all_goals exact isEmptyElim
  · obtain ⟨u, calls, guards, hheld⟩ := h.heldBy t
    exact hheld.toAccounts

/-- A thread has a guard and took a level by a lock call, another one waits, and the first gave the
level of its lock call back. -/
theorem accounts_of_guard_under_wait :
    Accounts [(true, .unlock, .done), (false, .enter .lockCall, .waits),
        (true, .enter .lockCall, .done), (true, .enter .guarded, .done)]
      ((((({} : Contention Bool).act true (.enter .guarded)).2.act true (.enter .lockCall)).2.act
        false (.enter .lockCall)).2.act true .unlock).2 :=
  Run.accounts <| .next
    (.next
      (.next (.next .start (.act true (.enter .guarded) fun _ => List.not_mem_nil))
        (.act true (.enter .lockCall) fun _ => List.not_mem_nil))
      (.act false (.enter .lockCall) fun _ => List.not_mem_nil))
    (.act true .unlock fun entry => by cases entry <;> decide)

/-- A thread that acts, with the first waiting thread let in after it, takes part in a run. -/
theorem Run.step (h : Run past c) {t : τ} (ready : ∀ entry, (t, entry) ∉ c.waiting)
    (a : LockAction) : ∃ later, Run (later ++ past) (c.step t a).2.2 := by
  have hacted : Run ((t, a, (c.act t a).1) :: past) (c.act t a).2 := h.next (.act t a ready)
  simp only [Contention.step, Contention.letIn]
  split
  next => exact ⟨[_], hacted⟩
  next v entry rest hwaiting =>
    split
    next c' henter =>
      refine ⟨[(v, .enter entry, .done), _], hacted.next (.letIn v entry ?_ ?_)⟩
      · rw [hwaiting]
        exact List.mem_cons_self
      · rw [hwaiting, List.erase_cons_head]
        exact henter
    next => exact ⟨[_], hacted⟩

end Contention

end IdentityVault
