import IdentityVault.Program.World

/-! Programs call by call: one step of a program, runs that are cut off, and runs on a disk that
others change. -/
namespace IdentityVault.Program

variable {α β : Type}

/-- The next call of a program, with its reply. A program that has returned stays. -/
def step : Program α → World → Program α × World
  | .done a, w => (.done a, w)
  | .call c next, w => (next (w.answer c).1, (w.answer c).2)

@[simp] theorem step_done (a : α) (w : World) : (done a).step w = (done a, w) := rfl

@[simp] theorem step_call (c : Call β) (next : β → Program α) (w : World) :
    (call c next).step w = (next (w.answer c).1, (w.answer c).2) := rfl

/-- What every step preserves holds when the program has returned. -/
theorem run_induction {I : Program α → World → Prop}
    (hstep : ∀ p w, I p w → I (p.step w).1 (p.step w).2) {p : Program α} {w : World}
    (h : I p w) : I (.done (p.run w).1) (p.run w).2 := by
  induction p generalizing w with
  | done a => exact h
  | call c next ih => exact ih _ (hstep _ _ h)

/-- The change of the disk that took effect at a call, if there was one. -/
def effect : Call β → β → Option DiskChange
  | .change c, .ok () => some c
  | _, _ => none

/-- A step of a program as seen from the disk: the change that took effect, and the disk then. -/
structure Moment where
  effect : Option DiskChange
  disk : FileSystem

/-- What is seen of the next step. -/
def moment : Program α → World → Moment
  | .done _, w => ⟨none, w.disk⟩
  | .call c _, w => ⟨effect c (w.answer c).1, (w.answer c).2.disk⟩

/-- The change of the disk that the next step asks for. -/
def nextChange : Program α → Option DiskChange
  | .call (.change c) _ => some c
  | _ => none

/-- A run that may be cut off after any step, with the moments after its steps. A file that is
being written when the run is cut off may be left with a part of its content. -/
inductive CutOff : Program α → World → List Moment → World → Prop where
  | stop (p : Program α) (w : World) : CutOff p w [] w
  | call {β : Type} (c : Call β) (next : β → Program α) {w w' : World} {moments : List Moment}
      (rest : CutOff (next (w.answer c).1) (w.answer c).2 moments w') :
      CutOff (.call c next) w ((call c next).moment w :: moments) w'
  | torn {content part : Bytes} (p : Path) (next : Except OsError Unit → Program α) (w : World)
      (h : part <+: content) :
      CutOff (.call (.change (.write p content)) next) w
        [⟨none, (w.answer (.change (.write p part))).2.disk⟩]
        (w.answer (.change (.write p part))).2

/-- What is seen of a whole run. -/
def moments : Program α → World → List Moment
  | .done _, _ => []
  | .call c next, w => (call c next).moment w :: (next (w.answer c).1).moments (w.answer c).2

theorem CutOff.whole (p : Program α) (w : World) : CutOff p w (p.moments w) (p.run w).2 := by
  induction p generalizing w with
  | done a => exact .stop _ _
  | call c next ih => exact .call c next (ih _ _)

/-- The run of a program that does not change the disk, on a disk that others change: call number
`n` finds the disk `disks n`. -/
def runAmid (disks : Nat → FileSystem) : Nat → Program α → World → α × World
  | _, .done a, w => (a, w)
  | n, .call c next, w =>
      let w := { w with disk := disks n }
      (next (w.answer c).1).runAmid disks (n + 1) (w.answer c).2

/-- A program that leaves the disk alone, whatever the replies are. -/
inductive ReadsOnly : Program α → Prop where
  | done (a : α) : ReadsOnly (.done a)
  | call {β : Type} {c : Call β} {next : β → Program α}
      (keeps : ∀ w : World, (w.answer c).2.disk = w.disk) (rest : ∀ reply, ReadsOnly (next reply)) :
      ReadsOnly (.call c next)

namespace ReadsOnly

/-- Where the disk stands still, so does the run. -/
theorem run_eq_runAmid {p : Program α} (h : p.ReadsOnly) (w : World) (n : Nat) :
    p.run w = p.runAmid (fun _ => w.disk) n w := by
  induction h generalizing w n with
  | done a => rfl
  | @call β c next keeps rest ih =>
    have hrest := ih (w.answer c).1 (w.answer c).2 (n + 1)
    rw [keeps] at hrest
    exact hrest

end ReadsOnly

theorem run_map (f : α → β) (p : Program α) (w : World) :
    (f <$> p).run w = Prod.map f id (p.run w) := run_bind p _ w

theorem runAmid_map (f : α → β) (p : Program α) (disks : Nat → FileSystem) (n : Nat) (w : World) :
    (f <$> p).runAmid disks n w = Prod.map f id (p.runAmid disks n w) := by
  induction p generalizing n w with
  | done a => rfl
  | call c next ih => exact ih _ _ _

/-- What a program returns has this property, whatever the replies are. -/
inductive Returns (P : α → Prop) : Program α → Prop where
  | done {a : α} (h : P a) : Returns P (.done a)
  | call {β : Type} {c : Call β} {next : β → Program α} (rest : ∀ reply, Returns P (next reply)) :
      Returns P (.call c next)

namespace Returns

variable {P : α → Prop} {p : Program α}

/-- Nothing is known of what the first part returns. -/
theorem bind (p : Program β) {f : β → Program α} (hf : ∀ b, (f b).Returns P) :
    (p.bind f).Returns P := by
  induction p with
  | done b => exact hf b
  | call c next ih => exact .call ih

theorem run (h : p.Returns P) (w : World) : P (p.run w).1 := by
  induction h generalizing w with
  | done h => exact h
  | call _ ih => exact ih _ _

theorem runAmid (h : p.Returns P) (disks : Nat → FileSystem) (n : Nat) (w : World) :
    P (p.runAmid disks n w).1 := by
  induction h generalizing n w with
  | done h => exact h
  | call _ ih => exact ih _ _ _

end Returns

end IdentityVault.Program
