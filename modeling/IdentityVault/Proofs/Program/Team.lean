import IdentityVault.Proofs.Program.Steps
import Mathlib.Logic.Function.Basic

/-! Programs that share one world and take their steps in any order. -/
namespace IdentityVault

/-- What the next step draws from the generator, if it draws. -/
def Program.draw {α : Type} : Program α → World → List Bytes
  | .call (.random count) _, w => [(w.answer (.random count)).1]
  | _, _ => []

/-- What a program returned, if it has returned. -/
def Program.result? {α : Type} : Program α → Option α
  | .done a => some a
  | .call _ _ => none

theorem Program.eq_done_of_result? {α : Type} {p : Program α} {a : α} (h : p.result? = some a) :
    p = .done a := by
  cases p with
  | done b =>
    cases h
    rfl
  | call c next => cases h

/-- Programs in one world, with what each of them has drawn so far. -/
structure Team (ι α : Type) where
  programs : ι → Program α
  drawn : ι → List Bytes
  world : World

namespace Team

variable {ι α : Type} [DecidableEq ι]

def start (programs : ι → Program α) (w : World) : Team ι α := ⟨programs, fun _ => [], w⟩

/-- One of the programs takes a step. -/
def step (t : Team ι α) (i : ι) : Team ι α where
  programs := Function.update t.programs i ((t.programs i).step t.world).1
  drawn := Function.update t.drawn i (t.drawn i ++ (t.programs i).draw t.world)
  world := ((t.programs i).step t.world).2

/-- The steps that a schedule lists. -/
def run (t : Team ι α) (schedule : List ι) : Team ι α := schedule.foldl step t

theorem run_induction {I : Team ι α → Prop} (hstep : ∀ t i, I t → I (t.step i)) {t : Team ι α}
    (h : I t) (schedule : List ι) : I (t.run schedule) := by
  induction schedule generalizing t with
  | nil => exact h
  | cons i schedule ih => exact ih (hstep t i h)

end Team

end IdentityVault
