import IdentityVault.Logging.Sink
import IdentityVault.Program.World

/-! What a program gives out in a run, and what a handler makes of it. The replies of the
surroundings do not depend on what was given out. -/
namespace IdentityVault

/-- Whatever is not an event of the log. -/
def Call.Unlogged {β : Type} : Call β → Prop
  | .emit (.event _) => False
  | _ => True

namespace Program

variable {α β σ : Type}

/-- All that a run gives out, in order. -/
def emissions : Program α → World → List Emission
  | .done _, _ => []
  | .call (.emit e) next, w => e :: (next ()).emissions (w.answer (.emit e)).2
  | .call c next, w => (next (w.answer c).1).emissions (w.answer c).2

theorem emitted_run (p : Program α) (w : World) :
    (p.run w).2.emitted = w.emitted ++ p.emissions w := by
  induction p generalizing w with
  | done a => exact (List.append_nil _).symm
  | call c next ih =>
    rw [run_call, ih]
    cases c with
    | emit e => exact List.append_assoc w.emitted [e] _
    | ask question =>
      obtain ⟨disk, environment, _ | lines, shown, entropy, time, emitted⟩ := w <;> rfl
    | _ => rfl

/-- A handler that takes its state from `f` and only gives out is given what the program would
give out by itself. -/
theorem run_withEmissions {handler : Emission → σ → Program σ} {f : σ → Emission → σ}
    (hhandler : ∀ e s w, ∃ emitted, (handler e s).run w = (f s e, { w with emitted := emitted }))
    (p : Program α) (s : σ) (w : World) (before : List Emission) :
    ∃ after, (p.withEmissions handler s).run { w with emitted := before } =
      (((p.run w).1, (p.emissions w).foldl f s), { (p.run w).2 with emitted := after }) := by
  induction p generalizing s w before with
  | done a => exact ⟨before, rfl⟩
  | call c next ih =>
    cases c with
    | emit e =>
      obtain ⟨emitted, hrun⟩ := hhandler e s { w with emitted := before }
      simp only [withEmissions, run_bind, hrun]
      exact ih () (f s e) (w.answer (.emit e)).2 emitted
    | ask question =>
      obtain ⟨disk, environment, _ | lines, shown, entropy, time, emitted⟩ := w
      · exact ih _ s ⟨disk, environment, none, shown, entropy, time, emitted⟩ before
      · exact ih _ s ⟨disk, environment, lines.tail, shown ++ question ++ "\n", entropy, time,
          emitted⟩ before
    | change change => exact ih _ s (w.answer (.change change)).2 before
    | random count => exact ih _ s (w.answer (.random count)).2 before
    | _ => exact ih _ s w before

/-- A program that logs nothing. -/
inductive Unlogged : Program α → Prop where
  | done (a : α) : Unlogged (.done a)
  | call {β : Type} {c : Call β} {next : β → Program α} (unlogged : c.Unlogged)
      (rest : ∀ reply, Unlogged (next reply)) : Unlogged (.call c next)

theorem Unlogged.bind {p : Program α} {f : α → Program β} (hp : p.Unlogged)
    (hf : ∀ a, (f a).Unlogged) : (p.bind f).Unlogged := by
  induction hp with
  | done a => exact hf a
  | call unlogged rest ih => exact .call unlogged ih

/-- A log has nothing to do with a program that logs nothing. -/
theorem Unlogged.install_eq {p : Program α} (h : p.Unlogged) (sink : LogSink) :
    sink.install p = p := by
  unfold LogSink.install
  rw [bind_eq]
  induction h with
  | done a => rfl
  | @call β c next unlogged rest ih =>
    cases c with
    | emit e =>
      cases e with
      | event => exact absurd unlogged id
      | _ => exact congrArg (Program.call _) (funext ih)
    | _ => exact congrArg (Program.call _) (funext ih)

end Program

end IdentityVault
