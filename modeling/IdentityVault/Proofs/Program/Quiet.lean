import IdentityVault.Proofs.Program.Steps

/-! Programs that look at the disk and the environment and change nothing. They log, ask and
complain, and print nothing. -/
namespace IdentityVault

/-- Whatever is not printed for the user to keep. -/
def Emission.Quiet : Emission → Prop
  | .standardOutput _ => False
  | .event _ | .passwordRequested | .standardError _ => True

def Call.Quiet {β : Type} : Call β → Prop
  | .read _ | .exist _ | .variable _ => True
  | .emit e => e.Quiet
  | .change _ | .random _ | .ask _ | .clock => False

/-- Nothing that matters to a later command happened between two moments. -/
structure World.Kept (w w' : World) : Prop where
  disk : w'.disk = w.disk
  environment : w'.environment = w.environment
  standardOutput : w'.standardOutput = w.standardOutput

namespace World.Kept

variable {w w' w'' : World}

theorem refl (w : World) : w.Kept w := ⟨rfl, rfl, rfl⟩

theorem trans (h : w.Kept w') (h' : w'.Kept w'') : w.Kept w'' where
  disk := h'.disk.trans h.disk
  environment := h'.environment.trans h.environment
  standardOutput := h'.standardOutput.trans h.standardOutput

end World.Kept

namespace Call.Quiet

variable {β : Type} {c : Call β}

theorem kept (h : c.Quiet) (w : World) : w.Kept (w.answer c).2 := by
  cases c with
  | read | exist | «variable» => exact .refl w
  | emit e =>
    refine ⟨rfl, rfl, ?_⟩
    cases e with
    | standardOutput line => exact absurd h id
    | event | passwordRequested | standardError => simp [World.answer, World.standardOutput]
  | change | random | ask | clock => exact absurd h id

theorem answer_congr (h : c.Quiet) {w w' : World} (hkept : w.Kept w') :
    (w'.answer c).1 = (w.answer c).1 := by
  cases c with
  | read p => exact congrArg (fun disk => disk.contentAt p) hkept.disk
  | exist p => exact congrArg (fun disk => disk.exist p) hkept.disk
  | «variable» name => exact congrArg (List.lookup name) hkept.environment
  | emit e => rfl
  | change | random | ask | clock => exact absurd h id

end Call.Quiet

namespace Program

variable {α β σ : Type}

inductive Quiet : Program α → Prop where
  | done (a : α) : Quiet (.done a)
  | call {β : Type} {c : Call β} {next : β → Program α} (quiet : c.Quiet)
      (rest : ∀ reply, Quiet (next reply)) : Quiet (.call c next)

namespace Quiet

theorem perform {c : Call β} (h : c.Quiet) : (Program.perform c).Quiet := .call h .done

theorem log (e : LogEvent) : (Program.log e).Quiet := perform (c := .emit (.event e)) trivial

theorem complain (line : String) : (Program.complain line).Quiet :=
  perform (c := .emit (.standardError line)) trivial

theorem bind {p : Program α} {f : α → Program β} (hp : p.Quiet) (hf : ∀ a, (f a).Quiet) :
    (p.bind f).Quiet := by
  induction hp with
  | done a => exact hf a
  | call quiet rest ih => exact .call quiet ih

theorem logAll (events : List LogEvent) : (Program.logAll events).Quiet := by
  induction events with
  | nil => exact .done ()
  | cons e rest ih => exact .bind (.log e) fun _ => ih

/-- A program whose emissions go to a handler that is quiet itself. -/
theorem withEmissions {p : Program α} (hp : p.Quiet) {handler : Emission → σ → Program σ}
    (hhandler : ∀ e, e.Quiet → ∀ s, (handler e s).Quiet) (s : σ) :
    (p.withEmissions handler s).Quiet := by
  induction hp generalizing s with
  | done a => exact .done _
  | @call β c next quiet rest ih =>
    cases c with
    | emit e => exact .bind (hhandler e quiet s) fun s => ih () s
    | read | exist | «variable» => exact .call trivial fun reply => ih reply s
    | change | random | ask | clock => exact absurd quiet id

theorem kept {p : Program α} (h : p.Quiet) (w : World) : w.Kept (p.run w).2 := by
  induction h generalizing w with
  | done a => exact .refl w
  | call quiet rest ih => exact (quiet.kept w).trans (ih _ _)

theorem readsOnly {p : Program α} (h : p.Quiet) : p.ReadsOnly := by
  induction h with
  | done a => exact .done a
  | call quiet rest ih => exact .call (fun w => (quiet.kept w).disk) ih

/-- What a quiet program returns depends on nothing that another one changes. -/
theorem run_congr {p : Program α} (h : p.Quiet) {w w' : World} (hkept : w.Kept w') :
    (p.run w').1 = (p.run w).1 := by
  induction h generalizing w w' with
  | done a => rfl
  | @call β c next quiet rest ih =>
    rw [run_call, run_call, quiet.answer_congr hkept]
    have hafter : (w.answer c).2.Kept (w'.answer c).2 := by
      have hbefore := quiet.kept w
      have hother := quiet.kept w'
      refine ⟨?_, ?_, ?_⟩
      · rw [hother.disk, hkept.disk, hbefore.disk]
      · rw [hother.environment, hkept.environment, hbefore.environment]
      · rw [hother.standardOutput, hkept.standardOutput, hbefore.standardOutput]
    exact ih _ hafter

end Quiet

theorem standardOutput_run_print (line : String) (w : World) :
    ((Program.print line).run w).2.standardOutput = w.standardOutput ++ [line] := by
  simp [Program.print, Program.perform, World.answer, World.standardOutput]

end Program

end IdentityVault
