/-! Runs of a machine that takes one step after another, with the deeds that make up each run. -/
namespace IdentityVault

/-- What was done, the latest in front, and the state that it led to. -/
inductive History {σ δ : Type} (step : σ → δ → σ → Prop) (start : σ) : List δ → σ → Prop where
  | start : History step start [] start
  | next {past : List δ} {s s' : σ} {d : δ} (before : History step start past s)
      (taken : step s d s') : History step start (d :: past) s'

namespace History

variable {σ δ : Type} {step : σ → δ → σ → Prop} {s s' s'' : σ} {past later : List δ}

theorem trans (h : History step s past s') (h' : History step s' later s'') :
    History step s (later ++ past) s'' := by
  induction h' with
  | start => exact h
  | next _ taken ih => exact .next ih taken

/-- A goal is reached when from everywhere else a step that keeps the invariant comes nearer. -/
theorem reaches {I : List δ → σ → Prop} {goal : σ → Prop} (distance : σ → Nat)
    (nearer : ∀ past s, I past s →
      goal s ∨ ∃ d s', step s d s' ∧ I (d :: past) s' ∧ distance s' < distance s)
    (past : List δ) (h : I past s) :
    ∃ later s', History step s later s' ∧ I (later ++ past) s' ∧ goal s' := by
  induction hn : distance s using Nat.strongRecOn generalizing past s with
  | ind n ih =>
    obtain hgoal | ⟨d, s', taken, hkept, hnearer⟩ := nearer past s h
    · exact ⟨[], s, .start, h, hgoal⟩
    · obtain ⟨later, s'', hlater, hreached, hgoal⟩ := ih _ (hn ▸ hnearer) (d :: past) hkept rfl
      refine ⟨later ++ [d], s'', (next .start taken).trans hlater, ?_, hgoal⟩
      rwa [List.append_assoc, List.singleton_append]

end History

end IdentityVault
