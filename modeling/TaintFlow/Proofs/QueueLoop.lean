/-!
# Loops that work off a queue

The search from a source hit and the pass that admits modules are loops of one kind: as long as
something waits in a queue, take a step. `Drains` says that such a loop ends, after how many steps and
in which state. Nothing bounds the steps there.

* A loop ends if a measure of its state drops with every step (`exists_drains`).
* Counting steps down from a bound that is not too small does not cut the loop short
  (`Drains.run_eq`).
-/

namespace TaintFlow

variable {σ α : Type}

/-- A loop ends after a number of steps: `Drains step queue n x y` if it goes from `x` to `y`, the queue
is empty there, and it was not before. -/
inductive Drains (step : σ → σ) (queue : σ → List α) : Nat → σ → σ → Prop where
  | done {x : σ} (h : queue x = []) : Drains step queue 0 x x
  | step {n : Nat} {x y : σ} (h : queue x ≠ []) (hrest : Drains step queue n (step x) y) :
      Drains step queue (n + 1) x y

section Loop

variable {step : σ → σ} {queue : σ → List α}

/-- **A loop ends if every step lowers a measure**, on the states that it can be in. -/
theorem exists_drains {P : σ → Prop} {measure : σ → Nat}
    (hstep : ∀ x, P x → queue x ≠ [] → P (step x) ∧ measure (step x) < measure x) {x : σ}
    (hx : P x) : ∃ n ≤ measure x, ∃ y, Drains step queue n x y := by
  induction hm : measure x using Nat.strongRecOn generalizing x with
  | ind m ih =>
    by_cases hq : queue x = []
    · exact ⟨0, Nat.zero_le m, x, .done hq⟩
    · obtain ⟨hnext, hlt⟩ := hstep x hx hq
      obtain ⟨n, hn, y, hy⟩ := ih (measure (step x)) (hm ▸ hlt) hnext rfl
      exact ⟨n + 1, by omega, y, .step hq hy⟩

namespace Drains

variable {n : Nat} {x y : σ}

theorem queue_eq_nil (h : Drains step queue n x y) : queue y = [] := by
  induction h with
  | done h => exact h
  | step _ _ ih => exact ih

/-- **A bound that is large enough does not show.** -/
theorem run_eq (run : Nat → σ → σ) (hzero : ∀ x, run 0 x = x)
    (hsucc : ∀ m x, run (m + 1) x = if (queue x).isEmpty then x else run m (step x))
    (h : Drains step queue n x y) {m : Nat} (hm : n ≤ m) : run m x = y := by
  induction h generalizing m with
  | done h =>
    cases m with
    | zero => exact hzero _
    | succ m => rw [hsucc, h, List.isEmpty_nil, if_pos rfl]
  | step h _ ih =>
    cases m with
    | zero => exact absurd hm (Nat.not_succ_le_zero _)
    | succ m =>
      rw [hsucc, if_neg fun hempty => h (List.isEmpty_iff.mp hempty)]
      exact ih (Nat.le_of_succ_le_succ hm)

end Drains

end Loop

end TaintFlow
