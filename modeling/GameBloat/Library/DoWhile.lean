import Mathlib.Logic.Function.Iterate

/-!
# Loops that test at the end

`DoWhile body again s n s'`: the loop `do s := body s while again s`, started in `s`, ends after
`n` rounds, in `s'`.  That there are such an `n` and `s'` is termination.

* `doWhile_iterate`: the loop ends in the first round after which `again` does not hold.
* `DoWhile.result`: a function that satisfies the loop's equation computes its result.

The relation is the meaning of the loop in a language in which it may run for ever.  A function in
Lean that models the loop must end on every input, so it has a bound of some kind; with this
relation one can state that the bound is never reached, or that on the inputs of a certain kind it
would have been, without putting the bound into the statement.
-/

set_option autoImplicit false

variable {σ : Type*}

/-- `do s := body s while again s`, started in `s`, ends after `n` rounds in `s'`.  The body runs
at least once. -/
inductive DoWhile (body : σ → σ) (again : σ → Prop) : σ → ℕ → σ → Prop
  | last {s : σ} (h : ¬again (body s)) : DoWhile body again s 1 (body s)
  | round {s s' : σ} {n : ℕ} (h : again (body s)) (hrest : DoWhile body again (body s) n s') :
      DoWhile body again s (n + 1) s'

variable {body : σ → σ} {again : σ → Prop}

/-- The loop ends in the first round after which `again` does not hold. -/
theorem doWhile_iterate (n : ℕ) {s : σ} (hbefore : ∀ k < n, again (body^[k + 1] s))
    (hlast : ¬again (body^[n + 1] s)) : DoWhile body again s (n + 1) (body^[n + 1] s) := by
  induction n generalizing s with
  | zero => exact .last hlast
  | succ n ih =>
    exact .round (hbefore 0 n.succ_pos) (ih (fun k hk ↦ hbefore (k + 1) (by omega)) hlast)

/-- A function that satisfies the loop's equation computes its result. -/
theorem DoWhile.result {f : σ → σ} [DecidablePred again]
    (hf : ∀ s, f s = if again (body s) then f (body s) else body s) {s s' : σ} {n : ℕ}
    (h : DoWhile body again s n s') : f s = s' := by
  induction h with
  | last h => rw [hf, if_neg h]
  | round h _ ih => rw [hf, if_pos h, ih]
