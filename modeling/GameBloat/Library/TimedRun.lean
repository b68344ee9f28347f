import Mathlib.Algebra.Ring.Int.Defs

/-!
# Timed runs

A deterministic machine whose steps cost time.  `TimedMachine.Reaches stop s s' k t` says that `k`
steps lead from `s` to `s'` at a total cost of `t`, and that none of the states before `s'` is one
where `stop` holds: the run gets there for the first time.  Its rules are those of straight-line
code and of a loop:

* `Reaches.single`, `Reaches.trans`: one step, and one run after another.
* `Reaches.loop`: a body that always takes `k` steps at a cost of `t`, `n` times.

The loop rule is one for total correctness.  Its invariant has the number of rounds that are left
as an argument, so that termination and the exact cost come out of the same induction; where the
number of rounds is not known beforehand, it is the proof of the invariant at the start that has
to find it.

That `stop` does not hold before the end is carried along because "the routine is over after so
many steps" means that it is not over earlier.  A run in which the stopping state is passed and
left again would satisfy the other two fields.
-/

set_option autoImplicit false

/-- A deterministic machine and what its steps cost.  The cost of a step depends on the state
before it. -/
structure TimedMachine (σ : Type*) where
  step : σ → σ
  cost : σ → ℤ

namespace TimedMachine

variable {σ : Type*} (M : TimedMachine σ)

/-- The state after a number of steps. -/
def run : ℕ → σ → σ
  | 0, s => s
  | k + 1, s => run k (M.step s)

/-- The total cost of a number of steps. -/
def total : ℕ → σ → ℤ
  | 0, _ => 0
  | k + 1, s => M.cost s + total k (M.step s)

variable {M}

theorem run_add (k k' : ℕ) (s : σ) : M.run (k + k') s = M.run k' (M.run k s) := by
  induction k generalizing s with
  | zero => rw [Nat.zero_add, run]
  | succ k ih => rw [Nat.succ_add, run, run, ih]

theorem total_add (k k' : ℕ) (s : σ) :
    M.total (k + k') s = M.total k s + M.total k' (M.run k s) := by
  induction k generalizing s with
  | zero => rw [Nat.zero_add, total, run, Int.zero_add]
  | succ k ih => rw [Nat.succ_add, total, total, run, ih, Int.add_assoc]

/-- `k` steps lead from `s` to `s'` and cost `t`; before the last, `stop` does not hold. -/
structure Reaches (M : TimedMachine σ) (stop : σ → Prop) (s s' : σ) (k : ℕ) (t : ℤ) : Prop where
  run : M.run k s = s'
  total : M.total k s = t
  before : ∀ j < k, ¬stop (M.run j s)

namespace Reaches

variable {stop : σ → Prop} {s s' s'' : σ} {k k' : ℕ} {t t' : ℤ}

theorem refl (s : σ) : M.Reaches stop s s 0 0 :=
  ⟨rfl, rfl, fun _ h ↦ absurd h (Nat.not_lt_zero _)⟩

theorem single (hstop : ¬stop s) (hstep : M.step s = s') (hcost : M.cost s = t) :
    M.Reaches stop s s' 1 t := by
  refine ⟨hstep, (Int.add_zero _).trans hcost, fun j hj ↦ ?_⟩
  obtain rfl : j = 0 := by omega
  exact hstop

theorem trans (h : M.Reaches stop s s' k t) (h' : M.Reaches stop s' s'' k' t') :
    M.Reaches stop s s'' (k + k') (t + t') := by
  refine ⟨?_, ?_, fun j hj ↦ ?_⟩
  · rw [run_add, h.run, h'.run]
  · rw [total_add, h.total, h.run, h'.total]
  · rcases Nat.lt_or_ge j k with hjk | hjk
    · exact h.before j hjk
    · obtain ⟨i, rfl⟩ := Nat.exists_eq_add_of_le hjk
      rw [run_add, h.run]
      exact h'.before i (by omega)

/-- **A loop.**  The invariant counts the rounds that are left; each round takes `k` steps and
costs `t`. -/
theorem loop {I : ℕ → σ → Prop}
    (hbody : ∀ n s, I (n + 1) s → ∃ s', M.Reaches stop s s' k t ∧ I n s') (n : ℕ) {s : σ}
    (hs : I n s) : ∃ s', M.Reaches stop s s' (n * k) (n * t) ∧ I 0 s' := by
  induction n generalizing s with
  | zero =>
    refine ⟨s, ?_, hs⟩
    rw [Nat.zero_mul, Nat.cast_zero, Int.zero_mul]
    exact refl s
  | succ n ih =>
    obtain ⟨s', hround, hs'⟩ := hbody n s hs
    obtain ⟨s'', hrest, hs''⟩ := ih hs'
    refine ⟨s'', ?_, hs''⟩
    have h := hround.trans hrest
    rw [Nat.succ_mul, Nat.add_comm (n * k), Nat.cast_succ, Int.add_mul, Int.one_mul, Int.add_comm]
    exact h

end Reaches

end TimedMachine
