import Mathlib.Algebra.BigOperators.Group.List.Basic
import Mathlib.Data.Nat.Find
import Mathlib.Data.Nat.ModEq
import Mathlib.Logic.Function.Iterate

/-!
# Clocks that carry over

A state machine driven by a clock: each state lasts for a while, and when the clock has reached
the end of the state, the machine turns to the next one and the clock carries the rest over.  One
step makes at most one turn, whatever the number of ticks.

* `CarryClock.run_eq_iterate`: as long as no step has more ticks than the shortest state lasts, a
  run is the iteration of one-tick steps, so only the sum of its ticks matters.
* `CarryClock.map_run`: a map of the states that keeps lengths and turns keeps runs.
* `CarryClock.dial_run`: if the states lie on a dial, a run moves the hand by the sum of its
  ticks.
* `CarryClock.exists_first_poll`: who looks at the dial often enough sees the hand pass through
  any window.
* `CarryClock.passes_step`: a step turns at the end of certain states as often as its hand passes
  the mark where they end; `CarryClock.passes_add` adds up the steps.

Such machines are how timed hardware is usually emulated: ticks come in portions, and the mode of
the device changes when enough have come.  Two things can go wrong.  A portion may be larger than
a state lasts, and then the device falls behind, since one step makes one turn.  And a device that
is exact on average may still not be exact at each moment, since it turns only when a portion is
complete.  The first is excluded here by the bound `B`, below which the machine is the same as one
that gets its ticks one by one; the second does not exist, because the rest is carried over.

The dial is for cyclic machines.  Each state has an offset, where it begins, and the position of
the machine is the offset and the clock together, modulo the period.  That a step moves the hand
by its ticks holds for a step of any size, also one that falls behind: what is late is the turn,
not the hand.  The condition is that turning leads from the end of a state to the start of the
next.
-/

set_option autoImplicit false

/-- A state machine whose state `s` lasts `length s` ticks and is followed by `turn s`. -/
structure CarryClock (σ : Type*) where
  length : σ → ℕ
  turn : σ → σ

namespace CarryClock

variable {σ : Type*} (C : CarryClock σ)

/-- Add `t` ticks to the clock, and turn if it has reached the end of the state.  What is left
over is carried into the next state, where it may already be past the end; that is noticed in the
next step. -/
def step (x : σ × ℕ) (t : ℕ) : σ × ℕ :=
  if x.2 + t < C.length x.1 then (x.1, x.2 + t) else (C.turn x.1, x.2 + t - C.length x.1)

/-- A list of steps. -/
def run (x : σ × ℕ) (ts : List ℕ) : σ × ℕ := ts.foldl C.step x

/-- The clock is inside the state: the machine has not fallen behind. -/
def Inside (x : σ × ℕ) : Prop := x.2 < C.length x.1

variable {C}

theorem step_of_lt {x : σ × ℕ} {t : ℕ} (h : x.2 + t < C.length x.1) :
    C.step x t = (x.1, x.2 + t) := if_pos h

theorem step_of_le {x : σ × ℕ} {t : ℕ} (h : C.length x.1 ≤ x.2 + t) :
    C.step x t = (C.turn x.1, x.2 + t - C.length x.1) := if_neg (Nat.not_lt_of_le h)

theorem step_zero {x : σ × ℕ} (hx : C.Inside x) : C.step x 0 = x := step_of_lt hx

section Bounded

variable {B : ℕ} (hB : ∀ s, B ≤ C.length s) {x : σ × ℕ} (hx : C.Inside x)

include hB hx

theorem Inside.step {t : ℕ} (ht : t ≤ B) : C.Inside (C.step x t) := by
  rcases Nat.lt_or_ge (x.2 + t) (C.length x.1) with h | h
  · rwa [step_of_lt h]
  · rw [step_of_le h]
    -- fewer than `t` ticks are carried over
    have hrest : x.2 + t - C.length x.1 < B := by
      rw [Inside] at hx
      omega
    exact Nat.lt_of_lt_of_le hrest (hB _)

/-- Two steps whose ticks together fit into a state are one. -/
theorem step_add {t u : ℕ} (h : t + u ≤ B) : C.step x (t + u) = C.step (C.step x t) u := by
  rcases Nat.lt_or_ge (x.2 + t) (C.length x.1) with ht | ht
  · rw [step_of_lt ht, CarryClock.step, CarryClock.step, Nat.add_assoc]
  · -- the turn comes first, and the next state is too long for a second one
    have hrest : x.2 + t - C.length x.1 + u < C.length (C.turn x.1) := by
      have := hB (C.turn x.1)
      rw [Inside] at hx
      omega
    rw [step_of_le ht, step_of_le (by omega), step_of_lt hrest]
    exact Prod.ext rfl (by omega)

/-- A step is as many steps of one tick, if it is not too long. -/
theorem step_eq_iterate {t : ℕ} (ht : t ≤ B) : C.step x t = (C.step · 1)^[t] x := by
  induction t with
  | zero => exact step_zero hx
  | succ t ih => rw [step_add hB hx ht, ih (by omega), Function.iterate_succ_apply']

/-- **Only the sum of the ticks matters.**  If no step has more ticks than the shortest state
lasts, the run is that of a machine which gets its ticks one by one. -/
theorem run_eq_iterate {ts : List ℕ} (hts : ∀ t ∈ ts, t ≤ B) :
    C.run x ts = (C.step · 1)^[ts.sum] x := by
  induction ts generalizing x with
  | nil => rfl
  | cons t ts ih =>
    rw [List.forall_mem_cons] at hts
    have hstep := step_eq_iterate hB hx hts.1
    rw [List.sum_cons, Nat.add_comm, Function.iterate_add_apply, ← hstep]
    exact ih (hx.step hB hts.1) hts.2

end Bounded

/-- A map of the states that keeps their lengths and turns keeps the steps. -/
theorem map_step {τ : Type*} {D : CarryClock τ} {f : σ → τ}
    (hlength : ∀ s, D.length (f s) = C.length s) (hturn : ∀ s, D.turn (f s) = f (C.turn s))
    (x : σ × ℕ) (t : ℕ) : D.step (Prod.map f id x) t = Prod.map f id (C.step x t) := by
  have hlength := hlength x.1
  rcases Nat.lt_or_ge (x.2 + t) (C.length x.1) with h | h
  · rw [step_of_lt h]
    exact step_of_lt (hlength ▸ h)
  · rw [step_of_le h, step_of_le (x := Prod.map f id x) (hlength ▸ h)]
    exact Prod.ext (hturn x.1) (congrArg (x.2 + t - ·) hlength)

theorem map_run {τ : Type*} {D : CarryClock τ} {f : σ → τ}
    (hlength : ∀ s, D.length (f s) = C.length s) (hturn : ∀ s, D.turn (f s) = f (C.turn s))
    (x : σ × ℕ) (ts : List ℕ) : D.run (Prod.map f id x) ts = Prod.map f id (C.run x ts) := by
  induction ts generalizing x with
  | nil => rfl
  | cons t ts ih =>
    have hstep := map_step hlength hturn x t
    exact (congrArg (D.run · ts) hstep).trans (ih (C.step x t))

/-! ## The dial -/

/-- Where the hand is, if the state `s` starts at `offset s` of a dial with `period` ticks.  The
clock of a machine that has fallen behind may exceed its state; the hand is right all the same.
Turning the clock moves the hand by as many ticks as are given, with no case for the states. -/
def dial (offset : σ → ℕ) (period : ℕ) (x : σ × ℕ) : ℕ := (offset x.1 + x.2) % period

section Dial

variable {I : σ → Prop} {offset : σ → ℕ} {period : ℕ} (hI : ∀ s, I s → I (C.turn s))
  (hturn : ∀ s, I s → offset (C.turn s) ≡ offset s + C.length s [MOD period])

include hturn

/-- A step moves the hand by its ticks. -/
theorem dial_step {x : σ × ℕ} (hx : I x.1) (t : ℕ) :
    dial offset period (C.step x t) = (dial offset period x + t) % period := by
  rw [dial, dial, Nat.mod_add_mod, Nat.add_assoc]
  rcases Nat.lt_or_ge (x.2 + t) (C.length x.1) with h | h
  · rw [step_of_lt h]
  · rw [step_of_le h]
    have := (hturn x.1 hx).add_right (x.2 + t - C.length x.1)
    rwa [Nat.add_assoc, Nat.add_sub_cancel' h] at this

include hI

/-- A run moves the hand by the sum of its ticks. -/
theorem dial_run {x : σ × ℕ} (hx : I x.1) (ts : List ℕ) :
    I (C.run x ts).1 ∧
      dial offset period (C.run x ts) = (dial offset period x + ts.sum) % period := by
  induction ts generalizing x with
  | nil => exact ⟨hx, (Nat.mod_mod _ _).symm⟩
  | cons t ts ih =>
    have hstep : I (C.step x t).1 := by
      rw [CarryClock.step]
      split
      · exact hx
      · exact hI _ hx
    obtain ⟨hrun, hdial⟩ := ih hstep
    refine ⟨hrun, hdial.trans ?_⟩
    rw [dial_step hturn hx, Nat.mod_add_mod, List.sum_cons, Nat.add_assoc]

end Dial

/-- Who looks at the hand every `gap` ticks finds it in a window that is at least as wide, within
a turn of the dial.  The window must not lie across the zero of the dial. -/
theorem exists_poll {period gap start width : ℕ} (hgap : 0 < gap) (hwidth : gap ≤ width)
    (hwindow : start + width ≤ period) (d : ℕ) :
    ∃ k, k * gap < period + gap ∧ start ≤ (d + k * gap) % period ∧
      (d + k * gap) % period < start + width := by
  -- the ticks until the hand enters the window, and the first look after that
  let wait := (start + period - d % period) % period
  have hlt : d % period < period := Nat.mod_lt _ (by omega)
  have hwait : wait < period := Nat.mod_lt _ (by omega)
  have hentry : (d + wait) % period = start := by
    have hsum : d % period + (start + period - d % period) = start + period := by omega
    rw [← Nat.mod_add_mod, Nat.add_mod_mod, hsum, Nat.add_mod_right, Nat.mod_eq_of_lt (by omega)]
  obtain ⟨k, r, hr, hk⟩ : ∃ k r, r < gap ∧ k * gap = wait + r := by
    refine ⟨(wait + gap - 1) / gap, gap - 1 - (wait + gap - 1) % gap, by omega, ?_⟩
    have hdiv := Nat.div_add_mod' (wait + gap - 1) gap
    have hmod := Nat.mod_lt (wait + gap - 1) hgap
    omega
  have hhand : (d + k * gap) % period = start + r := by
    rw [hk, ← Nat.add_assoc, ← Nat.mod_add_mod, hentry, Nat.mod_eq_of_lt (by omega)]
  exact ⟨k, by omega, by omega, by omega⟩

/-- The first such look. -/
theorem exists_first_poll {period gap start width : ℕ} (hgap : 0 < gap) (hwidth : gap ≤ width)
    (hwindow : start + width ≤ period) (d : ℕ) :
    ∃ k, k * gap < period + gap ∧
      (start ≤ (d + k * gap) % period ∧ (d + k * gap) % period < start + width) ∧
      ∀ j < k, ¬(start ≤ (d + j * gap) % period ∧ (d + j * gap) % period < start + width) := by
  obtain ⟨k, hk, hin⟩ := exists_poll hgap hwidth hwindow d
  have hex : ∃ k, start ≤ (d + k * gap) % period ∧ (d + k * gap) % period < start + width :=
    ⟨k, hin⟩
  have hle := Nat.mul_le_mul_right gap (Nat.find_min' hex hin)
  exact ⟨Nat.find hex, by omega, Nat.find_spec hex, fun _ ↦ Nat.find_min hex⟩

/-! ## Passing a mark -/

/-- How often the hand, from `d` on, passes `mark` in `t` ticks.  It is a difference of two
quotients, so it adds up along a run without a case distinction. -/
def passes (period mark d t : ℕ) : ℕ :=
  (d + t + (period - mark)) / period - (d + (period - mark)) / period

section Passes

variable {period mark : ℕ}

theorem passes_zero (d : ℕ) : passes period mark d 0 = 0 := Nat.sub_self _

/-- What was passed before is not passed again. -/
theorem passes_add (d t u : ℕ) :
    passes period mark d (t + u) = passes period mark d t + passes period mark (d + t) u := by
  have ht : (d + (period - mark)) / period ≤ (d + t + (period - mark)) / period :=
    Nat.div_le_div_right (by omega)
  have hu : (d + t + (period - mark)) / period ≤ (d + t + u + (period - mark)) / period :=
    Nat.div_le_div_right (by omega)
  rw [passes, passes, passes, ← Nat.add_assoc]
  omega

/-- One tick passes the mark if it leads there. -/
theorem passes_one (hmark : mark ≤ period) (d : ℕ) :
    passes period mark d 1 = if (d + 1) % period = mark % period then 1 else 0 := by
  have hdvd : period ∣ d + (period - mark) + 1 ↔ (d + 1) % period = mark % period := by
    have hsum : d + (period - mark) + 1 + mark = d + 1 + period := by omega
    rw [← Nat.add_mod_right (d + 1) period, ← hsum, ← Nat.modEq_zero_iff_dvd]
    constructor
    · intro h
      have := h.add_right mark
      rwa [Nat.zero_add] at this
    · intro h
      refine Nat.ModEq.add_right_cancel' mark ?_
      rwa [Nat.zero_add]
  rw [passes, Nat.add_right_comm, Nat.succ_div, Nat.add_sub_cancel_left]
  exact if_congr hdvd rfl rfl

section

variable (hperiod : 0 < period)

include hperiod

/-- Only the place of the hand matters. -/
theorem passes_mod (d t : ℕ) : passes period mark (d % period) t = passes period mark d t := by
  have hplace (u : ℕ) : (d + u) / period = (d % period + u) / period + d / period := by
    have hd : d + u = d % period + u + d / period * period := by
      have := Nat.mod_add_div' d period
      omega
    rw [hd, Nat.add_mul_div_right _ _ hperiod]
  rw [passes, passes, Nat.add_assoc, Nat.add_assoc, hplace, hplace, Nat.add_sub_add_right]

variable {E I : σ → Prop} [DecidablePred E] {offset : σ → ℕ} {B : ℕ} (hB : ∀ s, B ≤ C.length s)
  (hmark : mark ≤ period) (hI : ∀ s, I s → I (C.turn s))
  (hturn : ∀ s, I s → offset (C.turn s) ≡ offset s + C.length s [MOD period])
  (hend : ∀ s, I s → ((offset s + C.length s) % period = mark % period ↔ E s))
  (hinside : ∀ s, I s → ∀ c, 0 < c → c < C.length s → (offset s + c) % period ≠ mark % period)

include hB hmark hI hturn hend hinside

/-- **A step passes the mark** once if it turns at the end of a state that ends there, and else
not at all.  So counting turns is arithmetic on the dial. -/
theorem passes_step {x : σ × ℕ} (hx : C.Inside x) (hs : I x.1) {t : ℕ} (ht : t ≤ B) :
    passes period mark (dial offset period x) t =
      if x.2 + t < C.length x.1 then 0 else if E x.1 then 1 else 0 := by
  rw [dial, passes_mod hperiod]
  induction t with
  | zero => exact (passes_zero _).trans (if_pos hx).symm
  | succ t ih =>
    rw [passes_add, ih (by omega), passes_one hmark, Nat.add_assoc, Nat.add_assoc]
    rcases Nat.lt_trichotomy (x.2 + (t + 1)) (C.length x.1) with h | h | h
    · -- still inside the state
      rw [if_pos (by omega), if_neg (hinside _ hs _ (by omega) h), if_pos h]
    · -- the end of the state
      rw [if_pos (by omega), h, if_neg (Nat.lt_irrefl _), Nat.zero_add]
      exact if_congr (hend _ hs) rfl rfl
    · -- inside the next one
      obtain ⟨c, hc⟩ := Nat.exists_eq_add_of_lt h
      have hnext : (offset x.1 + (x.2 + (t + 1))) % period =
          (offset (C.turn x.1) + (c + 1)) % period := by
        rw [hc, Nat.add_assoc (C.length x.1), ← Nat.add_assoc]
        exact ((hturn _ hs).add_right (c + 1)).symm
      have hlt : c + 1 < C.length (C.turn x.1) := by
        have := hB (C.turn x.1)
        rw [Inside] at hx
        omega
      have ht : ¬x.2 + t < C.length x.1 := by omega
      rw [hnext, if_neg (hinside _ (hI _ hs) _ (Nat.succ_pos c) hlt), if_neg ht,
        if_neg (Nat.lt_asymm h), Nat.add_zero]

end

end Passes

end CarryClock
