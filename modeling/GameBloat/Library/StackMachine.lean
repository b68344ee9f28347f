import Mathlib.Data.Nat.Notation

/-!
# Machines with a save stack

A machine whose operations are of three kinds: an *opening* one saves a value on a stack, a
*closing* one takes the top value off and restores it, and a *neutral* one leaves the stack alone.
Words over the operations then nest like brackets.

* `BracketKind.height` runs the kinds alone, with a bound on the height of the stack; `WellNested`
  words end where they began.
* `BracketKind.exists_opening` finds the opening operation that matches a closing one, and
  `BracketKind.exists_closing` the other way round.
* `StackMachine.run_matched`: a closing operation restores what its match saved, whatever
  well-nested word stands between them.
* `StackMachine.simulates` carries a step-by-step simulation of a `StackMachine` along a word; the
  step may assume that there is room on the stack and that it is not popped empty.

The two halves are independent.  The first is about words and knows nothing of machines: whether a
word is nested, how high it gets and where the partner of a bracket is.  The second is about a
machine that runs such a word, and it is here that saved values come in.  What `restore` makes of
a value is arbitrary.  For a processor with a proper stack it is the identity or a jump; for one
that loses half of the value it is a function that loses half of the value, and the theorems about
matching hold of it all the same.

Depth is a bound, not a count, because a concrete machine has its stack in a memory of limited
size: the simulation is only asked for as long as there is room.
-/

set_option autoImplicit false

/-- What an operation does to the stack. -/
inductive BracketKind
  | opening | closing | neutral
  deriving DecidableEq

namespace BracketKind

/-- The height of the stack after one operation; `none` outside the range from 0 to `d`. -/
def next (d : ℕ) : BracketKind → ℕ → Option ℕ
  | opening, h => if h < d then some (h + 1) else none
  | closing, 0 => none
  | closing, h + 1 => some h
  | neutral, h => some h

theorem next_eq_some {d h n : ℕ} {b : BracketKind} (hn : next d b h = some n) :
    (b = opening ∧ h < d ∧ n = h + 1) ∨ (b = closing ∧ h = n + 1) ∨ (b = neutral ∧ n = h) := by
  cases b with
  | opening =>
    rw [next] at hn
    split at hn
    · exact .inl ⟨rfl, ‹_›, (Option.some.inj hn).symm⟩
    · cases hn
  | closing =>
    cases h with
    | zero => cases hn
    | succ h => exact .inr (.inl ⟨rfl, congrArg (· + 1) (Option.some.inj hn)⟩)
  | neutral => exact .inr (.inr ⟨rfl, (Option.some.inj hn).symm⟩)

variable {α : Type*} (kind : α → BracketKind)

/-- The height of the stack after a word that starts at height `h`; `none` if the word leaves the
range from 0 to `d`.  It is a fold, so it can be computed. -/
def height (d h : ℕ) (w : List α) : Option ℕ := w.foldlM (fun h a ↦ next d (kind a) h) h

/-- The word nests properly, to depth at most `d`, and closes whatever it opens. -/
def WellNested (d : ℕ) (w : List α) : Prop := height kind d 0 w = some 0

/-- The word nests properly, to some depth. -/
def Balanced (w : List α) : Prop := ∃ d, WellNested kind d w

instance (d : ℕ) (w : List α) : Decidable (WellNested kind d w) :=
  inferInstanceAs (Decidable (_ = _))

variable {kind} {d h n : ℕ} {a : α} {u v w : List α}

theorem height_nil : height kind d h [] = some h := rfl

theorem height_cons :
    height kind d h (a :: w) = (next d (kind a) h).bind (height kind d · w) := by
  rw [height, List.foldlM_cons]
  rfl

theorem height_append :
    height kind d h (u ++ v) = (height kind d h u).bind (height kind d · v) := by
  rw [height, List.foldlM_append]
  rfl

/-- A prefix of a word that stays in range stays in range. -/
theorem exists_height_prefix (hw : height kind d h (u ++ v) = some n) :
    ∃ k, height kind d h u = some k ∧ height kind d k v = some n := by
  rw [height_append] at hw
  exact Option.bind_eq_some_iff.1 hw

theorem exists_height_cons (hw : height kind d h (a :: w) = some n) :
    ∃ k, next d (kind a) h = some k ∧ height kind d k w = some n := by
  rw [height_cons] at hw
  exact Option.bind_eq_some_iff.1 hw

/-- More room does not change the height. -/
theorem height_mono {d' : ℕ} (hd : d ≤ d') (hw : height kind d h w = some n) :
    height kind d' h w = some n := by
  induction w generalizing h with
  | nil => exact hw
  | cons a w ih =>
    obtain ⟨k, hk, hw⟩ := exists_height_cons hw
    have hk' : next d' (kind a) h = some k := by
      rcases next_eq_some hk with ⟨ha, hh, rfl⟩ | ⟨ha, rfl⟩ | ⟨ha, rfl⟩
      · rw [ha, next, if_pos (by omega)]
      · rw [ha, next]
      · rw [ha, next]
    rw [height_cons, hk']
    exact ih hw

/-- The same word on top of `k` more entries. -/
theorem height_add (hw : height kind d h w = some n) (k : ℕ) :
    height kind (d + k) (h + k) w = some (n + k) := by
  induction w generalizing h with
  | nil => rw [height_nil] at hw ⊢; rw [Option.some.inj hw]
  | cons a w ih =>
    obtain ⟨j, hj, hw⟩ := exists_height_cons hw
    have hj' : next (d + k) (kind a) (h + k) = some (j + k) := by
      rcases next_eq_some hj with ⟨ha, hh, rfl⟩ | ⟨ha, rfl⟩ | ⟨ha, rfl⟩
      · rw [ha, next, if_pos (by omega), Nat.add_right_comm]
      · rw [ha, Nat.add_right_comm, next]
      · rw [ha, next]
    rw [height_cons, hj']
    exact ih hw

/-! ## Balanced words -/

theorem balanced_nil : Balanced kind [] := ⟨0, height_nil⟩

theorem balanced_neutral (ha : kind a = neutral) : Balanced kind [a] := by
  refine ⟨0, ?_⟩
  rw [WellNested, height_cons, ha]
  rfl

theorem Balanced.append (hu : Balanced kind u) (hv : Balanced kind v) : Balanced kind (u ++ v) := by
  obtain ⟨d, hu⟩ := hu
  obtain ⟨d', hv⟩ := hv
  refine ⟨max d d', ?_⟩
  rw [WellNested, height_append, height_mono (Nat.le_max_left d d') hu]
  exact height_mono (Nat.le_max_right d d') hv

theorem Balanced.wrap {c r : α} (hc : kind c = opening) (hr : kind r = closing)
    (hv : Balanced kind v) : Balanced kind (c :: (v ++ [r])) := by
  obtain ⟨d, hv⟩ := hv
  refine ⟨d + 1, ?_⟩
  have hv' : height kind (d + 1) 1 v = some 1 := by
    have := height_add hv 1
    rwa [Nat.zero_add] at this
  rw [WellNested, height_cons, hc, next, if_pos (Nat.succ_pos d), Option.bind_some,
    height_append, hv', Option.bind_some, height_cons, hr, next, Option.bind_some, height_nil]

/-- **Every closing operation has a match**: if the stack is not empty after `w`, then `w` splits
at the opening operation that put its top entry there.  By induction on the word, from its end.
This is the match that statements about subroutines and about pushed values speak of. -/
theorem exists_opening {w : List α} {n : ℕ} (hw : height kind d 0 w = some (n + 1)) :
    ∃ u c v, w = u ++ c :: v ∧ kind c = opening ∧ Balanced kind v ∧
      height kind d 0 u = some n := by
  rcases List.eq_nil_or_concat w with rfl | ⟨w, a, rfl⟩
  · cases hw
  rw [List.concat_eq_append] at hw ⊢
  obtain ⟨k, hk, ha⟩ := exists_height_prefix hw
  obtain ⟨j, hlast, hj⟩ := exists_height_cons ha
  obtain rfl := Option.some.inj hj
  clear ha
  rcases next_eq_some hlast with ⟨ha, -, hn⟩ | ⟨ha, rfl⟩ | ⟨ha, rfl⟩
  · obtain rfl := Nat.succ.inj hn
    exact ⟨w, a, [], rfl, ha, balanced_nil, hk⟩
  · -- `a` closes the entry above ours, whose own match lies in `w`
    obtain ⟨u₁, c₁, v₁, rfl, hc₁, hv₁, hu₁⟩ := exists_opening hk
    obtain ⟨u, c, v, rfl, hc, hv, hu⟩ := exists_opening hu₁
    refine ⟨u, c, v ++ c₁ :: (v₁ ++ [a]), ?_, hc, hv.append (hv₁.wrap hc₁ ha), hu⟩
    simp only [List.append_assoc, List.cons_append]
  · obtain ⟨u, c, v, rfl, hc, hv, hu⟩ := exists_opening hk
    refine ⟨u, c, v ++ [a], ?_, hc, hv.append (balanced_neutral ha), hu⟩
    simp only [List.append_assoc, List.cons_append]
termination_by w.length

/-- **Every opening operation that is undone has a match**: if the word ends at or below the height
it started from, less one, it splits at the closing operation that takes the top entry off. -/
theorem exists_closing {w : List α} {h n : ℕ} (hn : n ≤ h)
    (hw : height kind d (h + 1) w = some n) :
    ∃ v r u, w = v ++ r :: u ∧ kind r = closing ∧ Balanced kind v ∧ height kind d h u = some n := by
  cases w with
  | nil => have := Option.some.inj hw; omega
  | cons a w =>
    obtain ⟨k, hk, hw⟩ := exists_height_cons hw
    rcases next_eq_some hk with ⟨ha, -, rfl⟩ | ⟨ha, hk'⟩ | ⟨ha, rfl⟩
    · -- `a` puts another entry on top of ours; ours comes off after that one has
      obtain ⟨v₁, r₁, u₁, rfl, hr₁, hv₁, hu₁⟩ := exists_closing (Nat.le_succ_of_le hn) hw
      obtain ⟨v, r, u, rfl, hr, hv, hu⟩ := exists_closing hn hu₁
      refine ⟨a :: (v₁ ++ [r₁]) ++ v, r, u, ?_, hr, (hv₁.wrap ha hr₁).append hv, hu⟩
      simp only [List.append_assoc, List.cons_append, List.nil_append]
    · obtain rfl := Nat.succ.inj hk'
      exact ⟨[], a, w, rfl, ha, balanced_nil, hw⟩
    · obtain ⟨v, r, u, rfl, hr, hv, hu⟩ := exists_closing hn hw
      exact ⟨a :: v, r, u, rfl, hr, (balanced_neutral ha).append hv, hu⟩
termination_by w.length

end BracketKind

/-! ## The machines -/

/-- A machine on control states `χ` that saves values of type `V` on a stack. -/
structure StackMachine (χ α V : Type*) where
  kind : α → BracketKind
  /-- What an opening operation saves. -/
  save : α → χ → V
  /-- Where an opening or a neutral operation goes. -/
  move : α → χ → χ
  /-- What a closing operation makes of the value it takes off. -/
  restore : α → χ → V → χ

namespace StackMachine

open BracketKind

variable {χ α V : Type*} (M : StackMachine χ α V)

/-- One operation.  A closing one on an empty stack does nothing. -/
def step (s : χ × List V) (a : α) : χ × List V :=
  match M.kind a with
  | .opening => (M.move a s.1, M.save a s.1 :: s.2)
  | .closing =>
    match s.2 with
    | [] => s
    | v :: stack => (M.restore a s.1 v, stack)
  | .neutral => (M.move a s.1, s.2)

/-- A word of operations. -/
def run (s : χ × List V) (w : List α) : χ × List V := w.foldl M.step s

variable {M} {x : χ} {stack : List V} {a : α}

theorem step_opening (ha : M.kind a = .opening) :
    M.step (x, stack) a = (M.move a x, M.save a x :: stack) := by
  simp only [step, ha]

theorem step_closing {v : V} (ha : M.kind a = .closing) :
    M.step (x, v :: stack) a = (M.restore a x v, stack) := by
  simp only [step, ha]

theorem step_neutral (ha : M.kind a = .neutral) : M.step (x, stack) a = (M.move a x, stack) := by
  simp only [step, ha]

theorem run_append (s : χ × List V) (u v : List α) : M.run s (u ++ v) = M.run (M.run s u) v :=
  List.foldl_append

/-- Operations that stay above the entries `below` leave them alone, and the height of the stack
is the `height` of the word.  This is the frame of a subroutine: what its caller has saved is
still there. -/
theorem run_stack {d h n : ℕ} {w : List α} (hw : height M.kind d h w = some n) (x : χ)
    {top : List V} (htop : top.length = h) (below : List V) :
    ∃ top' : List V, top'.length = n ∧ (M.run (x, top ++ below) w).2 = top' ++ below := by
  induction w generalizing h x top with
  | nil => exact ⟨top, htop.trans (Option.some.inj hw), rfl⟩
  | cons a w ih =>
    obtain ⟨k, hk, htail⟩ := exists_height_cons hw
    rw [run, List.foldl_cons]
    rcases next_eq_some hk with ⟨ha, -, rfl⟩ | ⟨ha, rfl⟩ | ⟨ha, rfl⟩
    · rw [step_opening ha]
      have htop' : (M.save a x :: top).length = h + 1 := congrArg (· + 1) htop
      exact ih htail _ htop'
    · obtain ⟨v, top, rfl⟩ := List.exists_cons_of_length_eq_add_one htop
      rw [List.cons_append, step_closing ha]
      exact ih htail _ (Nat.succ.inj htop)
    · rw [step_neutral ha]
      exact ih htail _ htop

/-- A balanced word leaves the stack as it found it. -/
theorem run_balanced {w : List α} (hw : Balanced M.kind w) (x : χ) (stack : List V) :
    (M.run (x, stack) w).2 = stack := by
  obtain ⟨d, hw⟩ := hw
  obtain ⟨top, htop, h⟩ := run_stack hw x (List.length_nil) stack
  rw [List.eq_nil_of_length_eq_zero htop] at h
  exact h

/-- **A closing operation restores what its match saved.** -/
theorem run_matched {c r : α} {w : List α} (hc : M.kind c = .opening) (hr : M.kind r = .closing)
    (hw : Balanced M.kind w) (s : χ × List V) :
    ∃ y, M.run s (c :: (w ++ [r])) = (M.restore r y (M.save c s.1), s.2) := by
  obtain ⟨x, stack⟩ := s
  have hstack := run_balanced hw (M.move c x) (M.save c x :: stack)
  cases hbody : M.run (M.move c x, M.save c x :: stack) w with
  | mk y stack' =>
    rw [hbody] at hstack
    obtain rfl : stack' = M.save c x :: stack := hstack
    refine ⟨y, ?_⟩
    rw [run, List.foldl_cons, List.foldl_append, step_opening hc]
    change M.step (M.run _ w) r = _
    rw [hbody, step_closing hr]

/-- **Simulation.**  If each operation of another system keeps a relation to the stack machine,
whenever there is room for a value to be saved and a value to be restored, then so does every word
that stays in range. -/
theorem simulates {σ : Type*} {exec : σ → α → σ} {R : σ → χ × List V → Prop} {d : ℕ}
    (hstep : ∀ s x stack a, R s (x, stack) → (M.kind a = .opening → stack.length < d) →
      (M.kind a = .closing → stack ≠ []) → R (exec s a) (M.step (x, stack) a))
    {w : List α} {h n : ℕ} (hw : height M.kind d h w = some n) {s : σ} {t : χ × List V}
    (ht : t.2.length = h) (hR : R s t) : R (w.foldl exec s) (M.run t w) := by
  induction w generalizing h s t with
  | nil => exact hR
  | cons a w ih =>
    obtain ⟨x, stack⟩ := t
    obtain ⟨k, hk, htail⟩ := exists_height_cons hw
    rw [run, List.foldl_cons, List.foldl_cons]
    rcases next_eq_some hk with ⟨ha, hh, rfl⟩ | ⟨ha, rfl⟩ | ⟨ha, rfl⟩
    · refine ih htail ?_ (hstep s x stack a hR (fun _ ↦ ht ▸ hh) (by simp [ha]))
      rw [step_opening ha]
      exact congrArg (· + 1) ht
    · obtain ⟨v, stack, rfl⟩ := List.exists_cons_of_length_eq_add_one ht
      refine ih htail ?_ (hstep s x _ a hR (by simp [ha]) fun _ ↦ List.cons_ne_nil v stack)
      rw [step_closing ha]
      exact Nat.succ.inj ht
    · refine ih htail ?_ (hstep s x stack a hR (by simp [ha]) (by simp [ha]))
      rw [step_neutral ha]
      exact ht

end StackMachine
