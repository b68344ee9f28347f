import GameBloat.Library.System

/-!
# Slips that are not made good

A system `S` is to do what `T` does, and emit the same outputs, in an encoding `f`.  It follows
`T` as long as the events are `Right`; on any other, it slips: either an output is wrong at once,
or the states come to be `Lost`, and then every later output may still be right, but the states
stay lost.

Under these conditions a run is right in its outputs and its last state exactly when all of its
events are right where they occur in the run of `T` (`Slips.same_iff_along`).

If there is no state at all, so that each event is mapped by itself, the outputs are right exactly
when all events but the last leave `T` in the one state that such a map agrees with
(`map_eq_history_iff`).

This is the tool for stating exactly when an implementation with a defect is right.  A simulation
proves one direction, that it is right as long as the defect is not met.  For the other one has to
exclude that two mistakes cancel out, and this is what `lost` is for: once out of step, a run
whose outputs all happen to be right is still out of step at its end.  Whether this is so depends
on the defect, and the five fields of `Slips` are what has to be shown of it, each about one step.

The condition is on the run of the specification and not of the implementation.  This matters
where the condition is to be read: what the specification would do is known from the inputs, while
what the implementation does depends on whether it has already slipped.
-/

set_option autoImplicit false

variable {σ τ ε γ δ : Type*} {S : System σ ε γ} {T : System τ ε δ} {f : δ → γ}
  {R Lost : σ → τ → Prop} {Right : τ → ε → Prop}

/-- How `S` follows `T`, and what becomes of a slip.  `R` relates states that are in step and
`Lost` those that are not; a slip leads from the one to the other unless it shows in an output.
For each event there is one of three cases, and `Lost` is kept by all events, so a run cannot find
back. -/
structure Slips (S : System σ ε γ) (T : System τ ε δ) (f : δ → γ) (R Lost : σ → τ → Prop)
    (Right : τ → ε → Prop) : Prop where
  length : ∀ s t e, (S.out s e).length = (T.out t e).length
  right : ∀ s t e, R s t → Right t e →
    S.out s e = (T.out t e).map f ∧ R (S.step s e) (T.step t e)
  wrong : ∀ s t e, R s t → ¬Right t e → S.out s e = (T.out t e).map f →
    Lost (S.step s e) (T.step t e)
  lost : ∀ s t e, Lost s t → S.out s e = (T.out t e).map f → Lost (S.step s e) (T.step t e)
  not_lost : ∀ s t, R s t → ¬Lost s t

namespace Slips

variable (h : Slips S T f R Lost Right)

include h

/-- A history that is right begins with outputs that are. -/
theorem history_cons {s : σ} {t : τ} {e : ε} {events : List ε}
    (hsame : S.history s (e :: events) = (T.history t (e :: events)).map f) :
    S.out s e = (T.out t e).map f ∧
      S.history (S.step s e) events = (T.history (T.step t e) events).map f := by
  rw [System.history, System.history, List.map_append] at hsame
  exact List.append_inj hsame (by rw [List.length_map, h.length s t e])

/-- Once lost, a run stays lost. -/
theorem run_lost {s : σ} {t : τ} (hst : Lost s t) {events : List ε}
    (hsame : S.history s events = (T.history t events).map f) :
    Lost (S.run s events) (T.run t events) := by
  induction events generalizing s t with
  | nil => exact hst
  | cons e events ih =>
    obtain ⟨hout, hrest⟩ := h.history_cons hsame
    exact ih (h.lost s t e hst hout) hrest

/-- **A run is right** exactly when its events are: by induction on the events, with the lost runs
as a second induction inside it. -/
theorem same_iff_along {s : σ} {t : τ} (hst : R s t) {events : List ε} :
    S.history s events = (T.history t events).map f ∧ R (S.run s events) (T.run t events) ↔
      T.Along Right t events := by
  induction events generalizing s t with
  | nil => exact iff_of_true ⟨rfl, hst⟩ trivial
  | cons e events ih =>
    constructor
    · rintro ⟨hsame, hrun⟩
      obtain ⟨hout, hrest⟩ := h.history_cons hsame
      by_cases he : Right t e
      · exact ⟨he, (ih (h.right s t e hst he).2).1 ⟨hrest, hrun⟩⟩
      · exact absurd (h.run_lost (h.wrong s t e hst he hout) hrest) (h.not_lost _ _ hrun)
    · rintro ⟨he, hrest⟩
      obtain ⟨hout, hnext⟩ := h.right s t e hst he
      obtain ⟨hsame, hrun⟩ := (ih hnext).2 hrest
      refine ⟨?_, hrun⟩
      rw [System.history, System.history, List.map_append, hout, hsame]

end Slips

/-! ## Without a state -/

/-- **Event by event.**  If `g` emits what `T` does in the states that are `P`, and something else
in those that are `Q`, and it takes an event that is `C` to stay in `P`, then a whole history is
right exactly when every event before the last is `C`. -/
theorem map_eq_history_iff {g : ε → γ} {P Q : τ → Prop} {C : ε → Prop}
    (hlength : ∀ t e, (T.out t e).length = 1) (hright : ∀ t e, P t → [g e] = (T.out t e).map f)
    (hwrong : ∀ t e, Q t → [g e] ≠ (T.out t e).map f)
    (hkeep : ∀ t e, P t → C e → P (T.step t e))
    (hslip : ∀ t e, P t → ¬C e → Q (T.step t e)) {t : τ} (ht : P t) (events : List ε) :
    events.map g = (T.history t events).map f ↔ ∀ e ∈ events.dropLast, C e := by
  induction events generalizing t with
  | nil => exact iff_of_true rfl fun _ h ↦ absurd h List.not_mem_nil
  | cons e events ih =>
    have hsplit : (e :: events).map g = (T.history t (e :: events)).map f ↔
        events.map g = (T.history (T.step t e) events).map f := by
      rw [List.map_cons, System.history, List.map_append, ← hright t e ht]
      exact List.cons_inj_right _
    rw [hsplit]
    cases events with
    | nil => exact iff_of_true rfl fun _ h ↦ absurd h List.not_mem_nil
    | cons e' events =>
      rw [List.dropLast_cons_cons, List.forall_mem_cons]
      by_cases he : C e
      · rw [ih (hkeep t e ht he), and_iff_right he]
      · refine iff_of_false (fun h ↦ ?_) fun h ↦ he h.1
        rw [List.map_cons, System.history, List.map_append, ← List.singleton_append] at h
        refine hwrong _ e' (hslip t e ht he) (List.append_inj h ?_).1
        rw [List.length_map, hlength, List.length_singleton]
