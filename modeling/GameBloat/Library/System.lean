import Mathlib.Data.List.Induction
import Mathlib.Data.Nat.Notation
import Mathlib.Logic.Function.Basic

/-!
# Systems driven by events

A `System` takes a step on each event and emits a list of outputs; a run over a list of events has
a final state and a `history`, the outputs in order.

* `System.run_invariant`: what each step keeps, a run keeps.
* `System.run_filter`: events that do nothing may be left out of a run.
* `System.run_invariant_along`: the same under a condition on each event and the state it finds;
  `System.forall_prefix_iff_along` if the condition is necessary as well.
* `System.run_factorsThrough`: if what is observed after a step depends only on what was observed
  before, two runs that start alike stay alike; `System.history_factorsThrough` is the same of
  what they emit.
* `System.history_eq_of_simulation`: systems related by a simulation emit the same.
* `System.run_eq_last_write`: what is there at the end of a run is what was written last.
* `System.frames`: if the outputs between two marks are built up step by step, and complete
  whenever a mark is passed, then they are complete between any two consecutive marks of a
  history.

Each of these is an induction on the list of events that would otherwise be done again for every
property of runs.  What is left to a concrete system is a statement about one step, under the
hypotheses that the rule provides.

A condition on a run can be of two kinds.  One is on the events, `allowed`, and says nothing about
states: it serves for results about what may happen to the system.  The other is `Along`, a
condition on each event together with the state that it finds: it serves for results about what a
program does, where whether a step is harmless depends on when it comes.  `Along` is decidable if
the condition is, so a concrete run can be tested for it.

Where a condition is not only sufficient but exact, it is stated for all prefixes of a run
(`forall_prefix_iff_along`), since a run may violate a property and return to it.
-/

set_option autoImplicit false

/-- A deterministic system with events `ε` and outputs `γ`.  What is not determined by the state,
such as input from outside, is part of the event.  A run is a list of events, and its history the
list of all that it has put out. -/
structure System (σ ε γ : Type*) where
  step : σ → ε → σ
  out : σ → ε → List γ

namespace System

variable {σ ε γ : Type*} (S : System σ ε γ)

/-- The state after a list of events. -/
def run (s : σ) (events : List ε) : σ := events.foldl S.step s

/-- The outputs of a list of events. -/
def history (s : σ) : List ε → List γ
  | [] => []
  | e :: events => S.out s e ++ history (S.step s e) events

variable {S}

theorem run_append (s : σ) (u v : List ε) : S.run s (u ++ v) = S.run (S.run s u) v :=
  List.foldl_append

theorem history_append (s : σ) (u v : List ε) :
    S.history s (u ++ v) = S.history s u ++ S.history (S.run s u) v := by
  induction u generalizing s with
  | nil => rfl
  | cons e u ih => rw [List.cons_append, history, ih, history, List.append_assoc]; rfl

theorem history_singleton (s : σ) (e : ε) : S.history s [e] = S.out s e := List.append_nil _

/-- The same system, with its events given by `g`. -/
def comap {ζ : Type*} (S : System σ ε γ) (g : ζ → ε) : System σ ζ γ where
  step s z := S.step s (g z)
  out s z := S.out s (g z)

theorem run_map {ζ : Type*} (g : ζ → ε) (s : σ) (events : List ζ) :
    S.run s (events.map g) = (S.comap g).run s events := List.foldl_map

theorem history_map {ζ : Type*} (g : ζ → ε) (s : σ) (events : List ζ) :
    S.history s (events.map g) = (S.comap g).history s events := by
  induction events generalizing s with
  | nil => rfl
  | cons e events ih => exact congrArg (_ ++ ·) (ih _)

/-- What every step keeps, a run keeps. -/
theorem run_invariant {I : σ → Prop} {allowed : ε → Prop}
    (hstep : ∀ s e, allowed e → I s → I (S.step s e)) {s : σ} (hs : I s) {events : List ε}
    (hevents : ∀ e ∈ events, allowed e) : I (S.run s events) := by
  induction events generalizing s with
  | nil => exact hs
  | cons e events ih =>
    rw [List.forall_mem_cons] at hevents
    exact ih (hstep s e hevents.1 hs) hevents.2

/-- Events that do nothing where they occur may be left out. -/
theorem run_filter {I : σ → Prop} {allowed : ε → Prop}
    (hstep : ∀ s e, allowed e → I s → I (S.step s e)) {p : ε → Bool}
    (hidle : ∀ s e, allowed e → I s → ¬p e → S.step s e = s) {s : σ} (hs : I s) {events : List ε}
    (hevents : ∀ e ∈ events, allowed e) : S.run s (events.filter p) = S.run s events := by
  induction events generalizing s with
  | nil => rfl
  | cons e events ih =>
    rw [List.forall_mem_cons] at hevents
    by_cases he : p e
    · rw [List.filter_cons_of_pos he]
      exact ih (hstep s e hevents.1 hs) hevents.2
    · have hrest := ih (hstep s e hevents.1 hs) hevents.2
      rw [hidle s e hevents.1 hs he] at hrest
      rw [List.filter_cons_of_neg he, hrest]
      exact congrArg (S.run · events) (hidle s e hevents.1 hs he).symm

/-! ## Conditions along a run -/

section Along

variable {P : σ → ε → Prop}

variable (S P) in
/-- `P` holds of every event of a run, in the state just before it.  It says nothing about the
state at the end.  Conditions on the steps of a run are of this form, since an event is harmful or
not depending on the state it meets. -/
def Along : σ → List ε → Prop
  | _, [] => True
  | s, e :: events => P s e ∧ Along (S.step s e) events

instance decidableAlong [∀ s e, Decidable (P s e)] : ∀ s events, Decidable (S.Along P s events)
  | _, [] => inferInstanceAs (Decidable True)
  | s, e :: events =>
    have := decidableAlong (S.step s e) events
    inferInstanceAs (Decidable (P s e ∧ S.Along P (S.step s e) events))

theorem along_append {s : σ} {u v : List ε} :
    S.Along P s (u ++ v) ↔ S.Along P s u ∧ S.Along P (S.run s u) v := by
  induction u generalizing s with
  | nil => exact ⟨fun h ↦ ⟨trivial, h⟩, And.right⟩
  | cons e u ih => exact (and_congr_right' ih).trans and_assoc.symm

/-- The same, event by event. -/
theorem along_iff_getElem {s : σ} {events : List ε} :
    S.Along P s events ↔
      ∀ i (hi : i < events.length), P (S.run s (events.take i)) (events[i]) := by
  induction events generalizing s with
  | nil => exact iff_of_true trivial fun i hi ↦ absurd hi (Nat.not_lt_zero i)
  | cons e events ih =>
    constructor
    · rintro ⟨he, hrest⟩ i hi
      cases i with
      | zero => exact he
      | succ i => exact ih.1 hrest i (Nat.lt_of_succ_lt_succ hi)
    · intro h
      refine ⟨h 0 (Nat.succ_pos _), ih.2 fun i hi ↦ ?_⟩
      exact h (i + 1) (Nat.succ_lt_succ hi)

/-- What every step keeps under the condition, a run keeps that meets it throughout. -/
theorem run_invariant_along {I : σ → Prop} (hstep : ∀ s e, P s e → I s → I (S.step s e)) {s : σ}
    (hs : I s) {events : List ε} (h : S.Along P s events) : I (S.run s events) := by
  induction events generalizing s with
  | nil => exact hs
  | cons e events ih => exact ih (hstep s e h.1 hs) h.2

/-- What every step keeps of the state and the history, a run keeps. -/
theorem history_invariant_along {I : σ → List γ → Prop}
    (hstep : ∀ s h e, P s e → I s h → I (S.step s e) (h ++ S.out s e)) {s : σ} (hs : I s [])
    {events : List ε} (h : S.Along P s events) : I (S.run s events) (S.history s events) := by
  induction events using List.reverseRecOn with
  | nil => exact hs
  | append_singleton events e ih =>
    obtain ⟨hevents, he, -⟩ := along_append.1 h
    rw [run_append, history_append, history_singleton]
    exact hstep _ _ e he (ih hevents)

/-- If the condition is what it takes for a step to keep the invariant, then a run meets it
throughout exactly when the invariant holds all the way.  Both directions use the prefix before
the step. -/
theorem forall_prefix_iff_along {I : σ → Prop} (hstep : ∀ s e, I s → (I (S.step s e) ↔ P s e))
    {s : σ} (hs : I s) {events : List ε} :
    (∀ pre, pre <+: events → I (S.run s pre)) ↔ S.Along P s events := by
  induction events generalizing s with
  | nil =>
    refine iff_of_true (fun pre hpre ↦ ?_) trivial
    rw [List.prefix_nil.1 hpre]
    exact hs
  | cons e events ih =>
    constructor
    · intro h
      have hnext : I (S.step s e) := h [e] (List.prefix_append [e] events)
      refine ⟨(hstep s e hs).1 hnext, (ih hnext).1 fun pre hpre ↦ ?_⟩
      exact h (e :: pre) ((List.prefix_cons_inj e).2 hpre)
    · rintro ⟨he, hrest⟩ pre hpre
      cases pre with
      | nil => exact hs
      | cons e' pre =>
        obtain ⟨rfl, hpre'⟩ := List.cons_prefix_cons.1 hpre
        exact (ih ((hstep s e' hs).2 he)).2 hrest pre hpre'

/-- Conditions that say the same where an invariant holds, say the same of a run. -/
theorem along_congr {Q : σ → ε → Prop} {I : σ → Prop} (hstep : ∀ s e, I s → I (S.step s e))
    (hcongr : ∀ s e, I s → (P s e ↔ Q s e)) {s : σ} (hs : I s) (events : List ε) :
    S.Along P s events ↔ S.Along Q s events := by
  induction events generalizing s with
  | nil => exact Iff.rfl
  | cons e events ih => exact and_congr (hcongr s e hs) (ih (hstep s e hs))

/-- A condition that the events meet in every state. -/
theorem along_of_forall {events : List ε} (h : ∀ e ∈ events, ∀ s, P s e) (s : σ) :
    S.Along P s events := by
  induction events generalizing s with
  | nil => trivial
  | cons e events ih =>
    rw [List.forall_mem_cons] at h
    exact ⟨h.1 s, ih h.2 _⟩

/-- A condition on the event alone. -/
theorem along_const_iff {p : ε → Prop} {s : σ} {events : List ε} :
    S.Along (fun _ e ↦ p e) s events ↔ ∀ e ∈ events, p e := by
  induction events generalizing s with
  | nil => exact iff_of_true trivial fun _ h ↦ absurd h List.not_mem_nil
  | cons e events ih =>
    rw [List.forall_mem_cons]
    exact and_congr_right' ih

/-- A weaker condition. -/
theorem Along.imp {Q : σ → ε → Prop} (hPQ : ∀ s e, P s e → Q s e) {s : σ} {events : List ε}
    (h : S.Along P s events) : S.Along Q s events := by
  induction events generalizing s with
  | nil => trivial
  | cons e events ih => exact ⟨hPQ s e h.1, ih h.2⟩

/-- A condition under which nothing changes is one on each event. -/
theorem along_iff_forall {s : σ} (hstep : ∀ e, P s e → S.step s e = s) {events : List ε} :
    S.Along P s events ↔ ∀ e ∈ events, P s e := by
  induction events with
  | nil => exact iff_of_true trivial fun _ h ↦ absurd h List.not_mem_nil
  | cons e events ih =>
    rw [List.forall_mem_cons]
    refine and_congr_right fun he ↦ ?_
    rw [hstep e he, ih]

/-- A condition that an invariant implies is met by every run. -/
theorem along_of_invariant {I : σ → Prop} (hstep : ∀ s e, I s → I (S.step s e))
    (hP : ∀ s e, I s → P s e) {s : σ} (hs : I s) (events : List ε) : S.Along P s events := by
  induction events generalizing s with
  | nil => trivial
  | cons e events ih => exact ⟨hP s e hs, ih (hstep s e hs)⟩

/-- A run that does not meet the condition throughout has an event that does not. -/
theorem exists_of_not_along {s : σ} {events : List ε} (h : ¬S.Along P s events) :
    ∃ u e v, events = u ++ e :: v ∧ ¬P (S.run s u) e := by
  induction events generalizing s with
  | nil => exact absurd trivial h
  | cons e events ih =>
    by_cases he : P s e
    · obtain ⟨u, e', v, rfl, he'⟩ := ih fun hrest ↦ h ⟨he, hrest⟩
      exact ⟨e :: u, e', v, rfl, he'⟩
    · exact ⟨[], e, events, rfl, he⟩

end Along

/-! ## What is observed -/

section Observation

variable {α : Type*} {obs : σ → α}

/-- **Runs that start alike stay alike**, if what is observed after a step depends on nothing but
what was observed before it. -/
theorem run_factorsThrough (hstep : ∀ e, (fun s ↦ obs (S.step s e)).FactorsThrough obs)
    (events : List ε) : (fun s ↦ obs (S.run s events)).FactorsThrough obs := by
  induction events with
  | nil => exact fun _ _ h ↦ h
  | cons e events ih => exact fun _ _ h ↦ ih (hstep e h)

/-- And if what a step emits depends only on what is observed, they emit the same. -/
theorem history_factorsThrough (hstep : ∀ e, (fun s ↦ obs (S.step s e)).FactorsThrough obs)
    (hout : ∀ e, (S.out · e).FactorsThrough obs) (events : List ε) :
    (S.history · events).FactorsThrough obs := by
  induction events with
  | nil => exact fun _ _ _ ↦ rfl
  | cons e events ih =>
    intro s s' h
    exact congrArg₂ (· ++ ·) (hout e h) (ih (hstep e h))

end Observation

/-! ## Simulation -/

/-- **A simulation between two systems**: if related states emit the same on each event and the
states after it are related again, the histories are the same. -/
theorem history_eq_of_simulation {τ : Type*} {T : System τ ε γ} {R : σ → τ → Prop}
    (hstep : ∀ s t e, R s t → S.out s e = T.out t e ∧ R (S.step s e) (T.step t e)) {s : σ} {t : τ}
    (h : R s t) (events : List ε) : S.history s events = T.history t events := by
  induction events generalizing s t with
  | nil => rfl
  | cons e events ih =>
    obtain ⟨hout, hnext⟩ := hstep s t e h
    rw [history, history, hout, ih hnext]

/-! ## The last write -/

section LastWrite

variable {c : γ}

/-- An output that occurs in a history occurs there for the last time. -/
theorem exists_last_of_mem_history {s : σ} {events : List ε} (h : c ∈ S.history s events) :
    ∃ pre e post, events = pre ++ e :: post ∧ c ∈ S.out (S.run s pre) e ∧
      c ∉ S.history (S.run s (pre ++ [e])) post := by
  classical
  induction events generalizing s with
  | nil => exact absurd h List.not_mem_nil
  | cons e events ih =>
    by_cases hrest : c ∈ S.history (S.step s e) events
    · obtain ⟨pre, e', post, rfl, hout, hpost⟩ := ih hrest
      exact ⟨e :: pre, e', post, rfl, hout, hpost⟩
    · rw [history, List.mem_append, or_iff_left hrest] at h
      exact ⟨[], e, events, rfl, h, hrest⟩

variable {α : Type*} {I : σ → Prop} {f : σ → α} (hI : ∀ s e, I s → I (S.step s e))
  (hkeep : ∀ s e, I s → c ∉ S.out s e → f (S.step s e) = f s)

include hI hkeep

/-- What nobody writes stays. -/
theorem run_eq_of_notMem_history {s : σ} (hs : I s) {events : List ε}
    (h : c ∉ S.history s events) : f (S.run s events) = f s := by
  induction events generalizing s with
  | nil => rfl
  | cons e events ih =>
    rw [history, List.mem_append, not_or] at h
    exact (ih (hI s e hs) h.2).trans (hkeep s e hs h.1)

/-- **What is there is what was written last.** `c` is an output that says that `f` of the state
is being written, with `value`; after the last such output nobody has touched it.  The state
before the run does not matter then, nor does what was written earlier. -/
theorem run_eq_last_write {value : σ → ε → α}
    (hwrite : ∀ s e, I s → c ∈ S.out s e → f (S.step s e) = value s e) {s : σ} (hs : I s)
    {pre : List ε} {e : ε} {post : List ε} (hout : c ∈ S.out (S.run s pre) e)
    (hpost : c ∉ S.history (S.run s (pre ++ [e])) post) :
    f (S.run s (pre ++ e :: post)) = value (S.run s pre) e := by
  have hpre : I (S.run s pre) := run_invariant
    (fun s e (_ : True) hs ↦ hI s e hs) hs fun _ _ ↦ trivial
  have hafter : S.run s (pre ++ [e]) = S.step (S.run s pre) e := run_append s pre [e]
  rw [hafter] at hpost
  rw [run_append]
  exact (run_eq_of_notMem_history hI hkeep (hI _ e hpre) hpost).trans (hwrite _ e hpre hout)

end LastWrite

/-! ## What happens between two marks -/

section Frames

variable {α β : Type*} {mark : γ} {obs : γ → Option β} {full now next : List β}

/-- One step of building up the observations of a frame: either the step stays inside the frame and
adds to what there is `now`, or it passes the mark once, at which point the frame is `full`. -/
inductive FrameStep (mark : γ) (obs : γ → Option β) (full now next : List β) (calls : List γ) : Prop
  | inside (hmark : mark ∉ calls) (hnext : next = now ++ calls.filterMap obs)
  | across (before after : List γ) (hcalls : calls = before ++ mark :: after)
      (hbefore : mark ∉ before) (hafter : mark ∉ after)
      (hfull : now ++ before.filterMap obs = full) (hnext : next = after.filterMap obs)

/-- The state of a history of frames: `now` has been observed since the last mark, and every frame
that is over was full.  Before the first mark nothing is asked, since a run may start in the
middle. -/
def Framed (mark : γ) (obs : γ → Option β) (full now : List β) (h : List γ) : Prop :=
  (∀ pre mid, h = pre ++ mark :: mid → mark ∉ mid → mid.filterMap obs = now) ∧
  ∀ pre mid post, h = pre ++ mark :: (mid ++ mark :: post) → mark ∉ mid →
    mid.filterMap obs = full

/-- A mark that is not in the second part of a list is in the first. -/
theorem split_left {h c u v : List γ} (heq : h ++ c = u ++ mark :: v) (hc : mark ∉ c) :
    ∃ v', v = v' ++ c ∧ h = u ++ mark :: v' := by
  rcases List.append_eq_append_iff.1 heq with ⟨a, rfl, rfl⟩ | ⟨a, rfl, ha⟩
  · exact absurd (List.mem_append_right _ List.mem_cons_self) hc
  · cases a with
    | nil =>
      rw [List.nil_append] at ha
      exact absurd (ha ▸ List.mem_cons_self) hc
    | cons b a =>
      obtain ⟨rfl, rfl⟩ := List.cons.inj ha
      exact ⟨a, rfl, rfl⟩

/-- A mark that is not after the last one is the last one or before it. -/
theorem split_last {h c u v : List γ} (heq : h ++ mark :: c = u ++ mark :: v) (hc : mark ∉ c) :
    (h = u ∧ c = v) ∨ ∃ v', v = v' ++ mark :: c ∧ h = u ++ mark :: v' := by
  rcases List.append_eq_append_iff.1 heq with ⟨a, rfl, ha⟩ | ⟨a, rfl, ha⟩
  · cases a with
    | nil => exact .inl ⟨(List.append_nil h).symm, (List.cons.inj ha).2⟩
    | cons b a =>
      obtain ⟨-, rfl⟩ := List.cons.inj ha
      exact absurd (List.mem_append_right _ List.mem_cons_self) hc
  · cases a with
    | nil => exact .inl ⟨List.append_nil u, (List.cons.inj ha).2.symm⟩
    | cons b a =>
      obtain ⟨rfl, rfl⟩ := List.cons.inj ha
      exact .inr ⟨a, rfl, rfl⟩

theorem Framed.append {h calls : List γ} (hh : Framed mark obs full now h)
    (hstep : FrameStep mark obs full now next calls) : Framed mark obs full next (h ++ calls) := by
  obtain ⟨hcur, hdone⟩ := hh
  cases hstep with
  | inside hmark hnext =>
    refine ⟨fun pre mid heq hmid ↦ ?_, fun pre mid post heq hmid ↦ ?_⟩
    · obtain ⟨mid, rfl, hh⟩ := split_left heq hmark
      rw [List.filterMap_append, hnext,
        hcur pre mid hh fun h ↦ hmid (List.mem_append_left _ h)]
    · rw [← List.cons_append, ← List.append_assoc] at heq
      obtain ⟨post, -, hh⟩ := split_left heq hmark
      rw [List.append_assoc, List.cons_append] at hh
      exact hdone pre mid post hh hmid
  | across before after hcalls hbefore hafter hfull hnext =>
    subst hcalls
    rw [← List.append_assoc]
    refine ⟨fun pre mid heq hmid ↦ ?_, fun pre mid post heq hmid ↦ ?_⟩
    · rcases split_last heq hafter with ⟨-, rfl⟩ | ⟨mid, rfl, -⟩
      · exact hnext.symm
      · exact absurd (List.mem_append_right _ List.mem_cons_self) hmid
    · rw [← List.cons_append, ← List.append_assoc] at heq
      rcases split_last heq hafter with ⟨hh, -⟩ | ⟨post, -, hh⟩
      · -- the second mark is the one just passed, so the frame ends in `before`
        obtain ⟨mid, rfl, hh'⟩ := split_left hh hbefore
        rw [List.filterMap_append, hcur pre mid hh' fun h ↦ hmid (List.mem_append_left _ h), hfull]
      · obtain ⟨post, -, hh⟩ := split_left hh hbefore
        rw [List.append_assoc, List.cons_append] at hh
        exact hdone pre mid post hh hmid

/-- **Frames are full.**  If every step of a run is a `FrameStep` for what `progress` reads off
the state, then between any two consecutive marks of its history lie the observations `full`. -/
theorem frames {I : σ → Prop} {allowed : ε → Prop} (progress : σ → List β)
    (hI : ∀ s e, allowed e → I s → I (S.step s e))
    (hstep : ∀ s e, allowed e → I s →
      FrameStep mark obs full (progress s) (progress (S.step s e)) (S.out s e))
    {s : σ} (hs : I s) {events : List ε} (hevents : ∀ e ∈ events, allowed e) :
    Framed mark obs full (progress (S.run s events)) (S.history s events) := by
  induction events using List.reverseRecOn with
  | nil =>
    refine ⟨fun pre mid h ↦ ?_, fun pre mid post h ↦ ?_⟩ <;>
      exact absurd (congrArg List.length h) (by simp [history])
  | append_singleton events e ih =>
    rw [List.forall_mem_append, List.forall_mem_singleton] at hevents
    rw [run_append, history_append, history_singleton]
    exact (ih hevents.1).append
      (hstep _ e hevents.2 (run_invariant hI hs hevents.1))

end Frames

end System
