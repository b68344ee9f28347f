import GameBloat.Library.System

/-!
# Registers that keep the last value written to them

What a device holds after a history of writes is often a matter of a few of them only: the last one
to each of its registers.  `latest f events` is the last value that `f` finds in a list of events,
and `System.run_latched` says when a part of a system's state is determined by it.
-/

set_option autoImplicit false

variable {σ ε γ α β : Type*}

/-- The last value that `f` finds in a list of events; `none` if it finds nothing anywhere. -/
def latest (f : ε → Option α) (events : List ε) : Option α := (events.filterMap f).getLast?

variable {f : ε → Option α}

@[simp] theorem latest_nil : latest f [] = none := rfl

/-- One event more: what `f` finds in it, or what was latest before. -/
theorem latest_append_singleton (events : List ε) (e : ε) :
    latest f (events ++ [e]) = (f e).or (latest f events) := by
  rw [latest, latest, List.filterMap_append, List.getLast?_append]
  cases h : f e <;> simp [h]

/-- What is latest has been found somewhere. -/
theorem exists_of_latest_eq_some {events : List ε} {a : α} (h : latest f events = some a) :
    ∃ e ∈ events, f e = some a :=
  List.mem_filterMap.1 (List.mem_of_getLast? h)

namespace System

variable {S : System σ ε γ}

/-- **A register is determined by the last write to it.**  If every event either leaves `reg` alone
or, where `f` finds a value, sets it to what `g` makes of the value, then after a run it holds what
`g` makes of the latest value, or what it held before the run if there was none. -/
theorem run_latched (reg : σ → β) {I : σ → Prop} {allowed : ε → Prop} {g : α → β}
    (hI : ∀ s e, allowed e → I s → I (S.step s e))
    (hstep : ∀ s e, allowed e → I s → reg (S.step s e) = ((f e).map g).getD (reg s))
    {s : σ} (hs : I s) {events : List ε} (hevents : ∀ e ∈ events, allowed e) :
    reg (S.run s events) = ((latest f events).map g).getD (reg s) := by
  induction events using List.reverseRecOn with
  | nil => rfl
  | append_singleton events e ih =>
    rw [List.forall_mem_append, List.forall_mem_singleton] at hevents
    have hone : S.run s (events ++ [e]) = S.step (S.run s events) e := run_append s events [e]
    rw [hone, hstep _ e hevents.2 (run_invariant hI hs hevents.1), ih hevents.1,
      latest_append_singleton]
    cases f e <;> rfl

/-- The same of a system in which no event or state is excluded. -/
theorem run_latched_of_forall (reg : σ → β) {g : α → β}
    (hstep : ∀ s e, reg (S.step s e) = ((f e).map g).getD (reg s)) (s : σ) (events : List ε) :
    reg (S.run s events) = ((latest f events).map g).getD (reg s) :=
  run_latched reg (I := fun _ ↦ True) (fun _ _ _ _ ↦ trivial) (fun s e _ _ ↦ hstep s e) trivial
    (fun _ _ ↦ trivial : ∀ e ∈ events, True)

end System
