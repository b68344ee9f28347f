import GameBloat.Library.Latch

/-!
# Requests that are answered

One part of a system makes requests, another sees them and takes note by a `mark`.  The request is
lost if it comes after the last answer and before the mark.  `Settled` says that this does not
happen in a history.

A state is in the window if it has the answer behind it and the mark ahead.

* `System.settled_along`: no request is lost that comes outside the window.
* `System.exists_not_settled`: a request that comes inside is lost as soon as the system gets
  round to the mark.

The pattern is that of a flag between two threads.  One sets it; the other tests it, acts on it,
and clears it afterwards.  A request that is made between the test and the clearing is cleared
without having been seen.  In the history of such a system the test that finds the flag set, with
the action on it, is the answer, and the clearing is the mark; and the state in which the answer
has been given and the flag not yet cleared is the window.

Both theorems are about runs.  The first is a condition under which every run is settled.  The
second starts from a request inside the window and needs the system to be able to go on to the
mark by itself: a measure that decreases with each of its own steps says that it gets there.
-/

set_option autoImplicit false

variable {σ ε γ : Type*} [DecidableEq γ]

/-- Whether an output makes the request, or answers it. -/
def request (ask : γ) (answers : List γ) (x : γ) : Option Bool :=
  if x = ask then some true else if x ∈ answers then some false else none

/-- The request has been made, and not been answered since. -/
def Pending (ask : γ) (answers h : List γ) : Prop := latest (request ask answers) h = some true

/-- The request is never pending when the mark comes. -/
def Settled (ask : γ) (answers : List γ) (mark : γ) (h : List γ) : Prop :=
  ∀ u v, h = u ++ mark :: v → ¬Pending ask answers u

variable {ask mark : γ} {answers : List γ}

theorem not_pending_nil : ¬Pending ask answers [] := Option.some_ne_none true ∘ Eq.symm

theorem pending_append_ask (h : List γ) : Pending ask answers (h ++ [ask]) := by
  rw [Pending, latest_append_singleton, request, if_pos rfl]
  rfl

/-- An output other than the request leaves it pending unless it is an answer. -/
theorem pending_append_iff (h : List γ) {x : γ} (hask : x ≠ ask) :
    Pending ask answers (h ++ [x]) ↔ x ∉ answers ∧ Pending ask answers h := by
  rw [Pending, latest_append_singleton, request, if_neg hask, Pending]
  by_cases hanswer : x ∈ answers <;> simp [hanswer]

theorem settled_nil : Settled ask answers mark [] := fun u v h ↦ absurd h (by simp)

theorem settled_append_singleton {h : List γ} {x : γ} :
    Settled ask answers mark (h ++ [x]) ↔
      Settled ask answers mark h ∧ (x = mark → ¬Pending ask answers h) := by
  constructor
  · intro hsettled
    refine ⟨fun u v huv ↦ hsettled u (v ++ [x]) (by rw [huv]; simp), ?_⟩
    rintro rfl
    exact hsettled h [] rfl
  · rintro ⟨hsettled, hlast⟩ u v huv
    rcases List.eq_nil_or_concat v with rfl | ⟨v, y, rfl⟩
    · obtain ⟨rfl, hx⟩ := List.append_inj' huv rfl
      exact hlast (List.singleton_inj.1 hx)
    · rw [List.concat_eq_append, ← List.cons_append, ← List.append_assoc] at huv
      exact hsettled u v (List.append_inj' huv rfl).1

namespace System

variable {S : System σ ε γ} {P : σ → ε → Prop} {W : σ → Prop}

/-- **Requests outside the window are not lost.**  If no request is made where it would be inside
the window, the window is entered with an answer only, and the mark comes from inside, then no
request is pending when the mark comes.  The invariant is that inside the window nothing is
pending. -/
theorem settled_along (hone : ∀ s e, S.out s e = [] ∨ ∃ x, S.out s e = [x])
    (hask : ∀ s e, P s e → ask ∈ S.out s e → ¬W (S.step s e))
    (henter : ∀ s e, W (S.step s e) → W s ∨ ∃ x ∈ S.out s e, x ∈ answers)
    (hmark : ∀ s e, mark ∈ S.out s e → W s) {s : σ} {events : List ε} (h : S.Along P s events) :
    Settled ask answers mark (S.history s events) := by
  have hrun := history_invariant_along (S := S) (P := P)
    (I := fun s h ↦ (W s → ¬Pending ask answers h) ∧ Settled ask answers mark h) ?_
    ⟨fun _ ↦ not_pending_nil, settled_nil⟩ h
  · exact hrun.2
  rintro s h e he ⟨hwindow, hsettled⟩
  rcases hone s e with hout | ⟨x, hout⟩
  · rw [hout, List.append_nil]
    refine ⟨fun hW ↦ hwindow ?_, hsettled⟩
    rcases henter s e hW with hs | ⟨x, hx, -⟩
    · exact hs
    · rw [hout] at hx
      cases hx
  · have hmem {y : γ} : y ∈ S.out s e ↔ x = y := by rw [hout, List.mem_singleton, eq_comm]
    rw [hout, settled_append_singleton]
    refine ⟨fun hW ↦ ?_, hsettled, fun hx ↦ hwindow (hmark s e (hmem.2 hx))⟩
    by_cases hx : x = ask
    · exact absurd hW (hask s e he (hmem.2 hx))
    rw [pending_append_iff h hx]
    rintro ⟨hanswer, hpending⟩
    rcases henter s e hW with hs | ⟨y, hy, hyanswer⟩
    · exact hwindow hs hpending
    · exact hanswer (hmem.1 hy ▸ hyanswer)

variable {tick : ε} {μ : σ → ℕ}

/-- A pending request is lost if the system goes on from inside the window to the mark. -/
theorem exists_not_settled_of_pending (hone : ∀ s e, S.out s e = [] ∨ ∃ x, S.out s e = [x])
    (hdown : ∀ s, W s → mark ∈ S.out s tick ∨
      (W (S.step s tick) ∧ μ (S.step s tick) < μ s ∧ ∀ x ∈ S.out s tick, x ∉ answers))
    {s : σ} (hs : W s) {h : List γ} (hpending : Pending ask answers h) :
    ∃ n, ¬Settled ask answers mark (h ++ S.history s (List.replicate n tick)) := by
  induction hn : μ s using Nat.strongRecOn generalizing s h with
  | ind n ih =>
    rcases hdown s hs with hmark | ⟨hW, hμ, hquiet⟩
    · have hout : S.history s (List.replicate 1 tick) = [mark] := by
        rcases hone s tick with hout | ⟨x, hout⟩ <;>
          rw [hout] at hmark
        · cases hmark
        · rw [List.mem_singleton.1 hmark]
          exact (List.append_nil _).trans hout
      refine ⟨1, fun hsettled ↦ ?_⟩
      rw [hout] at hsettled
      exact hsettled h [] rfl hpending
    · have hstill : Pending ask answers (h ++ S.out s tick) := by
        rcases hone s tick with hout | ⟨x, hout⟩ <;>
          rw [hout] at hquiet ⊢
        · rwa [List.append_nil]
        · by_cases hx : x = ask
          · exact hx ▸ pending_append_ask h
          · exact (pending_append_iff h hx).2 ⟨hquiet x (List.mem_singleton_self x), hpending⟩
      obtain ⟨k, hk⟩ := ih _ (hn ▸ hμ) hW hstill rfl
      refine ⟨k + 1, ?_⟩
      rwa [List.append_assoc] at hk

/-- **Requests inside the window are lost**, if the system goes on to the mark. -/
theorem exists_not_settled (hone : ∀ s e, S.out s e = [] ∨ ∃ x, S.out s e = [x])
    (hdown : ∀ s, W s → mark ∈ S.out s tick ∨
      (W (S.step s tick) ∧ μ (S.step s tick) < μ s ∧ ∀ x ∈ S.out s tick, x ∉ answers))
    {s : σ} {events : List ε} {e : ε} (hask : S.out (S.run s events) e = [ask])
    (hW : W (S.step (S.run s events) e)) :
    ∃ n, ¬Settled ask answers mark
      (S.history s (events ++ [e] ++ List.replicate n tick)) := by
  obtain ⟨n, hn⟩ := exists_not_settled_of_pending hone hdown hW
    (pending_append_ask _ : Pending ask answers (S.history s events ++ [ask]))
  have hhistory : S.history s (events ++ [e]) = S.history s events ++ [ask] := by
    rw [history_append, ← hask]
    exact congrArg _ (List.append_nil _)
  refine ⟨n, ?_⟩
  rwa [history_append, hhistory, run_append]

end System
