import GameBloat.Library.System
import Mathlib.Data.Nat.Digits.Defs
import Mathlib.Data.Int.ModEq

/-!
# Arithmetic digit by digit

Numbers longer than a machine word are added, subtracted and shifted one digit at a time, with a
carry handed on from each digit to the next.

`lowDigits b n v` are the lowest `n` digits of an integer in base `b`, so that they stand for `v`
modulo `b ^ n`, whatever the sign of `v`.  Two systems compute such digits:

* `serialSum b d` goes from the lowest digit up.  Each event has a column sum, which may be any
  integer, and the carry is whatever does not stay in the column.  It covers addition, subtraction
  and doubling (`serialSum_history`, `serialSum_run`).
* `serialQuotient b k d` goes from the highest digit down, and divides by `k`
  (`serialQuotient_law`).

That the column sums are integers is what lets one system do for both addition and subtraction.  A
borrow is a carry of -1, and Lean's integer division rounds down, so the digit is the remainder
and the carry the quotient in both cases, without a case distinction on the sign.

A digit-serial computation is a system, so that it can be compared step by step with one that
makes mistakes, and its outputs are the digits in the order in which they are computed.  The
specification does not mention a machine word; an implementation in words of so many bits is
compared with it by giving `b` its value and encoding the digits.
-/

set_option autoImplicit false

variable {ε : Type*} (b : ℕ)

/-! ## Digits -/

/-- The lowest `n` digits of an integer, the least significant first.  For a negative integer the
digits are those of its complement, as integer division rounds down. -/
def lowDigits : ℕ → ℤ → List ℕ
  | 0, _ => []
  | n + 1, v => (v % b).toNat :: lowDigits n (v / b)

variable {b}

@[simp] theorem length_lowDigits (n : ℕ) (v : ℤ) : (lowDigits b n v).length = n := by
  induction n generalizing v with
  | zero => rfl
  | succ n ih => exact congrArg (· + 1) (ih _)

/-- A multiple of `b ^ n` does not show in the lowest `n` digits. -/
theorem lowDigits_add_mul (hb : 0 < b) (n : ℕ) (v w : ℤ) :
    lowDigits b n (v + b ^ n * w) = lowDigits b n v := by
  have hb' : (b : ℤ) ≠ 0 := by omega
  induction n generalizing v with
  | zero => rfl
  | succ n ih =>
    have hsplit : v + (b : ℤ) ^ (n + 1) * w = v + b * (b ^ n * w) := by
      rw [Int.pow_succ, Int.mul_comm (_ ^ n), Int.mul_assoc]
    rw [lowDigits, lowDigits, hsplit, Int.add_mul_emod_self_left,
      Int.add_mul_ediv_left _ _ hb', ih]

theorem lowDigits_emod (hb : 0 < b) (n : ℕ) (v : ℤ) :
    lowDigits b n (v % b ^ n) = lowDigits b n v := by
  have h := lowDigits_add_mul hb n (v % b ^ n) (v / b ^ n)
  rwa [Int.emod_add_mul_ediv, eq_comm] at h

/-! ## From the lowest digit up -/

variable (b) in
/-- The number whose digit for the event `e` is `d e`, with the lowest digit first; the digits may
be any integers.  For digits in range it is `Nat.ofDigits`. -/
def columns (d : ε → ℤ) (events : List ε) : ℤ := events.foldr (fun e v ↦ d e + b * v) 0

theorem columns_natCast (d : ε → ℕ) (events : List ε) :
    columns b (fun e ↦ d e) events = Nat.ofDigits b (events.map d) := by
  induction events with
  | nil => rfl
  | cons e events ih => exact (congrArg (_ + _ * ·) ih).trans (by push_cast; rfl)

variable (b) in
/-- Column sums, each with a carry from the column before.  The state is the carry, and the output
the digit that stays in the column. -/
def serialSum (d : ε → ℤ) : System ℤ ε ℕ where
  step carry e := (d e + carry) / b
  out carry e := [((d e + carry) % b).toNat]

section

variable (d : ε → ℤ) (hb : 0 < b)

include hb

/-- A column, with what the columns below it carry. -/
theorem columns_cons (carry : ℤ) (e : ε) (events : List ε) :
    (columns b d (e :: events) + carry) % b = (d e + carry) % b ∧
      (columns b d (e :: events) + carry) / b =
        columns b d events + (serialSum b d).step carry e := by
  have hb' : (b : ℤ) ≠ 0 := by omega
  have hsplit : columns b d (e :: events) + carry = d e + carry + b * columns b d events := by
    rw [columns, List.foldr_cons, Int.add_right_comm]
    rfl
  rw [hsplit, Int.add_mul_emod_self_left, Int.add_mul_ediv_left _ _ hb']
  exact ⟨rfl, Int.add_comm _ _⟩

/-- The digits that come out are the lowest digits of the whole number, with the carry that went
in. -/
theorem serialSum_history (carry : ℤ) (events : List ε) :
    (serialSum b d).history carry events =
      lowDigits b events.length (columns b d events + carry) := by
  induction events generalizing carry with
  | nil => rfl
  | cons e events ih =>
    obtain ⟨hmod, hdiv⟩ := columns_cons d hb carry e events
    rw [System.history, ih, List.length_cons, lowDigits, hmod, hdiv]
    rfl

/-- The carry at the end is what the digits leave out. -/
theorem serialSum_run (carry : ℤ) (events : List ε) :
    (serialSum b d).run carry events = (columns b d events + carry) / b ^ events.length := by
  induction events generalizing carry with
  | nil => exact ((Int.ediv_one _).trans (Int.zero_add carry)).symm
  | cons e events ih =>
    obtain ⟨-, hdiv⟩ := columns_cons d hb carry e events
    have hrun : (serialSum b d).run carry (e :: events) =
        (serialSum b d).run ((serialSum b d).step carry e) events := rfl
    rw [hrun, ih, ← hdiv, Int.ediv_ediv_of_nonneg (Int.natCast_nonneg b), List.length_cons,
      Int.pow_succ, Int.mul_comm (b : ℤ)]

end

/-! ## From the highest digit down -/

variable (b) in
/-- Long division by `k`: the state is the remainder so far. -/
def serialQuotient (k : ℕ) (d : ε → ℕ) : System ℕ ε ℕ where
  step rest e := (b * rest + d e) % k
  out rest e := [(b * rest + d e) / k]

theorem lowDigits_succ_natCast (n v : ℕ) :
    lowDigits b (n + 1) (v : ℤ) = v % b :: lowDigits b n ((v / b : ℕ) : ℤ) := rfl

/-- **Long division.**  With the highest digit first, the outputs are the digits of the quotient
and the last state is the remainder.  The remainder that goes in stands for a digit above the
highest. -/
theorem serialQuotient_law {k : ℕ} {d : ε → ℕ} (hd : ∀ e, d e < b) {rest : ℕ} (hrest : rest < k)
    (events : List ε) :
    let total := b ^ events.length * rest + Nat.ofDigits b (events.map d).reverse
    ((serialQuotient b k d).history rest events).reverse =
        lowDigits b events.length ((total / k : ℕ) : ℤ) ∧
      (serialQuotient b k d).run rest events = total % k := by
  induction events using List.reverseRecOn with
  | nil =>
    have hmod : rest % k = rest := Nat.mod_eq_of_lt hrest
    exact ⟨rfl, by simpa [System.run] using hmod.symm⟩
  | append_singleton events e ih =>
    obtain ⟨hhistory, hrun⟩ := ih
    have he := hd e
    let total := b ^ events.length * rest + Nat.ofDigits b (events.map d).reverse
    let low := b * (total % k) + d e
    have htotal : b ^ (events ++ [e]).length * rest +
        Nat.ofDigits b ((events ++ [e]).map d).reverse = b * total + d e := by
      rw [List.map_append, List.reverse_append, List.length_append, List.length_singleton,
        Nat.pow_succ, Nat.mul_comm _ b, Nat.mul_assoc, Nat.mul_add]
      show _ + (d e + b * Nat.ofDigits b (events.map d).reverse) = _
      omega
    -- the quotient so far moves up, and the last digit is what `low` gives
    have hsplit : b * total + d e = low + k * (b * (total / k)) := by
      have hdiv := Nat.mod_add_div total k
      have : b * total = b * (total % k) + k * (b * (total / k)) := by
        rw [Nat.mul_left_comm, ← Nat.mul_add, hdiv]
      omega
    have hk : 0 < k := by omega
    have hlow : low / k < b := by
      have hmod := Nat.mod_lt total hk
      have hle : b * (total % k) + b ≤ b * k := Nat.mul_le_mul_left b hmod
      exact Nat.div_lt_of_lt_mul (by rw [Nat.mul_comm]; omega)
    have hquot : (b * total + d e) / k = low / k + b * (total / k) := by
      rw [hsplit, Nat.add_mul_div_left _ _ hk]
    have hone : (serialQuotient b k d).history ((serialQuotient b k d).run rest events) [e] =
        [low / k] := by
      rw [hrun]
      rfl
    dsimp only
    rw [System.history_append, hone, List.reverse_append, hhistory, System.run_append, hrun, htotal]
    constructor
    · rw [hquot, List.length_append, List.length_singleton, lowDigits_succ_natCast,
        Nat.add_mul_mod_self_left, Nat.mod_eq_of_lt hlow, Nat.add_mul_div_left _ _ (by omega),
        Nat.div_eq_of_lt hlow, Nat.zero_add]
      rfl
    · rw [hsplit, Nat.add_mul_mod_self_left]
      rfl
