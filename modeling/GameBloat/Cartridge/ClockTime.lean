import GameBloat.Cartridge.LatchedClock
import GameBloat.Library.DoWhile
import Mathlib.Algebra.Order.Ring.Int
import Mathlib.Data.Int.ModEq

/-!
# What the clock shows

`latchRTC` writes all five registers, and what it writes depends on nothing but the time: neither
on the base, which is what the program sets, nor on what the registers held.  `registersOf` says
what it writes, `elapsed` which number of seconds it takes apart.  The base ought to be subtracted
from the time, and is not; the overflow loop subtracts 511 days times 86400 instead of 512 days;
and the carry flag it sets is overwritten a few lines later.

The loop is a `do … while`, and that it ends is part of the statement.  Its rounds are counted:
`latchRounds` is their number, by a formula, and `latchLoop_ends` says that the body, iterated so
often, comes to a state in which the condition fails, and not earlier.  The library's `DoWhile` is
the relation for that, and does not presuppose termination.

Once the loop has subtracted too much, the number of seconds is negative, and C divides towards
zero: quotients and remainders get the sign of the dividend.  The digits are then negative, and
are shown 256 too high when they are cut to a byte (`Digits`, `clockSeconds_registersOf`).

* `latchRTC_clock`: what a latch writes, for any state and any time.
* `registersOf_inRange_iff`: the digits are in range if and only if none of them is negative.
* `decomposesTime_iff`: the registers are the time since the base, with a carry that is right,
  exactly if the base makes up for its being ignored (`BaseCompensates`).  That is an equation
  modulo 512 days between the base and the number of rounds, or, before the loop is entered at
  all, a base of 0.
-/

set_option autoImplicit false

namespace GameBloat

/-- The seconds in 512 days, after which the day counter starts again. -/
def clockPeriod : ℤ := 512 * daySeconds

/-- What the overflow loop subtracts in one round. -/
def overflowStep : ℤ := dayCounterOverflow * daySeconds

/-! ## The overflow loop -/

/-- The body of the loop, on `elapsedTime` and `baseTimestamp`. -/
def latchBody (s : ℤ × ℤ) : ℤ × ℤ := (s.1 - overflowStep, s.2 + overflowStep)

/-- The condition of the loop: more than one step is left. -/
def LatchAgain (s : ℤ × ℤ) : Prop := overflowStep < s.1

instance : DecidablePred LatchAgain := fun _ ↦ inferInstanceAs (Decidable (_ < _))

/-- The loop, one round at a time. -/
theorem latchLoop_eq (s : ℤ × ℤ) :
    latchLoop s.1 s.2 =
      if LatchAgain (latchBody s) then latchLoop (latchBody s).1 (latchBody s).2
      else latchBody s := by
  rw [latchLoop]
  rfl

/-- Any number of rounds. -/
theorem latchBody_iterate (n : ℕ) (s : ℤ × ℤ) :
    latchBody^[n] s = (s.1 - n * overflowStep, s.2 + n * overflowStep) := by
  induction n generalizing s with
  | zero => simp
  | succ n ih =>
    rw [Function.iterate_succ_apply, ih, latchBody, Nat.cast_succ, Int.add_mul, Int.one_mul]
    ext <;> simp only <;> omega

/-- How many rounds the loop takes.  It is entered at least once, and leaves no more than one
step. -/
def latchRounds (now : ℤ) : ℕ := (max 1 ((now - 1) / overflowStep)).toNat

/-- **The loop ends**, in the first round that leaves no more than one step. -/
theorem latchLoop_ends (now base : ℤ) :
    DoWhile latchBody LatchAgain (now, base) (latchRounds now)
      (now - latchRounds now * overflowStep, base + latchRounds now * overflowStep) := by
  have hstep : overflowStep = 3814594560000 := rfl
  obtain ⟨n, hn⟩ : ∃ n, latchRounds now = n + 1 := ⟨latchRounds now - 1, by
    rw [latchRounds]
    omega⟩
  have hagain (k : ℕ) : LatchAgain (latchBody^[k] (now, base)) ↔
      overflowStep < now - k * overflowStep := by
    rw [latchBody_iterate]
    exact Iff.rfl
  rw [hn, ← latchBody_iterate (n + 1) (now, base)]
  rw [latchRounds, hstep] at hn
  refine doWhile_iterate n (fun k hk ↦ (hagain _).2 ?_) fun hlast ↦ ?_
  · rw [hstep]
    omega
  · rw [hagain, hstep] at hlast
    omega

/-- The loop in closed form. -/
theorem latchLoop_closed (now base : ℤ) :
    latchLoop now base =
      (now - latchRounds now * overflowStep, base + latchRounds now * overflowStep) :=
  (latchLoop_ends now base).result (f := fun s ↦ latchLoop s.1 s.2) latchLoop_eq

/-- The seconds that a latch at the time `now` takes apart.  Up to 511 days the loop is not
entered.  What it takes off in a round is not the limit, but 86400 times as much, so that the
first round leaves a negative number unless the time is as large as that. -/
def elapsed (now : ℤ) : ℤ :=
  if dayCounterOverflow < now then now - latchRounds now * overflowStep else now

/-! ## The registers -/

/-- The registers that show `e` seconds. -/
def registersOf (e : ℤ) : ClockRegisters where
  seconds := .ofInt 8 (e.tmod 60)
  minutes := .ofInt 8 ((e.tmod 3600).tdiv 60)
  hours := .ofInt 8 ((e.tmod 86400).tdiv 3600)
  lowerDayCounter := .ofInt 8 (e.tdiv 86400)
  upperDayCounter := .ofInt 8 (e.tdiv 86400 / 256 % 2)

/-- The lower day counter is the lowest byte of the day count. -/
theorem lowByte_ofInt (x : ℤ) : ((BitVec.ofInt 64 x &&& 255).setWidth 8 : Byte) = .ofInt 8 x := by
  apply BitVec.eq_of_toNat_eq
  rw [BitVec.toNat_setWidth, BitVec.toNat_and, BitVec.toNat_ofInt, BitVec.toNat_ofInt,
    show (255 : BitVec 64).toNat = 2 ^ 8 - 1 from rfl, Nat.and_two_pow_sub_one_eq_mod]
  omega

/-- Bit 8 of the day count. -/
theorem bit8_ofInt (x : ℤ) :
    (((BitVec.ofInt 64 x &&& 256) >>> 8).setWidth 8 : Byte) = .ofInt 8 (x / 256 % 2) := by
  apply BitVec.eq_of_toNat_eq
  rw [BitVec.toNat_setWidth, BitVec.toNat_ushiftRight, BitVec.toNat_and, BitVec.toNat_ofInt,
    BitVec.toNat_ofInt, Nat.shiftRight_and_distrib, show (256 : BitVec 64).toNat >>> 8 = 1 from rfl,
    Nat.and_one_is_mod, Nat.shiftRight_eq_div_pow]
  omega

/-- **What a latch writes.** -/
theorem latchRTC_clock (s : MBC3State) (time : ℤ) :
    (latchRTC s time).clock = registersOf (elapsed (determineTimestamp s time)) := by
  have hminute (e : ℤ) : (e.tmod 86400).tmod 3600 = e.tmod 3600 :=
    Int.tmod_tmod_of_dvd e (by decide)
  have hsecond (e : ℤ) : (e.tmod 3600).tmod 60 = e.tmod 60 := Int.tmod_tmod_of_dvd e (by decide)
  unfold latchRTC
  rw [elapsed, ← determineTimestamp]
  by_cases h : dayCounterOverflow < determineTimestamp s time
  · simp only [h, if_true, latchLoop_closed, lowByte_ofInt, bit8_ofInt, daySeconds, hourSeconds,
      minuteSeconds, hminute, hsecond]
    rfl
  · simp only [h, if_false, lowByte_ofInt, bit8_ofInt, daySeconds, hourSeconds, minuteSeconds,
      hminute, hsecond]
    rfl

/-- What truncating division leaves of `e` seconds: digits that add up to `e` and have its sign. -/
structure Digits (e second minute hour day : ℤ) : Prop where
  total : e = second + 60 * minute + 3600 * hour + 86400 * day
  second_lt : -60 < second ∧ second < 60
  minute_lt : -60 < minute ∧ minute < 60
  hour_lt : -24 < hour ∧ hour < 24
  nonneg : 0 ≤ e → 0 ≤ second ∧ 0 ≤ minute ∧ 0 ≤ hour ∧ 0 ≤ day
  nonpos : e ≤ 0 → second ≤ 0 ∧ minute ≤ 0 ∧ hour ≤ 0 ∧ day ≤ 0

/-- Division towards zero does not mind the sign. -/
theorem Digits.neg {e second minute hour day : ℤ} (h : Digits e second minute hour day) :
    Digits (-e) (-second) (-minute) (-hour) (-day) := by
  obtain ⟨htotal, hsecond, hminute, hhour, hnonneg, hnonpos⟩ := h
  exact ⟨by omega, by omega, by omega, by omega, fun _ ↦ by omega, fun _ ↦ by omega⟩

/-- What division leaves is such digits. -/
theorem digits (e : ℤ) :
    Digits e (e.tmod 60) ((e.tmod 3600).tdiv 60) ((e.tmod 86400).tdiv 3600) (e.tdiv 86400) := by
  have hpos (e : ℤ) (h : 0 ≤ e) :
      Digits e (e.tmod 60) ((e.tmod 3600).tdiv 60) ((e.tmod 86400).tdiv 3600) (e.tdiv 86400) := by
    have hmod (b : ℤ) : e.tmod b = e % b := Int.tmod_eq_emod_of_nonneg h
    rw [hmod, hmod, hmod, Int.tdiv_eq_ediv_of_nonneg h,
      Int.tdiv_eq_ediv_of_nonneg (Int.emod_nonneg e (by decide)),
      Int.tdiv_eq_ediv_of_nonneg (Int.emod_nonneg e (by decide))]
    exact ⟨by omega, by omega, by omega, by omega, fun _ ↦ by omega, fun _ ↦ by omega⟩
  rcases Int.le_total 0 e with h | h
  · exact hpos e h
  · obtain ⟨k, rfl⟩ : ∃ k, e = -k := ⟨-e, (Int.neg_neg e).symm⟩
    simp only [Int.neg_tmod, Int.neg_tdiv]
    exact (hpos k (by omega)).neg

/-- The number of seconds that the registers show. -/
def clockSeconds (c : ClockRegisters) : ℕ :=
  c.seconds.toNat + 60 * c.minutes.toNat + 3600 * c.hours.toNat +
    86400 * (c.lowerDayCounter.toNat + 256 * (c.upperDayCounter &&& dayCounterMSB).toNat)

/-- Cutting a number to a byte. -/
theorem toNat_ofInt8 (x : ℤ) : ((BitVec.ofInt 8 x).toNat : ℤ) = x % 256 := by
  rw [BitVec.toNat_ofInt]
  omega

/-- The upper day counter holds bit 8 of the day count and nothing else. -/
theorem registersOf_upperDayCounter (e : ℤ) :
    (registersOf e).upperDayCounter = 0 ∨ (registersOf e).upperDayCounter = 1 := by
  rcases Int.emod_two_eq (e.tdiv 86400 / 256) with h | h
  · exact .inl (congrArg (BitVec.ofInt 8) h)
  · exact .inr (congrArg (BitVec.ofInt 8) h)

/-- A negative digit is shown 256 too high. -/
theorem clockSeconds_registersOf (e : ℤ) :
    (clockSeconds (registersOf e) : ℤ) = e.tmod 60 % 256 + 60 * ((e.tmod 3600).tdiv 60 % 256) +
      3600 * ((e.tmod 86400).tdiv 3600 % 256) + 86400 * (e.tdiv 86400 % 512) := by
  have hbit : (((registersOf e).upperDayCounter &&& dayCounterMSB).toNat : ℤ) =
      e.tdiv 86400 / 256 % 2 := by
    show (((BitVec.ofInt 8 (e.tdiv 86400 / 256 % 2) &&& dayCounterMSB : Byte).toNat : ℕ) : ℤ) = _
    rcases Int.emod_two_eq (e.tdiv 86400 / 256) with h | h <;> rw [h] <;> decide
  rw [clockSeconds]
  push_cast
  rw [hbit]
  simp only [registersOf, toNat_ofInt8]
  omega

/-! ## A latch as a decomposition of the time -/

/-- After a latch at `now`, the registers are a time of day and a day count that stand for the
seconds since the base, the carry flag tells whether the day count has overflowed, and the overflow
loop has come to an end. -/
def DecomposesTime (s : MBC3State) (now : ℤ) : Prop :=
  let c := (latchRTC s now).clock
  (c.seconds.toNat < 60 ∧ c.minutes.toNat < 60 ∧ c.hours.toNat < 24 ∧
      (clockSeconds c : ℤ) = (now - s.baseTimestamp) % clockPeriod) ∧
    (c.upperDayCounter &&& dayCounterCarryFlag ≠ 0 ↔ clockPeriod ≤ now - s.baseTimestamp) ∧
    ∃ n r, DoWhile latchBody LatchAgain (now, s.baseTimestamp) n r

/-- The base makes up for what the latch does wrong.  In the first case there is nothing to make
up for; in the second the base has to be what the rounds of the loop take off, up to whole periods
of the clock, and the digits must not come out negative. -/
def BaseCompensates (base now : ℤ) : Prop :=
  now - base < clockPeriod ∧
    (now ≤ dayCounterOverflow ∧ base = 0 ∨
      dayCounterOverflow < now ∧ (base - latchRounds now * (128 * daySeconds)) % clockPeriod = 0 ∧
        (overflowStep ≤ now ∨ now % daySeconds = 0))

instance (base now : ℤ) : Decidable (BaseCompensates base now) :=
  inferInstanceAs (Decidable (_ ∧ _))

/-- The digits are in range if none of them is negative. -/
theorem registersOf_inRange_iff (e : ℤ) :
    ((registersOf e).seconds.toNat < 60 ∧ (registersOf e).minutes.toNat < 60 ∧
      (registersOf e).hours.toNat < 24) ↔ 0 ≤ e ∨ e % 86400 = 0 := by
  have hdigits := digits e
  have hseconds := toNat_ofInt8 (e.tmod 60)
  have hminutes := toNat_ofInt8 ((e.tmod 3600).tdiv 60)
  have hhours := toNat_ofInt8 ((e.tmod 86400).tdiv 3600)
  simp only [registersOf]
  obtain ⟨htotal, hsecond, hminute, hhour, hnonneg, hnonpos⟩ := hdigits
  omega

/-- **When a latch decomposes the time.**  The registers show the seconds since the base only
where the base makes up for its being ignored: the latch takes the time itself apart, which begins
in 1970, and not what has gone by since the base. -/
theorem decomposesTime_iff {s : MBC3State} {now : ℤ}
    (hrunning : s.clock.upperDayCounter &&& haltFlag = 0) (hbase : 0 ≤ s.baseTimestamp)
    (hnow : s.baseTimestamp ≤ now) :
    DecomposesTime s now ↔ BaseCompensates s.baseTimestamp now := by
  have hclock : (latchRTC s now).clock = registersOf (elapsed now) := by
    rw [latchRTC_clock, determineTimestamp, if_neg (not_not.2 hrunning)]
  have hcarry : ¬(registersOf (elapsed now)).upperDayCounter &&& dayCounterCarryFlag ≠ 0 := by
    rcases registersOf_upperDayCounter (elapsed now) with h | h <;> rw [h] <;> decide
  have hends : ∃ n r, DoWhile latchBody LatchAgain (now, s.baseTimestamp) n r :=
    ⟨_, _, latchLoop_ends now s.baseTimestamp⟩
  have hrange := registersOf_inRange_iff (elapsed now)
  have hshown (h : 0 ≤ elapsed now ∨ elapsed now % 86400 = 0) :
      (clockSeconds (registersOf (elapsed now)) : ℤ) = elapsed now % clockPeriod := by
    obtain ⟨htotal, hsecond, hminute, hhour, hnonneg, hnonpos⟩ := digits (elapsed now)
    rw [clockSeconds_registersOf, show clockPeriod = 44236800 from rfl]
    omega
  have hrounds : latchRounds now = (max 1 ((now - 1) / 3814594560000)).toNat := rfl
  have helapsed : elapsed now =
      if 44150400 < now then now - latchRounds now * 3814594560000 else now := rfl
  simp only [DecomposesTime, hclock, hends, and_true, hcarry, false_iff, BaseCompensates,
    clockPeriod, dayCounterOverflow, overflowStep, daySeconds] at hshown ⊢
  constructor
  · rintro ⟨⟨hseconds, hminutes, hhours, hsum⟩, hperiod⟩
    have hinRange := hrange.1 ⟨hseconds, hminutes, hhours⟩
    rw [hshown hinRange] at hsum
    split at helapsed <;> omega
  · rintro ⟨hperiod, hcases⟩
    have hinRange : 0 ≤ elapsed now ∨ elapsed now % 86400 = 0 := by
      split at helapsed <;> omega
    obtain ⟨hseconds, hminutes, hhours⟩ := hrange.2 hinRange
    refine ⟨⟨hseconds, hminutes, hhours, ?_⟩, by omega⟩
    rw [hshown hinRange]
    split at helapsed <;> omega

/-- In November 2023, a second after the base, the registers hold no time. -/
theorem time_of_2023_not_decomposed :
    ¬DecomposesTime { Machine.powerOn.mbc3 with baseTimestamp := 1700000000 } 1700000001 := by
  rintro ⟨⟨hseconds, -⟩, -⟩
  rw [latchRTC_clock] at hseconds
  exact absurd hseconds (by decide +kernel)

/-- With the base at 0, a hundred seconds after the start of the epoch are shown as such. -/
theorem decomposesTime_iff_epoch : DecomposesTime Machine.powerOn.mbc3 100 :=
  (decomposesTime_iff (by decide) le_rfl (by decide)).2 (by decide +kernel)

end GameBloat
