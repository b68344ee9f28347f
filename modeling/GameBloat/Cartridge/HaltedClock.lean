import GameBloat.Cartridge.ClockTime

/-!
# Halting the clock

A program halts the clock by setting bit 6 of the upper day counter, and lets it go on by clearing
the bit.  The write compares the new value with the bit of the register and takes a timestamp, but
it does not store the bit: the five registers change only when they are latched.  So the clock is
never halted (`mbc3_run_unflagged`), and all latches show the time there is.

`Halt` is a run in which the clock is halted and set going again.  `Halt.stops_iff` says that the
halt is a halt only for those who do not look in between; afterwards the clock shows too much by
the time it was to stand still, unless it happens to be off by as much for another reason.

A `Halt` carries its conditions as fields: the two writes do reach the upper day counter, in the
states in which they are made, with the halt bit set in the first and clear in the second; between
them that register is not written again, and after the second no register of the clock is.  Apart
from that the calls before, in between and afterwards are arbitrary.  What is asked of it
(`Halt.Stops`) has three parts, about latches: until the clock is set going they show the time of
the halt and the halt bit; afterwards they show that time and what has passed since; and no latch
clears a flag.

The invariant is `Unflagged`, that neither flag is ever set in the register.  It makes the third
part trivial and the first impossible, as soon as anything is latched.  What is left is arithmetic
modulo 512 days: `skew` is by how much the clock is fast at some time, and the halt goes unnoticed
exactly if the skew at the halt and at a later latch differ by the length of the halt
(`Halt.Absorbs`).  In the first 511 days there is no skew, and the halt would have to last a
multiple of 512 days (`Halt.absorbs_iff_of_le`).
-/

set_option autoImplicit false

namespace GameBloat

/-! ## The clock is never halted -/

/-- The upper day counter holds bit 8 of the day, and neither of the two flags. -/
def Unflagged (s : Cartridge × MBC3State) : Prop :=
  s.2.clock.upperDayCounter = 0 ∨ s.2.clock.upperDayCounter = 1

/-- A clock that is not halted reads the time. -/
theorem Unflagged.determineTimestamp {s : Cartridge × MBC3State} (h : Unflagged s) (time : ℤ) :
    determineTimestamp s.2 time = time := by
  rw [GameBloat.determineTimestamp]
  rcases h with h | h <;> rw [h] <;> exact if_neg (by decide)

/-- What a latch shows. -/
theorem Unflagged.latchRTC_clock {s : Cartridge × MBC3State} (h : Unflagged s) (time : ℤ) :
    (latchRTC s.2 time).clock = registersOf (elapsed time) := by
  rw [GameBloat.latchRTC_clock, h.determineTimestamp]

/-- No call sets a flag: the writes do not store the byte, and a latch writes bit 8 of the day
only. -/
theorem Unflagged.step {s : Cartridge × MBC3State} (h : Unflagged s) (call : MBC3Call) :
    Unflagged (mbc3.step s call) := by
  rw [Unflagged, mbc3_step_clock]
  cases latchTime s.2 call with
  | none => exact h
  | some time =>
    rw [Option.map_some, Option.getD_some, h.latchRTC_clock]
    exact registersOf_upperDayCounter _

/-- **The clock is never halted**, and it never carries. -/
theorem mbc3_run_unflagged {s : Cartridge × MBC3State} (h : Unflagged s) (calls : List MBC3Call) :
    Unflagged (mbc3.run s calls) :=
  System.run_invariant (I := Unflagged) (fun _ call _ hs ↦ hs.step call) h
    (fun _ _ ↦ trivial : ∀ call ∈ calls, True)

/-- A latch at `time` leaves the registers that show it. -/
theorem Unflagged.step_clock {s : Cartridge × MBC3State} (h : Unflagged s) {call : MBC3Call}
    {time : ℤ} (htime : latchTime s.2 call = some time) :
    (mbc3.step s call).2.clock = registersOf (elapsed time) := by
  rw [mbc3_step_clock, htime]
  exact h.latchRTC_clock time

/-! ## What is shown, and what the time is -/

/-- What the registers show too much of `e` seconds: 256 for every digit that is negative. -/
def borrowed (e : ℤ) : ℤ :=
  256 * ((if e.tmod 60 < 0 then 1 else 0) + 60 * (if (e.tmod 3600).tdiv 60 < 0 then 1 else 0) +
    3600 * (if (e.tmod 86400).tdiv 3600 < 0 then 1 else 0))

/-- By how much the clock is fast at the time `t`: not at all in the first 511 days.  Later on it
is what the loop has subtracted, and what the digits show too much. -/
def skew (t : ℤ) : ℤ := elapsed t - t + borrowed (elapsed t)

/-- What the registers show, modulo the period of the day counter. -/
theorem clockSeconds_modEq (e : ℤ) :
    (clockSeconds (registersOf e) : ℤ) ≡ e + borrowed e [ZMOD clockPeriod] := by
  have hperiod : clockPeriod = 44236800 := rfl
  obtain ⟨htotal, hsecond, hminute, hhour, -, -⟩ := digits e
  rw [clockSeconds_registersOf, borrowed, Int.ModEq, hperiod]
  split_ifs <;> omega

/-- In the first 511 days the clock is right. -/
theorem skew_of_le {t : ℤ} (h : 0 ≤ t) (hlt : t ≤ dayCounterOverflow) : skew t = 0 := by
  obtain ⟨-, -, -, -, hnonneg, -⟩ := digits t
  have helapsed : elapsed t = t := if_neg (by omega)
  rw [skew, helapsed, borrowed]
  split_ifs <;> omega

/-! ## Halts -/

/-- The register of the clock that a call writes to through the window, the time and the value. -/
def registerWrite (s : MBC3State) : MBC3Call → Option (Byte × ℤ × Byte)
  | .write time memAddr value =>
    if (0xA000 ≤ memAddr.toNat ∧ memAddr.toNat ≤ 0xBFFF) ∧ s.RAM_TimerEnable ≠ 0 ∧
        s.RTCAccessMode = mbc3RtcMode then
      some (s.RTCRegisterSelect, time, value)
    else none
  | .read _ => none

/-- A run in which the upper day counter is written with the halt bit set, and then with the halt
bit clear; after that no register of the clock is written to any more.  What comes before, between
and after these two writes is any calls of the two functions, at any times. -/
structure Halt where
  cartridge : Cartridge
  pre : List MBC3Call
  halting : MBC3Call
  mid : List MBC3Call
  resuming : MBC3Call
  post : List MBC3Call
  haltTime : ℤ
  haltValue : Byte
  resumeTime : ℤ
  resumeValue : Byte
  hhalting : registerWrite (mbc3.run (cartridge, Machine.powerOn.mbc3) pre).2 halting =
    some (rtcDayUpper, haltTime, haltValue)
  hhaltValue : haltValue &&& haltFlag ≠ 0
  hmid : mbc3.Along
    (fun s call ↦ ∀ time value, registerWrite s.2 call ≠ some (rtcDayUpper, time, value))
    (mbc3.run (cartridge, Machine.powerOn.mbc3) (pre ++ [halting])) mid
  hresuming : registerWrite
      (mbc3.run (cartridge, Machine.powerOn.mbc3) (pre ++ [halting] ++ mid)).2 resuming =
    some (rtcDayUpper, resumeTime, resumeValue)
  hresumeValue : resumeValue &&& haltFlag = 0
  hle : haltTime ≤ resumeTime
  hpost : mbc3.Along (fun s call ↦ registerWrite s.2 call = none)
    (mbc3.run (cartridge, Machine.powerOn.mbc3) (pre ++ [halting] ++ mid ++ [resuming])) post

namespace Halt

variable (h : Halt)

/-- The state from which the run starts, with the controller as it is at power-on. -/
def start : Cartridge × MBC3State := (h.cartridge, Machine.powerOn.mbc3)

/-- The state in which the clock has been halted. -/
def halted : Cartridge × MBC3State := mbc3.run h.start (h.pre ++ [h.halting])

/-- The state in which it has been set going again. -/
def resumed : Cartridge × MBC3State :=
  mbc3.run h.start (h.pre ++ [h.halting] ++ h.mid ++ [h.resuming])

/-- The registers as they would be latched at the time of the halt. -/
def shown : ClockRegisters := (latchRTC h.halted.2 h.haltTime).clock

/-- A latch before the clock is set going yields the time of day and the day of the halt, and the
halt bit. -/
def ShowsHalt (s : Cartridge × MBC3State) (call : MBC3Call) : Prop :=
  ∀ time, latchTime s.2 call = some time →
    clockSeconds (mbc3.step s call).2.clock = clockSeconds h.shown ∧
      (mbc3.step s call).2.clock.upperDayCounter &&& haltFlag ≠ 0

/-- A latch after that yields the time of the halt and what has passed since it was set going. -/
def ShowsAdvance (s : Cartridge × MBC3State) (call : MBC3Call) : Prop :=
  ∀ time, latchTime s.2 call = some time → h.resumeTime ≤ time →
    (clockSeconds (mbc3.step s call).2.clock : ℤ) ≡
      clockSeconds h.shown + (time - h.resumeTime) [ZMOD clockPeriod]

/-- A latch leaves the halt bit and the carry as they are, if they are set. -/
def KeepsFlags (s : Cartridge × MBC3State) (call : MBC3Call) : Prop :=
  latchTime s.2 call ≠ none → ∀ flag ∈ [haltFlag, dayCounterCarryFlag],
    s.2.clock.upperDayCounter &&& flag ≠ 0 →
      (mbc3.step s call).2.clock.upperDayCounter &&& flag ≠ 0

/-- The clock stands still from the halt until it is set going: a latch in between shows the time
of the halt, a latch afterwards shows as much more as has gone by since it was set going, and no
latch loses the halt bit or the carry. -/
structure Stops : Prop where
  mid : mbc3.Along h.ShowsHalt h.halted h.mid
  post : mbc3.Along h.ShowsAdvance h.resumed h.post
  flags : mbc3.Along KeepsFlags h.start
    (h.pre ++ [h.halting] ++ h.mid ++ [h.resuming] ++ h.post)

/-- A latch after the clock is set going finds it fast by as much less than at the time of the halt
as the halt lasted. -/
def Absorbs (s : Cartridge × MBC3State) (call : MBC3Call) : Prop :=
  ∀ time, latchTime s.2 call = some time → h.resumeTime ≤ time →
    h.resumeTime - h.haltTime ≡ skew h.haltTime - skew time [ZMOD clockPeriod]

theorem start_unflagged : Unflagged h.start := .inl rfl

theorem halted_unflagged : Unflagged h.halted := mbc3_run_unflagged h.start_unflagged _

theorem resumed_unflagged : Unflagged h.resumed := mbc3_run_unflagged h.start_unflagged _

/-- What is shown at the time of the halt. -/
theorem shown_eq : h.shown = registersOf (elapsed h.haltTime) :=
  h.halted_unflagged.latchRTC_clock _

variable {h} {s : Cartridge × MBC3State}

/-- No latch shows the halt bit. -/
theorem showsHalt_iff (call : MBC3Call) (hs : Unflagged s) :
    h.ShowsHalt s call ↔ latchTime s.2 call = none := by
  constructor
  · intro hshows
    cases htime : latchTime s.2 call with
    | none => rfl
    | some time =>
      have hhalt := (hshows time htime).2
      rcases hs.step call with hnext | hnext <;> rw [hnext] at hhalt <;>
        exact absurd hhalt (by decide)
  · intro hnone time htime
    rw [hnone] at htime
    cases htime

/-- A latch after the clock has been set going shows what it should if the length of the halt is
absorbed. -/
theorem showsAdvance_iff (call : MBC3Call) (hs : Unflagged s) :
    h.ShowsAdvance s call ↔ h.Absorbs s call := by
  refine forall_congr' fun time ↦ forall_congr' fun htime ↦ forall_congr' fun _ ↦ ?_
  have hshown := clockSeconds_modEq (elapsed time)
  have hhalt := clockSeconds_modEq (elapsed h.haltTime)
  rw [hs.step_clock htime, shown_eq, skew, skew]
  simp only [Int.ModEq, show clockPeriod = 44236800 from rfl] at hshown hhalt ⊢
  omega

/-- There are no flags to keep. -/
theorem keepsFlags (call : MBC3Call) (hs : Unflagged s) : KeepsFlags s call := by
  intro _ flag hflag hset
  have hclear : ∀ flag ∈ [haltFlag, dayCounterCarryFlag],
      (0 : Byte) &&& flag = 0 ∧ (1 : Byte) &&& flag = 0 := by decide
  rcases hs with hs | hs <;> rw [hs] at hset
  · exact absurd (hclear flag hflag).1 hset
  · exact absurd (hclear flag hflag).2 hset

/-- **When a halt stops the clock**: if nothing is latched before the clock is set going again,
and whatever is latched after that, absorbs what the clock has gone on by.  The condition is about
the times of the latches and not about what they show. -/
theorem stops_iff (h : Halt) :
    h.Stops ↔ mbc3.Along (fun s call ↦ latchTime s.2 call = none) h.halted h.mid ∧
      mbc3.Along h.Absorbs h.resumed h.post := by
  have hstep : ∀ s call, Unflagged s → Unflagged (mbc3.step s call) := fun _ call hs ↦ hs.step call
  have hmid := System.along_congr hstep (fun _ call ↦ showsHalt_iff (h := h) call)
    h.halted_unflagged h.mid
  have hpost := System.along_congr hstep (fun _ call ↦ showsAdvance_iff (h := h) call)
    h.resumed_unflagged h.post
  have hflags := System.along_of_invariant hstep (fun _ call ↦ keepsFlags call) h.start_unflagged
    (h.pre ++ [h.halting] ++ h.mid ++ [h.resuming] ++ h.post)
  exact ⟨fun hs ↦ ⟨hmid.1 hs.mid, hpost.1 hs.post⟩, fun hs ↦ ⟨hmid.2 hs.1, hpost.2 hs.2, hflags⟩⟩

/-- In the first 511 days, what the clock has gone on by is the length of the halt, and is absorbed
only if that is a multiple of 512 days. -/
theorem absorbs_iff_of_le {call : MBC3Call} {time : ℤ} (htime : latchTime s.2 call = some time)
    (hle : h.resumeTime ≤ time) (hstart : 0 ≤ h.haltTime) (hlt : time ≤ dayCounterOverflow) :
    h.Absorbs s call ↔ h.resumeTime - h.haltTime ≡ 0 [ZMOD clockPeriod] := by
  have hhalt := h.hle
  have hskew : skew h.haltTime - skew time = 0 := by
    rw [skew_of_le (by omega) (by omega), skew_of_le (by omega) hlt, Int.sub_zero]
  constructor
  · intro habsorbs
    rw [← hskew]
    exact habsorbs time htime hle
  · intro hperiod time' htime' _
    obtain rfl : time = time' := Option.some.inj (htime.symm.trans htime')
    rwa [hskew]

/-- The clock is halted ten seconds after the start of the epoch, and set going twenty seconds
later; in between, it is latched. -/
def tenToThirty : Halt where
  cartridge := Machine.powerOn.cartridge
  pre := [.write 0 0x0000 0x0A, .write 0 0x4000 0x0C]
  halting := .write 10 0xA000 0x40
  mid := [.write 20 0x6000 0x00, .write 20 0x6000 0x01]
  resuming := .write 30 0xA000 0x00
  post := []
  haltTime := 10
  haltValue := 0x40
  resumeTime := 30
  resumeValue := 0x00
  hhalting := rfl
  hhaltValue := by decide
  hmid := ⟨fun _ _ ↦ by simp [registerWrite], fun _ _ ↦ by simp [registerWrite], trivial⟩
  hresuming := rfl
  hresumeValue := rfl
  hle := by decide
  hpost := trivial

/-- The latch shows 20 seconds past, and no halt bit. -/
theorem tenToThirty_not_stops : ¬tenToThirty.Stops := by
  intro hs
  obtain ⟨-, hlatch, -⟩ := hs.mid
  exact absurd (hlatch 20 rfl).2 (by decide +kernel)

end Halt

end GameBloat
