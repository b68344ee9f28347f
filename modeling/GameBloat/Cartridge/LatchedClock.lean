import GameBloat.Cartridge.BankRegisters

/-!
# The latched clock

A program reads the clock of MBC3 through five registers, and what they hold is not the time but
the time of the last latch.  `mbc3` is the controller as a system, whose events are the calls of
its two functions at any times; `mbc3_clock_latched` says when a call can change the five
registers.

The sequence 0x00, 0x01 that latches is remembered across everything a program may do in between.
`mbc3` therefore emits the values written to the latch register, so that the last one can be read
off its history.

A write to the latch register counts only while a register of the clock is selected.  Whether it
does depends on the state in which it is made, and this is why the values are outputs of the
system and not simply the writes of the list of calls.  With that, the sequence in the state is
the last output (`mbc3_run_LatchClockSequence`), by the library's rule for a variable that keeps
what is emitted last.

The times of the calls are arbitrary integers and need not increase: that the registers are stable
does not depend on it.  A call of `MBC3_ReadByte` is an event too, and changes nothing.
-/

set_option autoImplicit false

namespace GameBloat

/-- A call of `MBC3_WriteByte`, with what `time(NULL)` returns during it, or of `MBC3_ReadByte`. -/
inductive MBC3Call
  | write (time : ℤ) (memAddr : Word) (value : Byte)
  | read (memAddr : Word)

/-- The value that a call writes to the latch register, at 0x6000–0x7FFF.  A write is noticed only
while a register of the clock is selected. -/
def latchWrite (s : MBC3State) : MBC3Call → Option Byte
  | .write _ memAddr value =>
    if s.RTCAccessMode = mbc3RtcMode then writtenTo 0x6000 0x7FFF memAddr value else none
  | .read _ => none

/-- The controller, driven by the calls of its functions.  It emits the values written to the
latch register, as far as they are noticed.  The cartridge is part of the state because the
controller stores to its RAM; reading changes neither. -/
def mbc3 : System (Cartridge × MBC3State) MBC3Call Byte where
  step s
    | .write time memAddr value => (mbc3WriteByte s.1 s.2 time memAddr value).1
    | .read _ => s
  out s call := (latchWrite s.2 call).toList

/-- The time at which a call latches, if it does: the sequence is at 0x00, and 0x01 is written. -/
def latchTime (s : MBC3State) : MBC3Call → Option ℤ
  | .write time memAddr value =>
    if s.LatchClockSequence = 0x00 ∧ latchWrite s (.write time memAddr value) = some 0x01 then
      some time
    else none
  | .read _ => none

/-- The writes that are noticed. -/
theorem latchWrite_eq_some_iff {s : MBC3State} {call : MBC3Call} {v : Byte} :
    latchWrite s call = some v ↔ ∃ time memAddr, call = .write time memAddr v ∧
      0x6000 ≤ memAddr.toNat ∧ memAddr.toNat ≤ 0x7FFF ∧ s.RTCAccessMode = mbc3RtcMode := by
  constructor
  · intro h
    cases call with
    | read => cases h
    | write time memAddr value =>
      rw [latchWrite, writtenTo] at h
      split_ifs at h with hmode hrange
      obtain rfl : value = v := Option.some.inj h
      exact ⟨time, memAddr, rfl, hrange.1, hrange.2, hmode⟩
  · rintro ⟨time, memAddr, rfl, hlo, hhi, hmode⟩
    rw [latchWrite, if_pos hmode, writtenTo_of_le hlo hhi]

/-! ## One call -/

section

variable (c : Cartridge) (s : MBC3State) (time : ℤ) (memAddr : Word) (value : Byte)

/-- A write that is not one to the latch register leaves the latched registers and the sequence
alone. -/
theorem mbc3WriteByte_of_latchWrite_eq_none
    (h : latchWrite s (.write time memAddr value) = none) :
    (mbc3WriteByte c s time memAddr value).1.2.clock = s.clock ∧
      (mbc3WriteByte c s time memAddr value).1.2.LatchClockSequence = s.LatchClockSequence := by
  rcases range_cases memAddr with hrange | hrange | hrange | hrange
  · rw [mbc3WriteByte_lock c s time memAddr value hrange]
    exact ⟨rfl, rfl⟩
  · rw [mbc3WriteByte_romBank c s time memAddr value hrange.1 hrange.2]
    exact ⟨rfl, rfl⟩
  · rw [mbc3WriteByte_select c s time memAddr value hrange.1 hrange.2]
    split_ifs <;> exact ⟨rfl, rfl⟩
  by_cases hlatch : memAddr.toNat ≤ 0x7FFF
  · have hmode : s.RTCAccessMode ≠ mbc3RtcMode := fun hmode ↦ by
      rw [latchWrite_eq_some_iff.2 ⟨time, memAddr, rfl, hrange, hlatch, hmode⟩] at h
      cases h
    rw [mbc3WriteByte_latch c s time memAddr value hrange hlatch, if_neg hmode]
    exact ⟨rfl, rfl⟩
  by_cases hram : 0xA000 ≤ memAddr.toNat ∧ memAddr.toNat ≤ 0xBFFF
  · rw [mbc3WriteByte_window c s time memAddr value hram]
    obtain ⟨base, halt, hwrite⟩ := writeToRTCRegister_retimed s time value
    rw [hwrite]
    split <;> exact ⟨rfl, rfl⟩
  · rw [mbc3WriteByte_elsewhere c s time memAddr value (by omega) hram]
    exact ⟨rfl, rfl⟩

/-- A write to the latch register while a register of the clock is selected. -/
theorem mbc3WriteByte_latches (hlo : 0x6000 ≤ memAddr.toNat) (hhi : memAddr.toNat ≤ 0x7FFF)
    (hmode : s.RTCAccessMode = mbc3RtcMode) :
    (mbc3WriteByte c s time memAddr value).1.2 =
      { (if s.LatchClockSequence = 0x00 ∧ value = 0x01 then latchRTC s time else s) with
        LatchClockSequence := value } := by
  rw [mbc3WriteByte_latch c s time memAddr value hlo hhi, if_pos hmode]

end

/-- A call changes the sequence only by writing to the latch register. -/
theorem mbc3_step_LatchClockSequence (s : Cartridge × MBC3State) (call : MBC3Call) :
    (mbc3.step s call).2.LatchClockSequence =
      (latchWrite s.2 call).getD s.2.LatchClockSequence := by
  cases hwrite : latchWrite s.2 call with
  | some v =>
    obtain ⟨time, memAddr, rfl, hlo, hhi, hmode⟩ := latchWrite_eq_some_iff.1 hwrite
    exact congrArg MBC3State.LatchClockSequence
      (mbc3WriteByte_latches s.1 s.2 time memAddr v hlo hhi hmode)
  | none =>
    cases call with
    | read => rfl
    | write time memAddr value =>
      exact (mbc3WriteByte_of_latchWrite_eq_none s.1 s.2 time memAddr value hwrite).2

/-- A call changes the latched registers only by latching.  Otherwise they are those from before,
all five of them. -/
theorem mbc3_step_clock (s : Cartridge × MBC3State) (call : MBC3Call) :
    (mbc3.step s call).2.clock =
      ((latchTime s.2 call).map fun time ↦ (latchRTC s.2 time).clock).getD s.2.clock := by
  cases call with
  | read => rfl
  | write time memAddr value =>
    rw [latchTime]
    cases hwrite : latchWrite s.2 (.write time memAddr value) with
    | some v =>
      obtain ⟨_, _, heq, hlo, hhi, hmode⟩ := latchWrite_eq_some_iff.1 hwrite
      cases heq
      have hstep := congrArg MBC3State.clock
        (mbc3WriteByte_latches s.1 s.2 time memAddr value hlo hhi hmode)
      simp only [Option.some.injEq]
      split at hstep <;> rename_i hlatch
      · rw [if_pos hlatch]
        exact hstep
      · rw [if_neg hlatch]
        exact hstep
    | none =>
      rw [if_neg fun hlatch ↦ Option.some_ne_none _ hlatch.2.symm]
      exact (mbc3WriteByte_of_latchWrite_eq_none s.1 s.2 time memAddr value hwrite).1

/-! ## Runs -/

/-- The latch sequence remembers the last value written to the latch register. -/
theorem mbc3_run_LatchClockSequence (s : Cartridge × MBC3State) (calls : List MBC3Call) :
    (mbc3.run s calls).2.LatchClockSequence =
      (mbc3.history s calls).getLast?.getD s.2.LatchClockSequence := by
  induction calls using List.reverseRecOn with
  | nil => rfl
  | append_singleton calls call ih =>
    have hone : mbc3.history (mbc3.run s calls) [call] =
        (latchWrite (mbc3.run s calls).2 call).toList := List.append_nil _
    rw [System.run_append, System.history_append, hone]
    refine (mbc3_step_LatchClockSequence (mbc3.run s calls) call).trans ?_
    rw [ih, List.getLast?_append]
    cases latchWrite (mbc3.run s calls).2 call <;> rfl

/-- **The latched registers are stable.**  After any calls, at any times, the next call leaves the
five registers of the clock as they are, unless it writes 0x01 to the latch register while a
register of the clock is selected, and the last value written there before was 0x00. -/
theorem mbc3_clock_latched (c : Cartridge) (calls : List MBC3Call) (call : MBC3Call) :
    let start := (c, Machine.powerOn.mbc3)
    let s := mbc3.run start calls
    (mbc3.step s call).2.clock = s.2.clock ∨
      ∃ time memAddr, call = .write time memAddr 0x01 ∧
        0x6000 ≤ memAddr.toNat ∧ memAddr.toNat ≤ 0x7FFF ∧ s.2.RTCAccessMode = mbc3RtcMode ∧
        (mbc3.history start calls).getLast? = some 0x00 := by
  intro start s
  rw [mbc3_step_clock]
  cases call with
  | read => exact .inl rfl
  | write time memAddr value =>
    rw [latchTime]
    by_cases h : s.2.LatchClockSequence = 0x00 ∧
        latchWrite s.2 (.write time memAddr value) = some 0x01
    · obtain ⟨_, _, heq, hlo, hhi, hmode⟩ := latchWrite_eq_some_iff.1 h.2
      cases heq
      refine .inr ⟨time, memAddr, rfl, hlo, hhi, hmode, ?_⟩
      have hlast := (mbc3_run_LatchClockSequence start calls).symm.trans h.1
      cases hwrites : (mbc3.history start calls).getLast? with
      | none =>
        -- nothing has been written yet, and the sequence starts with 255
        rw [hwrites] at hlast
        exact absurd hlast (by decide : ¬(0xFF : Byte) = 0)
      | some v =>
        rw [hwrites] at hlast
        exact congrArg some hlast
    · rw [if_neg h]
      exact .inl rfl

end GameBloat
