import GameBloat.Cartridge.SetClock

/-!
# The registers of MBC3 stay in range

`readRTCRegister` and `writeToRTCRegister` switch over `RTCRegisterSelect` and have a `default`
for a number that no register of the clock has.  The power-up value 0 is such a number.  They are
only called in `RTC_MODE`, however, and the write that turns this mode on selects a register as
well; no other write does either.  So the `default`s are never taken (`mbc3_registers_inRange`),
from whatever calls of the controller.

The invariant `MBC3State.InRange` bounds every register of the controller, and adds that a
register of the clock is selected in `RTC_MODE`.  It holds at power-on only because the mode is
that of the RAM then, so that the last clause asks for nothing.  One write keeps it, by cases on
the range of the address; refused writes to the bank register change neither the mode nor the
selection.

That a `default` is not taken is said positively: the access takes the `case` of some register,
which is the one it reads, and a write to it is accepted (`MBC3State.TakesCase`).  And while
`RTC_MODE` is selected an access to the window has nothing to do with the RAM: it neither depends
on it nor changes it, for any contents (`MBC3State.SparesRam`).
-/

set_option autoImplicit false

namespace GameBloat

/-- The registers hold what they can be set to, and a register of the clock is selected in
`RTC_MODE`. -/
structure MBC3State.InRange (s : MBC3State) : Prop where
  one_le_romBank : 1 ≤ s.ROMBankNumber.toNat
  romBank_le : s.ROMBankNumber.toNat ≤ 127
  ramBank_le : s.RAMBankNumber.toNat ≤ 7
  lock : s.RAM_TimerEnable = 0 ∨ s.RAM_TimerEnable = 1
  mode : s.RTCAccessMode = 0 ∨ s.RTCAccessMode = 1
  select : s.RTCAccessMode = mbc3RtcMode →
    0x08 ≤ s.RTCRegisterSelect.toNat ∧ s.RTCRegisterSelect.toNat ≤ 0x0C

/-- An access to this address neither reads nor changes the RAM. -/
structure MBC3State.SparesRam (s : MBC3State) (memAddr : Word) : Prop where
  read : ∀ (c : Cartridge) ram, mbc3ReadByte { c with ram } s memAddr = mbc3ReadByte c s memAddr
  write : ∀ (c : Cartridge) ram time value, mbc3WriteByte { c with ram } s time memAddr value =
    (({ c with ram }, (mbc3WriteByte c s time memAddr value).1.2),
      (mbc3WriteByte c s time memAddr value).2)

/-- An access to this address takes the `case` of `r` in `readRTCRegister` or in
`writeToRTCRegister`: that register is read, and a write is accepted. -/
structure MBC3State.TakesCase (s : MBC3State) (memAddr : Word) (r : ClockRegister) : Prop where
  read : ∀ c, mbc3ReadByte c s memAddr = r.get s.clock
  write : ∀ c time value, (mbc3WriteByte c s time memAddr value).2 = 0x01

/-! ## The switches -/

/-- The numbers of the registers are 0x08 to 0x0C. -/
theorem exists_eq_number_iff (select : Byte) :
    (∃ r : ClockRegister, select = r.number) ↔ 0x08 ≤ select.toNat ∧ select.toNat ≤ 0x0C := by
  constructor
  · rintro ⟨r, rfl⟩
    cases r <;> decide
  · rintro ⟨hlo, hhi⟩
    have hcases : select = rtcSeconds ∨ select = rtcMinutes ∨ select = rtcHours ∨
        select = rtcDayLower ∨ select = rtcDayUpper := by
      revert select
      decide
    rcases hcases with h | h | h | h | h
    · exact ⟨.seconds, h⟩
    · exact ⟨.minutes, h⟩
    · exact ⟨.hours, h⟩
    · exact ⟨.dayLower, h⟩
    · exact ⟨.dayUpper, h⟩

/-- No `case` refuses a write. -/
theorem writeToRTCRegister_accepted (s : MBC3State) (time : ℤ) (value : Byte) {r : ClockRegister}
    (h : s.RTCRegisterSelect = r.number) : (writeToRTCRegister s time value).2 = 0x01 := by
  rw [writeToRTCRegister, h]
  cases r with
  | seconds | minutes | hours | dayLower => rfl
  | dayUpper =>
    show (if _ then if _ then _ else _ else _ : MBC3State × ℕ).2 = 0x01
    split_ifs <;> rfl

section

variable {c : Cartridge} {s : MBC3State} {time : ℤ} {memAddr : Word} {value : Byte}

/-! ## Accesses in `RTC_MODE` -/

/-- A read of the window in `RTC_MODE`, -/
theorem mbc3ReadByte_rtc (hrange : 0xA000 ≤ memAddr.toNat ∧ memAddr.toNat ≤ 0xBFFF)
    (hmode : s.RTCAccessMode = mbc3RtcMode) :
    mbc3ReadByte c s memAddr = if s.RAM_TimerEnable ≠ 0 then readRTCRegister s else 0x00 := by
  have hnotRam : s.RTCAccessMode ≠ mbc3RamMode := hmode ▸ rtcMode_ne_ramMode
  have haddress : (memAddr.setWidth 32).toNat = memAddr.toNat := by
    rw [BitVec.toNat_setWidth, Nat.mod_eq_of_lt (by omega)]
  rw [mbc3ReadByte]
  simp only [haddress]
  rw [if_neg (by omega), if_neg (by omega), if_pos hrange, if_neg hnotRam, if_pos hmode]

/-- and a write. -/
theorem mbc3WriteByte_rtc (hrange : 0xA000 ≤ memAddr.toNat ∧ memAddr.toNat ≤ 0xBFFF)
    (hmode : s.RTCAccessMode = mbc3RtcMode) :
    mbc3WriteByte c s time memAddr value =
      if s.RAM_TimerEnable ≠ 0 then
        ((c, (writeToRTCRegister s time value).1), (writeToRTCRegister s time value).2)
      else ((c, s), 0x00) := by
  have hnotRam : s.RTCAccessMode ≠ mbc3RamMode := hmode ▸ rtcMode_ne_ramMode
  rw [mbc3WriteByte, if_neg (by omega), if_neg (by omega), if_neg (by omega),
    if_neg (by omega), if_pos hrange, if_neg hnotRam, if_pos hmode]

/-- Neither has to do with the RAM. -/
theorem sparesRam_of_rtc (hrange : 0xA000 ≤ memAddr.toNat ∧ memAddr.toNat ≤ 0xBFFF)
    (hmode : s.RTCAccessMode = mbc3RtcMode) : s.SparesRam memAddr where
  read c ram := by rw [mbc3ReadByte_rtc hrange hmode, mbc3ReadByte_rtc hrange hmode]
  write c ram time value := by
    rw [mbc3WriteByte_rtc hrange hmode, mbc3WriteByte_rtc hrange hmode]
    split <;> rfl

/-- With a register selected, both take its `case`. -/
theorem takesCase_of_rtc (hrange : 0xA000 ≤ memAddr.toNat ∧ memAddr.toNat ≤ 0xBFFF)
    (hmode : s.RTCAccessMode = mbc3RtcMode) (hlock : s.RAM_TimerEnable ≠ 0) {r : ClockRegister}
    (hselect : s.RTCRegisterSelect = r.number) : s.TakesCase memAddr r where
  read c := by
    rw [mbc3ReadByte_rtc hrange hmode, if_pos hlock, ClockRegister.readRTCRegister_eq_get hselect]
  write c time value := by
    rw [mbc3WriteByte_rtc hrange hmode, if_pos hlock]
    exact writeToRTCRegister_accepted s time value hselect

/-! ## Runs -/

/-- A ROM bank is one of 1 to 127. -/
theorem romBank_inRange (value : Byte) :
    1 ≤ (romBank value).toNat ∧ (romBank value).toNat ≤ 127 := by
  revert value
  decide

/-- At power-on the RAM is selected, and no register of the clock. -/
theorem powerOn_inRange : Machine.powerOn.mbc3.InRange where
  one_le_romBank := by decide
  romBank_le := by decide
  ramBank_le := by decide
  lock := .inl rfl
  mode := .inl rfl
  select := fun h ↦ absurd h (by decide)

/-- One write.  The mode and the register are set by the same one, and only if it is accepted. -/
theorem MBC3State.InRange.write (h : s.InRange) :
    (mbc3WriteByte c s time memAddr value).1.2.InRange := by
  rcases range_cases memAddr with hlock | hrom | hselect | habove
  · rw [mbc3WriteByte_lock c s time memAddr value hlock]
    exact { h with lock := (ite_eq_or_eq _ _ _).symm }
  · rw [mbc3WriteByte_romBank c s time memAddr value hrom.1 hrom.2]
    exact { h with
      one_le_romBank := (romBank_inRange value).1, romBank_le := (romBank_inRange value).2 }
  · rw [mbc3WriteByte_select c s time memAddr value hselect.1 hselect.2]
    split_ifs with hram hclock
    · exact { h with
        ramBank_le := hram
        mode := .inl rfl
        select := fun hmode ↦ absurd hmode.symm rtcMode_ne_ramMode }
    · exact { h with mode := .inr rfl, select := fun _ ↦ ⟨Nat.lt_of_not_le hram, hclock⟩ }
    · -- the write is rejected
      exact h
  · obtain ⟨_, _, _, _, hwrite⟩ := exists_mbc3WriteByte_above c s time memAddr value habove
    rw [hwrite]
    exact { h with }

end

/-- Any calls, at any times. -/
theorem mbc3_run_inRange {s : Cartridge × MBC3State} (h : s.2.InRange) (calls : List MBC3Call) :
    (mbc3.run s calls).2.InRange := by
  refine System.run_invariant (I := fun s : Cartridge × MBC3State ↦ s.2.InRange)
    (fun s call _ hs ↦ ?_) h fun _ _ ↦ trivial
  cases call with
  | write time memAddr value => exact hs.write
  | read => exact hs

/-- **The registers of MBC3 stay in range**, whatever is written to it at whatever times.  So while
`RTC_MODE` is selected, an access to 0xA000–0xBFFF never takes a `default`, and has nothing to do
with the RAM. -/
theorem mbc3_registers_inRange (c : Cartridge) (calls : List MBC3Call) :
    let s := (mbc3.run (c, Machine.powerOn.mbc3) calls).2
    s.InRange ∧
      (s.RTCAccessMode = mbc3RtcMode → ∃ r : ClockRegister, s.RTCRegisterSelect = r.number ∧
        ∀ memAddr : Word, 0xA000 ≤ memAddr.toNat ∧ memAddr.toNat ≤ 0xBFFF →
          s.SparesRam memAddr ∧ (s.RAM_TimerEnable ≠ 0 → s.TakesCase memAddr r)) := by
  intro s
  have hinRange : s.InRange := mbc3_run_inRange powerOn_inRange calls
  refine ⟨hinRange, fun hmode ↦ ?_⟩
  obtain ⟨r, hselect⟩ := (exists_eq_number_iff _).2 (hinRange.select hmode)
  exact ⟨r, hselect, fun memAddr hrange ↦
    ⟨sparesRam_of_rtc hrange hmode, fun hlock ↦ takesCase_of_rtc hrange hmode hlock hselect⟩⟩

-- The rejected write of 0x0D leaves the seconds selected.
example (c : Cartridge) :
    let s := (mbc3.run (c, Machine.powerOn.mbc3) [.write 0 0x4000 0x08, .write 0 0x4000 0x0D]).2
    s.RTCAccessMode = mbc3RtcMode ∧ s.RTCRegisterSelect = rtcSeconds := ⟨rfl, rfl⟩

end GameBloat
