import GameBloat.Memory.Map
import GameBloat.Library.Latch

/-!
# What the bank registers hold

A write below 0x8000 does not reach the ROM: it sets a register of the bank controller, chosen by
the range of the address.  Each register is set by the writes to one range and by nothing else, so
after any history of writes it is determined by the last of them (`System.run_latched`).  The
lemmas here say that of each register and one write, in the form `run_latched` asks for.

That form is an equation: the register after a write is `((writtenTo lo hi address value).map
f).getD` of the register before, where `f` is what the code makes of a value on its way into the
register.  An equation says both that a write to the range sets the register and that no other
write does, and it composes along a run with no case distinction.

For MBC1 these are the lock, the two parts of the bank number and the mode.  For MBC3 they are the
lock, the ROM bank, and the selection at 0x4000, which sets two registers at once, and which it
may refuse.  The clock of MBC3 has registers of its own; what a write does to these is left to the
module on the clock, and here it is only said that such a write leaves the banks alone
(`mbc3WriteByte_sameBanks`).

The code is not quite regular about values.  The lock is compared with the bits of `0x0A` instead
of with the low nibble (`unlockValue`), and a bank number of 0 is replaced by 1 on its way into a
register (`lowBank`, `romBank`), but the register holds 0 before anything is written to it.
-/

set_option autoImplicit false

namespace GameBloat

/-- The lock of the RAM: unlocked where the bits of `0x0A` are set. -/
def unlockValue (value : Byte) : Byte := if value &&& 0x0A = 0x0A then 1 else 0

/-- What opens the lock. -/
theorem unlockValue_ne_zero_iff (value : Byte) :
    unlockValue value ≠ 0 ↔ value &&& 0x0A = 0x0A := by
  rw [unlockValue]
  split
  · exact iff_of_true (by decide) ‹_›
  · exact iff_of_false (not_not.2 rfl) ‹_›

/-! ## MBC1 -/

/-- What is stored of a low bank number: five bits, and 1 for 0. -/
def lowBank (value : Byte) : Byte := if value &&& 0x1F = 0 then 1 else value &&& 0x1F

section

variable (c : Cartridge) (s : MBC1State) (memAddr : Word) (value : Byte)

/-- The lock of MBC1 is set by the writes to 0x0000–0x1FFF, -/
theorem mbc1WriteByte_RAMEnable :
    (mbc1WriteByte c s memAddr value).1.2.RAMEnable =
      ((writtenTo 0 0x1FFF memAddr value).map unlockValue).getD s.RAMEnable := by
  by_cases hrange : memAddr.toNat ≤ 0x1FFF
  · rw [writtenTo_of_le (Nat.zero_le _) hrange, mbc1WriteByte, Option.map_some, unlockValue]
    simp only
    rw [if_pos hrange]
    split <;> rfl
  · rw [writtenTo_of_lt (.inr (by omega))]
    unfold mbc1WriteByte
    simp only
    rw [if_neg hrange]
    split_ifs <;> rfl

/-- the lower part of the bank by those to 0x2000–0x3FFF, -/
theorem mbc1WriteByte_ROMBankLow :
    (mbc1WriteByte c s memAddr value).1.2.ROMBankLow =
      ((writtenTo 0x2000 0x3FFF memAddr value).map lowBank).getD s.ROMBankLow := by
  have hmask : ∀ value : Byte, ¬(value &&& 0x1F = 0x20 ∨ value &&& 0x1F = 0x40 ∨
      value &&& 0x1F = 0x60) := by decide
  by_cases hrange : 0x2000 ≤ memAddr.toNat ∧ memAddr.toNat ≤ 0x3FFF
  · rw [writtenTo_of_le hrange.1 hrange.2, mbc1WriteByte, Option.map_some, lowBank]
    simp only
    -- five bits are none of the three values that are tested for
    rw [if_neg (by omega), if_pos hrange.2, if_neg (hmask value)]
    split <;> rfl
  · rw [writtenTo, if_neg hrange]
    unfold mbc1WriteByte
    simp only
    split_ifs <;> first | rfl | omega

/-- the upper part by those to 0x4000–0x5FFF, -/
theorem mbc1WriteByte_RAMBank_ROMBankUpper :
    (mbc1WriteByte c s memAddr value).1.2.RAMBank_ROMBankUpper =
      ((writtenTo 0x4000 0x5FFF memAddr value).map (· &&& 0x03)).getD s.RAMBank_ROMBankUpper := by
  unfold mbc1WriteByte writtenTo
  simp only
  split_ifs <;> first | rfl | omega

/-- and the mode by those to 0x6000–0x7FFF, whatever the value is. -/
theorem mbc1WriteByte_AccessMode :
    (mbc1WriteByte c s memAddr value).1.2.AccessMode =
      ((writtenTo 0x6000 0x7FFF memAddr value).map id).getD s.AccessMode := by
  unfold mbc1WriteByte writtenTo
  simp only
  split_ifs <;> first | rfl | omega

end

/-! ## MBC3 -/

/-- The two modes of MBC3 are different. -/
theorem rtcMode_ne_ramMode : mbc3RtcMode ≠ mbc3RamMode := by decide

/-- What is stored of a ROM bank number: seven bits, and 1 for 0. -/
def romBank (value : Byte) : Byte := if value &&& 0x7F = 0 then 1 else value &&& 0x7F

/-- The value of an accepted write to 0x4000–0x5FFF: the number of a RAM bank or of a register of
the clock. -/
def selected (memAddr : Word) (value : Byte) : Option Byte :=
  (writtenTo 0x4000 0x5FFF memAddr value).filter (·.toNat ≤ 0x0C)

/-- The mode that an accepted value selects. -/
def selectedMode (value : Byte) : Byte := if value.toNat ≤ 0x07 then mbc3RamMode else mbc3RtcMode

/-- The registers of the banks are the same in `s'` as in `s`. -/
structure MBC3State.SameBanks (s s' : MBC3State) : Prop where
  RAM_TimerEnable : s'.RAM_TimerEnable = s.RAM_TimerEnable
  ROMBankNumber : s'.ROMBankNumber = s.ROMBankNumber
  RAMBankNumber : s'.RAMBankNumber = s.RAMBankNumber
  RTCAccessMode : s'.RTCAccessMode = s.RTCAccessMode

/-- `s'` is `s` with other timestamps.  They are what the clock is computed from, and none of the
five registers.  A controller reads its clock while it does something else, so this is what most
of its functions leave of the state. -/
def MBC3State.Retimed (s s' : MBC3State) : Prop :=
  ∃ base halt, s' = { s with baseTimestamp := base, haltTimestamp := halt }

/-- A test in front of the timestamps. -/
theorem MBC3State.Retimed.ite {s : MBC3State} {a b : MBC3State × ℕ} {c : Prop} [Decidable c]
    (ha : s.Retimed a.1) (hb : s.Retimed b.1) : s.Retimed (if c then a else b).1 := by
  split
  · exact ha
  · exact hb

/-- Writing to a register of the clock moves the two timestamps and nothing else. -/
theorem writeToRTCRegister_retimed (s : MBC3State) (time : ℤ) (value : Byte) :
    s.Retimed (writeToRTCRegister s time value).1 := by
  have hbase (unitSeconds unit : ℤ) : ∃ base,
      updateBaseTimestamp s time unitSeconds unit value = { s with baseTimestamp := base } := by
    unfold updateBaseTimestamp
    simp only
    split <;> exact ⟨_, rfl⟩
  have hmove (unitSeconds unit : ℤ) :
      s.Retimed (updateBaseTimestamp s time unitSeconds unit value) := by
    obtain ⟨base, h⟩ := hbase unitSeconds unit
    exact ⟨base, s.haltTimestamp, h⟩
  unfold writeToRTCRegister
  refine .ite (hmove 1 60) <| .ite (hmove minuteSeconds 60) <| .ite (hmove hourSeconds 24) <|
    .ite (hmove daySeconds 255) <| .ite ?_ ⟨_, _, rfl⟩
  obtain ⟨base, h⟩ := hbase daySeconds daysUpperUnit
  rw [h]
  exact .ite (.ite ⟨_, _, rfl⟩ ⟨_, _, rfl⟩) ⟨_, _, rfl⟩

/-- A latch moves the base and fills the registers of the clock. -/
theorem exists_latchRTC (s : MBC3State) (time : ℤ) :
    ∃ base clock, latchRTC s time = { s with baseTimestamp := base, clock } := by
  unfold latchRTC
  simp only
  generalize (if s.clock.upperDayCounter &&& haltFlag ≠ 0 then s.haltTimestamp else time) = elapsed
  by_cases h : dayCounterOverflow < elapsed
  · simp only [h, if_true]
    exact ⟨_, _, rfl⟩
  · simp only [h, if_false]
    exact ⟨_, _, rfl⟩

section

variable (c : Cartridge) (s : MBC3State) (time : ℤ) (memAddr : Word) (value : Byte)

/-- A write to the latch register. -/
theorem mbc3WriteByte_latch (hlo : 0x6000 ≤ memAddr.toNat) (hhi : memAddr.toNat ≤ 0x7FFF) :
    (mbc3WriteByte c s time memAddr value).1.2 =
      if s.RTCAccessMode = mbc3RtcMode then
        { (if s.LatchClockSequence = 0x00 ∧ value = 0x01 then latchRTC s time else s) with
          LatchClockSequence := value }
      else s := by
  rw [mbc3WriteByte, if_neg (by omega), if_neg (by omega), if_neg (by omega), if_pos hhi]
  split <;> rfl

/-- A write to the RAM, or to a register of the clock. -/
theorem mbc3WriteByte_window (hrange : 0xA000 ≤ memAddr.toNat ∧ memAddr.toNat ≤ 0xBFFF) :
    (mbc3WriteByte c s time memAddr value).1.2 =
      if s.RAM_TimerEnable ≠ 0 ∧ s.RTCAccessMode = mbc3RtcMode then
        (writeToRTCRegister s time value).1
      else s := by
  rw [mbc3WriteByte, if_neg (by omega), if_neg (by omega), if_neg (by omega),
    if_neg (by omega), if_pos hrange]
  by_cases hlock : s.RAM_TimerEnable ≠ 0
  · rw [if_pos hlock]
    by_cases hmode : s.RTCAccessMode = mbc3RtcMode
    · rw [if_neg (hmode ▸ rtcMode_ne_ramMode), if_pos hmode, if_pos ⟨hlock, hmode⟩]
    · rw [if_neg hmode, if_neg fun h : _ ∧ _ ↦ hmode h.2]
      split <;> rfl
  · rw [if_neg hlock, if_neg fun h ↦ hlock h.1]

/-- A write to an address that is not the cartridge's. -/
theorem mbc3WriteByte_elsewhere (hlo : 0x7FFF < memAddr.toNat)
    (hrange : ¬(0xA000 ≤ memAddr.toNat ∧ memAddr.toNat ≤ 0xBFFF)) :
    (mbc3WriteByte c s time memAddr value).1.2 = s := by
  rw [mbc3WriteByte, if_neg (by omega), if_neg (by omega), if_neg (by omega),
    if_neg (by omega), if_neg hrange]

/-- A write outside the three ranges of registers has to do with the clock only. -/
theorem exists_mbc3WriteByte_above (h : 0x5FFF < memAddr.toNat) :
    ∃ base halt clock latch, (mbc3WriteByte c s time memAddr value).1.2 =
      { s with
        baseTimestamp := base, haltTimestamp := halt, clock, LatchClockSequence := latch } := by
  by_cases hlatch : memAddr.toNat ≤ 0x7FFF
  · rw [mbc3WriteByte_latch c s time memAddr value h hlatch]
    obtain ⟨base, clock, hlatched⟩ := exists_latchRTC s time
    rw [hlatched]
    split_ifs <;> exact ⟨_, _, _, _, rfl⟩
  by_cases hram : 0xA000 ≤ memAddr.toNat ∧ memAddr.toNat ≤ 0xBFFF
  · rw [mbc3WriteByte_window c s time memAddr value hram]
    obtain ⟨base, halt, hwrite⟩ := writeToRTCRegister_retimed s time value
    rw [hwrite]
    split <;> exact ⟨_, _, _, _, rfl⟩
  · rw [mbc3WriteByte_elsewhere c s time memAddr value (by omega) hram]
    exact ⟨_, _, _, _, rfl⟩

/-- So it leaves the banks alone. -/
theorem mbc3WriteByte_sameBanks (h : 0x5FFF < memAddr.toNat) :
    s.SameBanks (mbc3WriteByte c s time memAddr value).1.2 := by
  obtain ⟨base, halt, clock, latch, hwrite⟩ := exists_mbc3WriteByte_above c s time memAddr value h
  rw [hwrite]
  exact ⟨rfl, rfl, rfl, rfl⟩

/-- A write to the lock, -/
theorem mbc3WriteByte_lock (h : memAddr.toNat ≤ 0x1FFF) :
    (mbc3WriteByte c s time memAddr value).1.2 =
      { s with RAM_TimerEnable := unlockValue value } := by
  rw [mbc3WriteByte, if_pos h, unlockValue]
  split <;> rfl

/-- one to the ROM bank, -/
theorem mbc3WriteByte_romBank (hlo : 0x2000 ≤ memAddr.toNat) (hhi : memAddr.toNat ≤ 0x3FFF) :
    (mbc3WriteByte c s time memAddr value).1.2 = { s with ROMBankNumber := romBank value } := by
  rw [mbc3WriteByte, if_neg (by omega), if_pos hhi, romBank]
  simp only
  split <;> rfl

/-- and one that selects a RAM bank or a register of the clock, or is refused. -/
theorem mbc3WriteByte_select (hlo : 0x4000 ≤ memAddr.toNat) (hhi : memAddr.toNat ≤ 0x5FFF) :
    (mbc3WriteByte c s time memAddr value).1.2 =
      if value.toNat ≤ 0x07 then { s with RAMBankNumber := value, RTCAccessMode := mbc3RamMode }
      else if value.toNat ≤ 0x0C then
        { s with RTCRegisterSelect := value, RTCAccessMode := mbc3RtcMode }
      else s := by
  rw [mbc3WriteByte, if_neg (by omega), if_neg (by omega), if_pos hhi]
  by_cases hram : value.toNat ≤ 0x07
  · rw [if_pos hram, if_pos hram]
  · rw [if_neg hram, if_neg hram]
    have h08 : 0x08 ≤ value.toNat := by omega
    simp only [h08, true_and]
    split <;> rfl

/-- The ranges of registers. -/
theorem range_cases (memAddr : Word) :
    memAddr.toNat ≤ 0x1FFF ∨ (0x2000 ≤ memAddr.toNat ∧ memAddr.toNat ≤ 0x3FFF) ∨
      (0x4000 ≤ memAddr.toNat ∧ memAddr.toNat ≤ 0x5FFF) ∨ 0x5FFF < memAddr.toNat := by
  omega

/-- The lock of MBC3 after a write, -/
theorem mbc3WriteByte_RAM_TimerEnable :
    (mbc3WriteByte c s time memAddr value).1.2.RAM_TimerEnable =
      ((writtenTo 0 0x1FFF memAddr value).map unlockValue).getD s.RAM_TimerEnable := by
  rcases range_cases memAddr with h | h | h | h
  · rw [mbc3WriteByte_lock c s time memAddr value h, writtenTo_of_le (Nat.zero_le _) h]
    rfl
  all_goals rw [writtenTo_of_lt (.inr (by omega))]
  · rw [mbc3WriteByte_romBank c s time memAddr value h.1 h.2]
    rfl
  · rw [mbc3WriteByte_select c s time memAddr value h.1 h.2]
    split_ifs <;> rfl
  · exact (mbc3WriteByte_sameBanks c s time memAddr value h).RAM_TimerEnable

/-- the ROM bank, -/
theorem mbc3WriteByte_ROMBankNumber :
    (mbc3WriteByte c s time memAddr value).1.2.ROMBankNumber =
      ((writtenTo 0x2000 0x3FFF memAddr value).map romBank).getD s.ROMBankNumber := by
  rcases range_cases memAddr with h | h | h | h
  · rw [mbc3WriteByte_lock c s time memAddr value h, writtenTo_of_lt (.inl (by omega))]
    rfl
  · rw [mbc3WriteByte_romBank c s time memAddr value h.1 h.2, writtenTo_of_le h.1 h.2]
    rfl
  all_goals rw [writtenTo_of_lt (.inr (by omega))]
  · rw [mbc3WriteByte_select c s time memAddr value h.1 h.2]
    split_ifs <;> rfl
  · exact (mbc3WriteByte_sameBanks c s time memAddr value h).ROMBankNumber

/-- and the mode, which follows the last selection that was accepted. -/
theorem mbc3WriteByte_RTCAccessMode :
    (mbc3WriteByte c s time memAddr value).1.2.RTCAccessMode =
      ((selected memAddr value).map selectedMode).getD s.RTCAccessMode := by
  rw [selected]
  rcases range_cases memAddr with h | h | h | h
  · rw [mbc3WriteByte_lock c s time memAddr value h, writtenTo_of_lt (.inl (by omega))]
    rfl
  · rw [mbc3WriteByte_romBank c s time memAddr value h.1 h.2, writtenTo_of_lt (.inl (by omega))]
    rfl
  · rw [mbc3WriteByte_select c s time memAddr value h.1 h.2, writtenTo_of_le h.1 h.2,
      Option.filter_some]
    by_cases hram : value.toNat ≤ 0x07
    · have hle : value.toNat ≤ 0x0C := by omega
      simp [hram, hle, selectedMode]
    · by_cases hle : value.toNat ≤ 0x0C <;> simp [hram, hle, selectedMode]
  · rw [writtenTo_of_lt (.inr h)]
    exact (mbc3WriteByte_sameBanks c s time memAddr value h).RTCAccessMode

end

end GameBloat
