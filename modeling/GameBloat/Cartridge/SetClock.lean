import GameBloat.Cartridge.ClockTime

/-!
# Setting the clock

A program sets the clock by writing to a register of it and reads it after a latch.  The write
moves the base, and as a latch does not look at the base, nothing comes of it: `setsRegister_iff`
says that a register can be set to the value that it shows already, and to no other.

All is said in terms of what a program does: it unlocks the clock and selects a register with two
writes, sets the register with a third, and latches with two more; then it reads through the
window.  That setting one register must not disturb the others is part of it, and compares the run
with one in which the third write is left out.

The theorem is for all five registers, every value in range of the register, every time, every
address of the window and every state in which the clock is running.  The running clock is a
hypothesis on the register that the program sees, and is met in every state that calls of the
controller lead to, as the halt bit is never set.
-/

set_option autoImplicit false

namespace GameBloat

/-- The registers of the clock. -/
inductive ClockRegister
  | seconds | minutes | hours | dayLower | dayUpper
  deriving DecidableEq

namespace ClockRegister

/-- The number that selects the register. -/
def number : ClockRegister → Byte
  | seconds => rtcSeconds
  | minutes => rtcMinutes
  | hours => rtcHours
  | dayLower => rtcDayLower
  | dayUpper => rtcDayUpper

/-- What the register holds. -/
def get (c : ClockRegisters) : ClockRegister → Byte
  | seconds => c.seconds
  | minutes => c.minutes
  | hours => c.hours
  | dayLower => c.lowerDayCounter
  | dayUpper => c.upperDayCounter

/-- How many values the register can be set to: for the upper day counter, bit 8 of the day. -/
def size : ClockRegister → ℕ
  | seconds | minutes => 60
  | hours => 24
  | dayLower => 256
  | dayUpper => 2

/-- The digit of `e` seconds that belongs to the register.  Divisions are those of C, so a digit
may be negative. -/
def digit (e : ℤ) : ClockRegister → ℤ
  | seconds => e.tmod 60
  | minutes => (e.tmod 3600).tdiv 60
  | hours => (e.tmod 86400).tdiv 3600
  | dayLower => e.tdiv 86400 % 256
  | dayUpper => e.tdiv 86400 / 256 % 2

/-- The register shows its digit, if that is a value it can be set to. -/
theorem get_registersOf_iff (r : ClockRegister) (e : ℤ) {v : Byte} (hv : v.toNat < r.size) :
    r.get (registersOf e) = v ↔ (v.toNat : ℤ) = r.digit e := by
  have hbyte (x : ℤ) : BitVec.ofInt 8 x = v ↔ (v.toNat : ℤ) = x % 256 := by
    rw [← toNat_ofInt8, Nat.cast_inj, ← BitVec.toNat_inj, eq_comm]
  obtain ⟨htotal, hsecond, hminute, hhour, hnonneg, hnonpos⟩ := digits e
  cases r <;> refine (hbyte _).trans ?_ <;> simp only [digit, size] at hv ⊢ <;> omega

/-- `readRTCRegister` reads the register that is selected. -/
theorem readRTCRegister_eq_get {s : MBC3State} {r : ClockRegister}
    (h : s.RTCRegisterSelect = r.number) : readRTCRegister s = r.get s.clock := by
  rw [readRTCRegister, h]
  cases r <;> rfl

end ClockRegister

/-! ## What a program does -/

/-- The writes that unlock the clock and select a register of it. -/
def selecting (time : ℤ) (r : ClockRegister) : List MBC3Call :=
  [.write time 0x0000 0x0A, .write time 0x4000 r.number]

/-- The writes that latch the clock. -/
def latching (time : ℤ) : List MBC3Call := [.write time 0x6000 0x00, .write time 0x6000 0x01]

/-- What a program reads from a register. -/
def readsFrom (s : Cartridge × MBC3State) (r : ClockRegister) : Byte :=
  let s := mbc3.run s (selecting 0 r)
  mbc3ReadByte s.1 s.2 0xA000

/-- After writing `v` to the register at an address of the window and latching, all at `time`, the
register reads `v` and the others as without the write.  The values are those that the CPU reads
through the window with the register selected, and not the fields themselves. -/
def SetsRegister (s : Cartridge × MBC3State) (time : ℤ) (r : ClockRegister) (memAddr : Word)
    (v : Byte) : Prop :=
  let set := mbc3.run s (selecting time r ++ .write time memAddr v :: latching time)
  let unset := mbc3.run s (selecting time r ++ latching time)
  readsFrom set r = v ∧ ∀ r', r' ≠ r → readsFrom set r' = readsFrom unset r'

variable {s : Cartridge × MBC3State} {time : ℤ} {r : ClockRegister}

/-- Afterwards the clock is unlocked, and the register selected. -/
theorem run_selecting (s : Cartridge × MBC3State) (time : ℤ) (r : ClockRegister) :
    (mbc3.run s (selecting time r)).2 =
      { s.2 with
        RAM_TimerEnable := 1, RTCRegisterSelect := r.number, RTCAccessMode := mbc3RtcMode } := by
  cases r <;> rfl

/-- What a program reads is what the register holds. -/
theorem readsFrom_eq_get (s : Cartridge × MBC3State) (r : ClockRegister) :
    readsFrom s r = r.get s.2.clock := by
  have hselect := run_selecting s 0 r
  have hread : mbc3ReadByte (mbc3.run s (selecting 0 r)).1 (mbc3.run s (selecting 0 r)).2 0xA000 =
      readRTCRegister (mbc3.run s (selecting 0 r)).2 := by
    rw [hselect]
    rfl
  rw [readsFrom, hread, ClockRegister.readRTCRegister_eq_get (r := r) (by rw [hselect]), hselect]

/-- Where a register of the clock is selected, latching latches. -/
theorem run_latching (hmode : s.2.RTCAccessMode = mbc3RtcMode) (time : ℤ) :
    (mbc3.run s (latching time)).2.clock = registersOf (elapsed (determineTimestamp s.2 time)) := by
  have hreset : (mbc3.step s (.write time 0x6000 0x00)).2 =
      { s.2 with LatchClockSequence := 0 } := by
    refine (mbc3WriteByte_latches s.1 s.2 time 0x6000 0x00 (by decide) (by decide) hmode).trans ?_
    rw [if_neg fun h ↦ absurd h.2 (by decide)]
  have htime : latchTime { s.2 with LatchClockSequence := 0 } (.write time 0x6000 0x01) =
      some time := by
    rw [latchTime, latchWrite, if_pos (show s.2.RTCAccessMode = _ from hmode)]
    rfl
  have hlatch := mbc3_step_clock (mbc3.step s (.write time 0x6000 0x00)) (.write time 0x6000 0x01)
  rw [hreset, htime] at hlatch
  exact hlatch.trans (latchRTC_clock _ time)

/-- A write to a register of a running clock leaves it running, and everything else but the
timestamps as it was. -/
theorem run_setting (hrunning : s.2.clock.upperDayCounter &&& haltFlag = 0) {memAddr : Word}
    (hrange : 0xA000 ≤ memAddr.toNat ∧ memAddr.toNat ≤ 0xBFFF) (r : ClockRegister) (v : Byte)
    (time : ℤ) :
    (mbc3.run s (selecting time r ++ .write time memAddr v :: latching time)).2.clock =
      registersOf (elapsed time) := by
  obtain ⟨base, halt, hwrite⟩ := writeToRTCRegister_retimed
    (mbc3.run s (selecting time r)).2 time v
  have hset : (mbc3.step (mbc3.run s (selecting time r)) (.write time memAddr v)).2 =
      { (mbc3.run s (selecting time r)).2 with baseTimestamp := base, haltTimestamp := halt } := by
    rw [← hwrite]
    refine (mbc3WriteByte_window _ _ time memAddr v hrange).trans (if_pos ?_)
    rw [run_selecting]
    exact ⟨(by decide : (1 : Byte) ≠ 0), rfl⟩
  rw [run_selecting] at hset
  rw [System.run_append]
  refine (run_latching (hset ▸ rfl) time).trans ?_
  rw [hset, determineTimestamp, if_neg (not_not.2 hrunning)]

/-- The same without the write. -/
theorem run_not_setting (hrunning : s.2.clock.upperDayCounter &&& haltFlag = 0) (r : ClockRegister)
    (time : ℤ) :
    (mbc3.run s (selecting time r ++ latching time)).2.clock = registersOf (elapsed time) := by
  have hselect := run_selecting s time r
  rw [System.run_append, run_latching (hselect ▸ rfl), hselect, determineTimestamp,
    if_neg (not_not.2 hrunning)]

/-- **A register can be set to what it shows.**  The other registers are not affected; but nor is
the one that is written to.  A latch overwrites all five of them with the digits of the time, and
so a value that has been stored is read back if it is such a digit and not otherwise. -/
theorem setsRegister_iff (hrunning : s.2.clock.upperDayCounter &&& haltFlag = 0) {memAddr : Word}
    (hrange : 0xA000 ≤ memAddr.toNat ∧ memAddr.toNat ≤ 0xBFFF) {v : Byte} (hv : v.toNat < r.size) :
    SetsRegister s time r memAddr v ↔ (v.toNat : ℤ) = r.digit (elapsed time) := by
  rw [SetsRegister, readsFrom_eq_get, run_setting hrunning hrange, r.get_registersOf_iff _ hv]
  refine and_iff_left fun r' _ ↦ ?_
  rw [readsFrom_eq_get, readsFrom_eq_get, run_setting hrunning hrange, run_not_setting hrunning]

/-- Five seconds after the start of the epoch, the seconds can be set to 5. -/
theorem setsRegister_iff_five :
    SetsRegister (Machine.powerOn.cartridge, Machine.powerOn.mbc3) 5 .seconds 0xA000 5 :=
  (setsRegister_iff (by decide) (by decide) (by decide)).2 (by decide +kernel)

/-- And not to 30. -/
theorem seconds_not_set :
    ¬SetsRegister (Machine.powerOn.cartridge, Machine.powerOn.mbc3) 5 .seconds 0xA000 30 := by
  intro h
  have hread := h.1
  rw [readsFrom_eq_get, run_setting (by decide) (by decide)] at hread
  exact absurd hread (by decide +kernel)

end GameBloat
