import GameBloat.Machine

/-!
# Bank controllers

The functions of `MBC/MBCNone.c`, `MBC/MBC1.c` and `MBC/MBC3.c`, with the unimplemented stubs of
`MBC2.c`, `MBC4.c` and `MBC5.c`, and the calls through `cartridge.mbc` that reach them.

A shift that moves bits out of its 32-bit operand drops them here; in C a shift amount of 32 or
more has no meaning at all.  Reading through a null `cartridge.mbc` crashes the emulator;
`mbcRead` answers 0 there and `mbcWrite` changes nothing, and every theorem that runs code from a
cartridge names the controller it assumes.

The definitions keep the order of the tests and the widths of the variables of the source.  Reads
compute the index in an `unsigned int` and writes in an `unsigned short`, so the same shift may
lead to different elements; the bank number is a byte in both.  Each write function returns, with
the new state, the value that it answers, since the memory map passes that on.

The clock of MBC3 reads the time of the host, which is a field of the machine here and an argument
of the functions that call `time(NULL)`.  Timestamps are integers of any size, where the source
has a `time_t`; quotients and remainders of them are those of C, which truncate (`Int.tdiv`,
`Int.tmod`).  `latchLoop` is the only loop, and it is defined by recursion on the seconds that are
left, with the decrease as its termination argument.
-/

set_option autoImplicit false

namespace GameBloat

open Function (update)

/-! ## No controller -/

/-- `MBCNone_ReadByte`. -/
def mbcNoneReadByte (c : Cartridge) (memAddr : Word) : Byte :=
  if memAddr.toNat ≤ 0x7FFF then c.rom memAddr.toNat
  else if 0xA000 ≤ memAddr.toNat ∧ memAddr.toNat ≤ 0xBFFF then c.ram (memAddr.toNat - 0xA000)
  else 0x00

/-- `MBCNone_WriteByte`. -/
def mbcNoneWriteByte (c : Cartridge) (memAddr : Word) (value : Byte) : Cartridge × ℕ :=
  if 0xA000 ≤ memAddr.toNat ∧ memAddr.toNat ≤ 0xBFFF then
    ({ c with ram := update c.ram (memAddr.toNat - 0xA000) value }, 0x01)
  else (c, 0x01)

/-! ## MBC1 -/

/-- `ROM_MODE` of `enum MBC1_AccessModes`. -/
def mbc1RomMode : Byte := 0x00

/-- `RAM_MODE` of `enum MBC1_AccessModes`. -/
def mbc1RamMode : Byte := 0x01

/-- `MBC1_ReadByte`.  In ROM mode the upper two bits of the bank are put in at bit 4, over the
highest of the five lower ones. -/
def mbc1ReadByte (c : Cartridge) (s : MBC1State) (memAddr : Word) : Byte :=
  let address : BitVec 32 := memAddr.setWidth 32
  if address.toNat ≤ 0x3FFF then c.rom address.toNat
  else if address.toNat ≤ 0x7FFF then
    let bank : Byte :=
      if s.AccessMode = mbc1RomMode then s.ROMBankLow ||| s.RAMBank_ROMBankUpper <<< 4
      else s.ROMBankLow
    c.rom ((address - 0x4000) <<< bank.toNat).toNat
  else if 0xA000 ≤ address.toNat ∧ address.toNat ≤ 0xBFFF then
    if s.RAMEnable ≠ 0 then
      let address := address - 0xA000
      if s.AccessMode = mbc1RamMode then c.ram (address <<< s.RAMBank_ROMBankUpper.toNat).toNat
      else c.ram address.toNat
    else 0x00
  else 0x00

/-- `MBC1_WriteByte`.  The comparisons of a five-bit value with 0x20, 0x40 and 0x60 are in the
source, and never hold. -/
def mbc1WriteByte (c : Cartridge) (s : MBC1State) (memAddr : Word) (value : Byte) :
    (Cartridge × MBC1State) × ℕ :=
  let address := memAddr
  if address.toNat ≤ 0x1FFF then
    if value &&& 0x0A = 0x0A then ((c, { s with RAMEnable := 1 }), 0x01)
    else ((c, { s with RAMEnable := 0 }), 0x01)
  else if address.toNat ≤ 0x3FFF then
    let value5Bit := value &&& 0x1F
    if value5Bit = 0x00 then ((c, { s with ROMBankLow := 0x01 }), 0x01)
    else if value5Bit = 0x20 ∨ value5Bit = 0x40 ∨ value5Bit = 0x60 then
      ((c, { s with ROMBankLow := value5Bit + 1 }), 0x01)
    else ((c, { s with ROMBankLow := value5Bit }), 0x01)
  else if address.toNat ≤ 0x5FFF then
    ((c, { s with RAMBank_ROMBankUpper := value &&& 0x03 }), 0x01)
  else if address.toNat ≤ 0x7FFF then ((c, { s with AccessMode := value }), 0x01)
  else if 0xA000 ≤ address.toNat ∧ address.toNat ≤ 0xBFFF then
    if s.RAMEnable ≠ 0 then
      let address := address - 0xA000
      -- the shifted address is stored back into an `unsigned short`
      let address :=
        if s.AccessMode = mbc1RamMode then address <<< s.RAMBank_ROMBankUpper.toNat else address
      (({ c with ram := update c.ram address.toNat value }, s), 0x01)
    else ((c, s), 0x00)
  else ((c, s), 0x00)

/-! ## MBC3 -/

/-- `RAM_MODE` of `enum MBC3_AccessModes`. -/
def mbc3RamMode : Byte := 0

/-- `RTC_MODE` of `enum MBC3_AccessModes`. -/
def mbc3RtcMode : Byte := 1

/-- `RTC_SECONDS` of `enum RTC_Registers`. -/
def rtcSeconds : Byte := 0x08

/-- `RTC_MINUTES` of `enum RTC_Registers`. -/
def rtcMinutes : Byte := 0x09

/-- `RTC_HOURS` of `enum RTC_Registers`. -/
def rtcHours : Byte := 0x0A

/-- `RTC_DAY_LOWER` of `enum RTC_Registers`. -/
def rtcDayLower : Byte := 0x0B

/-- `RTC_DAY_UPPER` of `enum RTC_Registers`. -/
def rtcDayUpper : Byte := 0x0C

/-- `haltFlag`, bit 6 of the upper day counter. -/
def haltFlag : Byte := 0x40

/-- `dayCounterMSB`, bit 0 of the upper day counter. -/
def dayCounterMSB : Byte := 0x01

/-- `dayCounterCarryFlag`, bit 7 of the upper day counter. -/
def dayCounterCarryFlag : Byte := 0x80

/-- `DAY` of `enum TimeAsSeconds`. -/
def daySeconds : ℤ := 86400

/-- `HOUR` of `enum TimeAsSeconds`. -/
def hourSeconds : ℤ := 3600

/-- `MINUTE` of `enum TimeAsSeconds`. -/
def minuteSeconds : ℤ := 60

/-- `DAYS_UPPER_UNIT` of `enum TimeUnits`. -/
def daysUpperUnit : ℤ := 256

/-- `dayCounterOverflow`: 511 days in seconds. -/
def dayCounterOverflow : ℤ := 0x1FF * daySeconds

/-- `determineTimestamp`: the time of the halt, if the halt bit is set in the register, and else
the time. -/
def determineTimestamp (s : MBC3State) (time : ℤ) : ℤ :=
  if s.clock.upperDayCounter &&& haltFlag ≠ 0 then s.haltTimestamp else time

/-- `updateBaseTimestamp`: the old digit is added to the base and the new one subtracted, in
seconds. -/
def updateBaseTimestamp (s : MBC3State) (time timeUnitAsSeconds timeUnit : ℤ)
    (writeValue : Byte) : MBC3State :=
  let oldTimestamp := determineTimestamp s time
  let oldTimeUnit := ((oldTimestamp - s.baseTimestamp).tdiv timeUnitAsSeconds).tmod timeUnit
  let base := s.baseTimestamp + oldTimeUnit * timeUnitAsSeconds
  if timeUnit = daysUpperUnit then
    { s with baseTimestamp := base - (writeValue.toNat % 2 * 256 : ℕ) * timeUnitAsSeconds }
  else { s with baseTimestamp := base - writeValue.toNat * timeUnitAsSeconds }

/-- `writeToRTCRegister`. -/
def writeToRTCRegister (s : MBC3State) (time : ℤ) (value : Byte) : MBC3State × ℕ :=
  if s.RTCRegisterSelect = rtcSeconds then (updateBaseTimestamp s time 1 60 value, 0x01)
  else if s.RTCRegisterSelect = rtcMinutes then
    (updateBaseTimestamp s time minuteSeconds 60 value, 0x01)
  else if s.RTCRegisterSelect = rtcHours then
    (updateBaseTimestamp s time hourSeconds 24 value, 0x01)
  else if s.RTCRegisterSelect = rtcDayLower then
    (updateBaseTimestamp s time daySeconds 255 value, 0x01)
  else if s.RTCRegisterSelect = rtcDayUpper then
    let s := updateBaseTimestamp s time daySeconds daysUpperUnit value
    if (s.clock.upperDayCounter ^^^ value) &&& haltFlag ≠ 0 then
      if value ^^^ haltFlag ≠ 0 then ({ s with haltTimestamp := time }, 0x01)
      else ({ s with baseTimestamp := s.baseTimestamp + (time - s.haltTimestamp) }, 0x01)
    else (s, 0x01)
  else (s, 0x00)

/-- `readRTCRegister`. -/
def readRTCRegister (s : MBC3State) : Byte :=
  if s.RTCRegisterSelect = rtcSeconds then s.clock.seconds
  else if s.RTCRegisterSelect = rtcMinutes then s.clock.minutes
  else if s.RTCRegisterSelect = rtcHours then s.clock.hours
  else if s.RTCRegisterSelect = rtcDayLower then s.clock.lowerDayCounter
  else if s.RTCRegisterSelect = rtcDayUpper then s.clock.upperDayCounter
  else 0x00

/-- The `do … while` loop of `latchRTC`, on `elapsedTime` and `baseTimestamp`. -/
def latchLoop (elapsedTime baseTimestamp : ℤ) : ℤ × ℤ :=
  let elapsed := elapsedTime - dayCounterOverflow * daySeconds
  let base := baseTimestamp + dayCounterOverflow * daySeconds
  if dayCounterOverflow * daySeconds < elapsed then latchLoop elapsed base else (elapsed, base)
termination_by elapsedTime.toNat
decreasing_by
  simp only [dayCounterOverflow, daySeconds, elapsed] at *
  omega

/-- `latchRTC`.  The carry flag is set in the upper day counter, which is assigned as a whole
afterwards. -/
def latchRTC (s : MBC3State) (time : ℤ) : MBC3State :=
  let elapsedTime :=
    if s.clock.upperDayCounter &&& haltFlag ≠ 0 then s.haltTimestamp else time
  let (elapsedTime, s) :=
    if dayCounterOverflow < elapsedTime then
      let (elapsed, base) := latchLoop elapsedTime s.baseTimestamp
      (elapsed, { s with
        baseTimestamp := base
        clock.upperDayCounter := s.clock.upperDayCounter ||| dayCounterCarryFlag })
    else (elapsedTime, s)
  let day := BitVec.ofInt 64 (elapsedTime.tdiv daySeconds)
  let s := { s with clock.lowerDayCounter := (day &&& 255).setWidth 8 }
  let s := { s with
    clock.upperDayCounter := s.clock.upperDayCounter &&& ~~~dayCounterMSB }
  let s := { s with clock.upperDayCounter := ((day &&& 256) >>> 8).setWidth 8 }
  let elapsedTime := elapsedTime.tmod daySeconds
  let hour := BitVec.ofInt 64 (elapsedTime.tdiv hourSeconds)
  let s := { s with clock.hours := (hour &&& 0xFF).setWidth 8 }
  let elapsedTime := elapsedTime.tmod hourSeconds
  let minute := BitVec.ofInt 64 (elapsedTime.tdiv minuteSeconds)
  let s := { s with clock.minutes := (minute &&& 0xFF).setWidth 8 }
  let elapsedTime := elapsedTime.tmod minuteSeconds
  { s with clock.seconds := (BitVec.ofInt 64 elapsedTime &&& 0xFF).setWidth 8 }

/-- `MBC3_ReadByte`: the window of the RAM shows the RAM, or a register of the clock, or 0 if it
is locked. -/
def mbc3ReadByte (c : Cartridge) (s : MBC3State) (memAddr : Word) : Byte :=
  let address : BitVec 32 := memAddr.setWidth 32
  if address.toNat ≤ 0x3FFF then c.rom address.toNat
  else if address.toNat ≤ 0x7FFF then
    c.rom ((address - 0x4000) <<< s.ROMBankNumber.toNat).toNat
  else if 0xA000 ≤ address.toNat ∧ address.toNat ≤ 0xBFFF then
    if s.RAM_TimerEnable ≠ 0 then
      if s.RTCAccessMode = mbc3RamMode then
        c.ram ((address - 0xA000) <<< s.RAMBankNumber.toNat).toNat
      else if s.RTCAccessMode = mbc3RtcMode then readRTCRegister s
      else 0x00
    else 0x00
  else 0x00

/-- `MBC3_WriteByte`.  A store to the RAM is carried out, and then falls through to the `return`
of those that are not.  What is returned is therefore 0 for a byte that has been stored, and a
caller takes it for refused. -/
def mbc3WriteByte (c : Cartridge) (s : MBC3State) (time : ℤ) (memAddr : Word) (value : Byte) :
    (Cartridge × MBC3State) × ℕ :=
  let address := memAddr
  if address.toNat ≤ 0x1FFF then
    if value &&& 0x0A = 0x0A then ((c, { s with RAM_TimerEnable := 1 }), 0x01)
    else ((c, { s with RAM_TimerEnable := 0 }), 0x01)
  else if address.toNat ≤ 0x3FFF then
    let value7Bit := value &&& 0x7F
    if value7Bit = 0x00 then ((c, { s with ROMBankNumber := 0x01 }), 0x01)
    else ((c, { s with ROMBankNumber := value7Bit }), 0x01)
  else if address.toNat ≤ 0x5FFF then
    if value.toNat ≤ 0x07 then
      ((c, { s with RAMBankNumber := value, RTCAccessMode := mbc3RamMode }), 0x01)
    else if 0x08 ≤ value.toNat ∧ value.toNat ≤ 0x0C then
      ((c, { s with RTCRegisterSelect := value, RTCAccessMode := mbc3RtcMode }), 0x01)
    else ((c, s), 0x00)
  else if address.toNat ≤ 0x7FFF then
    if s.RTCAccessMode = mbc3RtcMode then
      let s := if s.LatchClockSequence = 0x00 ∧ value = 0x01 then latchRTC s time else s
      ((c, { s with LatchClockSequence := value }), 0x01)
    else ((c, s), 0x01)
  else if 0xA000 ≤ address.toNat ∧ address.toNat ≤ 0xBFFF then
    if s.RAM_TimerEnable ≠ 0 then
      if s.RTCAccessMode = mbc3RamMode then
        let address := (address - 0xA000) <<< s.RAMBankNumber.toNat
        -- a store to RAM falls through to the final `return 0x00`
        (({ c with ram := update c.ram address.toNat value }, s), 0x00)
      else if s.RTCAccessMode = mbc3RtcMode then
        let (s, success) := writeToRTCRegister s time value
        ((c, s), success)
      else ((c, s), 0x00)
    else ((c, s), 0x00)
  else ((c, s), 0x00)

/-! ## The call through `cartridge.mbc` -/

/-- `cartridge.mbc->readByte(address)`.  The three stubs answer 1 to everything. -/
def mbcRead (m : Machine) (address : Word) : Byte :=
  match m.controller with
  | none => 0
  | some .mbcNone => mbcNoneReadByte m.cartridge address
  | some .mbc1 => mbc1ReadByte m.cartridge m.mbc1 address
  | some .mbc3 => mbc3ReadByte m.cartridge m.mbc3 address
  | some .mbc2 | some .mbc4 | some .mbc5 => 1

/-- `cartridge.mbc->writeByte(address, value)`. -/
def mbcWrite (m : Machine) (address : Word) (value : Byte) : Machine × ℕ :=
  match m.controller with
  | none => (m, 0)
  | some .mbcNone =>
    let (cartridge, success) := mbcNoneWriteByte m.cartridge address value
    ({ m with cartridge }, success)
  | some .mbc1 =>
    let ((cartridge, mbc1), success) := mbc1WriteByte m.cartridge m.mbc1 address value
    ({ m with cartridge, mbc1 }, success)
  | some .mbc3 =>
    let ((cartridge, mbc3), success) := mbc3WriteByte m.cartridge m.mbc3 m.time address value
    ({ m with cartridge, mbc3 }, success)
  | some .mbc2 | some .mbc4 | some .mbc5 => (m, 1)

end GameBloat
