import GameBloat.Cartridge.Accesses
import GameBloat.Cartridge.BankRegisters

/-!
# Which byte of the ROM a bank shows

A ROM larger than 32 KB is seen through a window of 16 KB at 0x4000.  The documented map lays the
banks one after the other: offset `o` in bank `b` is the byte `b * 0x4000 + o`.  MBC1 and MBC3
shift the offset left by the bank number instead, and the two agree on no bank other than 0, which
is never selected.  So `mbc1_bank_mapping_iff` and `mbc3_bank_mapping_iff` leave one way for a
read to be right: the ROM holds the same byte in both cells.

The bank is a function of the history of writes.  `mbc1Bank` and `mbc3Bank` say which bank is
documented to be selected, and `mbc1Shift` by how much MBC1 shifts.

The statements are about every history of calls of the write function from its initial state,
every offset of the window and every cartridge.  The registers after a history are those that the
last writes to their ranges have left (`mbc1After_romShift`, `mbc3After_ROMBankNumber`), and a
read is evaluated in terms of them.  For MBC1 the documented bank and the shift differ in three
ways: the low number is 0 until it is written, where bank 1 is documented; the upper two bits are
put in at bit 4 instead of bit 5; and the sum is a shift amount.

That the shifted cell is never the documented one is a fact about numbers, and is in the library
(`GameBloat.Library.BankMap`): a shift by less than the 14 bits of the window could only reach it
from an offset that is a multiple of the size of the window, and so could a longer one; the only
such offset is 0, which no shift moves.
-/

set_option autoImplicit false

namespace GameBloat

/-- The last value that a list of calls writes to the addresses from `lo` to `hi`. -/
def lastWritten (lo hi : ℕ) (calls : List (Word × Byte)) : Option Byte :=
  latest (fun call ↦ writtenTo lo hi call.1 call.2) calls

/-- An address in the window of the bank. -/
def bankAddress (offset : ℕ) : Word := BitVec.ofNat 16 (0x4000 + offset)

/-- The window has 0x4000 addresses. -/
theorem toNat_bankAddress {offset : ℕ} (h : offset < 0x4000) :
    (bankAddress offset).toNat = 0x4000 + offset := by
  rw [bankAddress, BitVec.toNat_ofNat]
  omega

/-! ## MBC1 -/

/-- `MBC1_WriteByte` as a system: an event is a call of it. -/
def mbc1Calls : System (Cartridge × MBC1State) (Word × Byte) Empty :=
  ⟨fun s call ↦ (mbc1WriteByte s.1 s.2 call.1 call.2).1, fun _ _ ↦ []⟩

/-- A cartridge and MBC1, from its initial state, after calls of `MBC1_WriteByte`. -/
def mbc1After (c : Cartridge) (calls : List (Word × Byte)) : Cartridge × MBC1State :=
  mbc1Calls.run (c, Machine.powerOn.mbc1) calls

/-- The bank that is documented to be selected: in ROM mode seven bits, in RAM mode five. -/
def mbc1Bank (calls : List (Word × Byte)) : ℕ :=
  let low := ((lastWritten 0x2000 0x3FFF calls).map fun value ↦
    if value.toNat % 32 = 0 then 1 else value.toNat % 32).getD 1
  let upper := ((lastWritten 0x4000 0x5FFF calls).map fun value ↦ value.toNat % 4).getD 0
  if (lastWritten 0x6000 0x7FFF calls).getD mbc1RomMode = mbc1RomMode then 32 * upper + low else low

/-- The amount by which MBC1 shifts: the low number is 0 before it is written, and the upper two
bits are put over its fifth. -/
def mbc1Shift (calls : List (Word × Byte)) : ℕ :=
  let low := ((lastWritten 0x2000 0x3FFF calls).map lowBank).getD 0
  let upper := ((lastWritten 0x4000 0x5FFF calls).map (· &&& 0x03)).getD 0
  if (lastWritten 0x6000 0x7FFF calls).getD mbc1RomMode = mbc1RomMode then
    (low ||| upper <<< 4).toNat
  else low.toNat

/-- Bank 0 is never selected, and neither is 0x20, 0x40 or 0x60. -/
theorem mbc1Bank_mod_ne_zero (calls : List (Word × Byte)) : mbc1Bank calls % 32 ≠ 0 := by
  have hlow : ((lastWritten 0x2000 0x3FFF calls).map fun value ↦
      if value.toNat % 32 = 0 then 1 else value.toNat % 32).getD 1 % 32 ≠ 0 := by
    cases lastWritten 0x2000 0x3FFF calls with
    | none => decide
    | some value =>
      rw [Option.map_some, Option.getD_some]
      split <;> omega
  rw [mbc1Bank]
  split <;> omega

/-- No call changes the ROM. -/
theorem mbc1After_rom (c : Cartridge) (calls : List (Word × Byte)) :
    (mbc1After c calls).1.rom = c.rom := by
  refine System.run_invariant (I := fun s : Cartridge × MBC1State ↦ s.1.rom = c.rom)
    (fun s call _ h ↦ ?_) rfl (fun _ _ ↦ trivial : ∀ call ∈ calls, True)
  have hstore := mbc1WriteByte_cartridge s.1 s.2 call.1 call.2
  exact (congrArg Cartridge.rom hstore).trans h

/-- The registers are determined by the last calls that write to them. -/
theorem mbc1After_romShift (c : Cartridge) (calls : List (Word × Byte)) :
    (mbc1After c calls).2.romShift.toNat = mbc1Shift calls := by
  have hlatched {reg : MBC1State → Byte} {lo hi : ℕ} {g : Byte → Byte}
      (hstep : ∀ c s memAddr value, reg (mbc1WriteByte c s memAddr value).1.2 =
        ((writtenTo lo hi memAddr value).map g).getD (reg s)) :
      reg (mbc1After c calls).2 =
        ((lastWritten lo hi calls).map g).getD (reg Machine.powerOn.mbc1) :=
    System.run_latched_of_forall (fun s : Cartridge × MBC1State ↦ reg s.2)
      (fun s call ↦ hstep s.1 s.2 call.1 call.2) _ calls
  have hlow := hlatched mbc1WriteByte_ROMBankLow
  have hupper := hlatched mbc1WriteByte_RAMBank_ROMBankUpper
  have hmode := hlatched mbc1WriteByte_AccessMode
  rw [Option.map_id] at hmode
  rw [MBC1State.romShift, hlow, hupper, hmode]
  exact apply_ite BitVec.toNat _ _ _

/-- A read in the window of the bank gives the byte at the shifted offset. -/
theorem mbc1ReadByte_bankAddress (c : Cartridge) (s : MBC1State) {offset : ℕ}
    (h : offset < 0x4000) :
    mbc1ReadByte c s (bankAddress offset) = c.rom (shiftIndex 32 s.romShift.toNat offset) := by
  have haddress := toNat_bankAddress h
  have hindex := toNat_shiftLeft_read (show 0x4000 ≤ (bankAddress offset).toNat by omega)
    s.romShift.toNat
  rw [haddress, Nat.add_sub_cancel_left] at hindex
  rw [mbc1ReadByte]
  simp only [toNat_setWidth, haddress]
  rw [if_neg (by omega), if_pos (by omega), ← hindex]
  rfl

/-- The documented map holds at an offset: if the byte it names is inside the ROM, then
`MBC1_ReadByte` returns it, and does nothing undefined on the way.  Undefined are a shift by the
width of the type or more, and an index outside of the ROM. -/
def Mbc1MapsBank (c : Cartridge) (calls : List (Word × Byte)) (offset : ℕ) : Prop :=
  let after := mbc1After c calls
  let index := bankIndex 0x4000 (mbc1Bank calls) offset
  index < c.romLength →
    (∀ access ∈ mbc1ReadAccesses after.2 (bankAddress offset),
      access.InBounds c.romLength c.ramLength) ∧
    mbc1ReadByte after.1 after.2 (bankAddress offset) = c.rom index

/-- **When MBC1 shows the documented byte**: exactly when the offset can be shifted by the
registers, into the ROM, and the ROM holds the same byte there as in the documented cell, which is
always another one. -/
theorem mbc1_bank_mapping_iff (c : Cartridge) (calls : List (Word × Byte)) {offset : ℕ}
    (hoffset : offset < 0x4000) :
    let index := bankIndex 0x4000 (mbc1Bank calls) offset
    let shifted := shiftIndex 32 (mbc1Shift calls) offset
    (Mbc1MapsBank c calls offset ↔
      (index < c.romLength →
        mbc1Shift calls < 32 ∧ shifted < c.romLength ∧ c.rom shifted = c.rom index)) ∧
    shifted ≠ index := by
  intro index shifted
  have haddress := toNat_bankAddress hoffset
  have hbank : mbc1Bank calls ≠ 0 := fun h ↦ mbc1Bank_mod_ne_zero calls (by rw [h])
  have hsafe := (mbc1_shiftsBanks (mbc1After c calls).2).rom
    (show 0x4000 ≤ (bankAddress offset).toNat by omega) (by omega) c.romLength c.ramLength
  rw [haddress, Nat.add_sub_cancel_left, mbc1After_romShift] at hsafe
  refine ⟨?_, shiftIndex_ne_bankIndex (by decide : 2 * 14 ≤ 32) hbank hoffset⟩
  rw [Mbc1MapsBank, hsafe, mbc1ReadByte_bankAddress _ _ hoffset, mbc1After_rom,
    mbc1After_romShift, and_assoc]

/-- A ROM that counts to four over and over. -/
def countingRom (romLength : ℕ) : Cartridge :=
  { Machine.powerOn.cartridge with rom := fun i ↦ BitVec.ofNat 8 (i % 4), romLength }

/-- Bank 2 of it has the documented byte at offset 4, although the byte comes from another cell. -/
theorem mbc1_bank_mapping_counting :
    Mbc1MapsBank (countingRom 0x10000) [(0x2000, 2)] 4 ∧
      shiftIndex 32 (mbc1Shift [(0x2000, 2)]) 4 ≠ bankIndex 0x4000 (mbc1Bank [(0x2000, 2)]) 4 := by
  have h := mbc1_bank_mapping_iff (countingRom 0x10000) [(0x2000, 2)] (by decide : 4 < 0x4000)
  exact ⟨h.1.2 fun _ ↦ ⟨by decide, by decide, by decide⟩, h.2⟩

/-- A ROM in which every byte is the number of its bank. -/
def numberedRom (romLength : ℕ) : Cartridge :=
  { Machine.powerOn.cartridge with rom := fun i ↦ BitVec.ofNat 8 (i / 0x4000), romLength }

/-- Before any write, MBC1 shows bank 0 at 0x4000 and not bank 1. -/
theorem mbc1_shows_bank_zero : ¬Mbc1MapsBank (numberedRom 0x8000) [] 0 := by
  intro h
  exact absurd (h (by decide)).2 (by decide)

/-! ## MBC3 -/

/-- `MBC3_WriteByte` as a system: an event is a call of it, at a time. -/
def mbc3Calls : System (Cartridge × MBC3State) (ℤ × Word × Byte) Empty :=
  ⟨fun s call ↦ (mbc3WriteByte s.1 s.2 call.1 call.2.1 call.2.2).1, fun _ _ ↦ []⟩

/-- A cartridge and MBC3, from its initial state, after calls of `MBC3_WriteByte`. -/
def mbc3After (c : Cartridge) (calls : List (ℤ × Word × Byte)) : Cartridge × MBC3State :=
  mbc3Calls.run (c, Machine.powerOn.mbc3) calls

/-- The bank that is documented to be selected: seven bits. -/
def mbc3Bank (calls : List (ℤ × Word × Byte)) : ℕ :=
  ((lastWritten 0x2000 0x3FFF (calls.map Prod.snd)).map fun value ↦
    if value.toNat % 128 = 0 then 1 else value.toNat % 128).getD 1

/-- Bank 0 is never selected. -/
theorem mbc3Bank_ne_zero (calls : List (ℤ × Word × Byte)) : mbc3Bank calls ≠ 0 := by
  rw [mbc3Bank]
  cases lastWritten 0x2000 0x3FFF (calls.map Prod.snd) with
  | none => decide
  | some value =>
    rw [Option.map_some, Option.getD_some]
    split <;> omega

/-- No call changes the ROM, here either. -/
theorem mbc3After_rom (c : Cartridge) (calls : List (ℤ × Word × Byte)) :
    (mbc3After c calls).1.rom = c.rom := by
  refine System.run_invariant (I := fun s : Cartridge × MBC3State ↦ s.1.rom = c.rom)
    (fun s call _ h ↦ ?_) rfl (fun _ _ ↦ trivial : ∀ call ∈ calls, True)
  have hstore := mbc3WriteByte_cartridge s.1 s.2 call.1 call.2.1 call.2.2
  exact (congrArg Cartridge.rom hstore).trans h

/-- What is stored of a bank number, as a number. -/
theorem toNat_romBank (value : Byte) :
    (romBank value).toNat = if value.toNat % 128 = 0 then 1 else value.toNat % 128 := by
  revert value
  decide

/-- The bank register holds the documented bank. -/
theorem mbc3After_ROMBankNumber (c : Cartridge) (calls : List (ℤ × Word × Byte)) :
    (mbc3After c calls).2.ROMBankNumber.toNat = mbc3Bank calls := by
  have hlatched : (mbc3After c calls).2.ROMBankNumber =
      ((lastWritten 0x2000 0x3FFF (calls.map Prod.snd)).map romBank).getD 1 := by
    rw [lastWritten, latest, List.filterMap_map]
    exact System.run_latched_of_forall (fun s : Cartridge × MBC3State ↦ s.2.ROMBankNumber)
      (fun s call ↦ mbc3WriteByte_ROMBankNumber s.1 s.2 call.1 call.2.1 call.2.2) _ calls
  rw [hlatched, mbc3Bank]
  cases lastWritten 0x2000 0x3FFF (calls.map Prod.snd) with
  | none => rfl
  | some value => exact toNat_romBank value

/-- A read in the window of the bank gives the byte at the shifted offset. -/
theorem mbc3ReadByte_bankAddress (c : Cartridge) (s : MBC3State) {offset : ℕ}
    (h : offset < 0x4000) :
    mbc3ReadByte c s (bankAddress offset) =
      c.rom (shiftIndex 32 s.ROMBankNumber.toNat offset) := by
  have haddress := toNat_bankAddress h
  have hindex := toNat_shiftLeft_read (show 0x4000 ≤ (bankAddress offset).toNat by omega)
    s.ROMBankNumber.toNat
  rw [haddress, Nat.add_sub_cancel_left] at hindex
  rw [mbc3ReadByte]
  simp only [toNat_setWidth, haddress]
  rw [if_neg (by omega), if_pos (by omega), ← hindex]
  rfl

/-- Bank 0 of the ROM is seen as it is. -/
theorem mbc3ReadByte_of_lt (c : Cartridge) (s : MBC3State) {offset : ℕ} (h : offset < 0x4000) :
    mbc3ReadByte c s (BitVec.ofNat 16 offset) = c.rom offset := by
  have haddress : (BitVec.ofNat 16 offset).toNat = offset := by
    rw [BitVec.toNat_ofNat]
    omega
  rw [mbc3ReadByte]
  simp only [toNat_setWidth, haddress]
  exact if_pos (by omega)

/-- The documented map holds at an offset: `MBC3_ReadByte` returns the byte there in bank 0, and,
if it is inside the ROM, the byte there in the selected bank, doing nothing undefined on the way.
Banks have 16 KB and lie one behind the other in the file. -/
def Mbc3MapsBank (c : Cartridge) (calls : List (ℤ × Word × Byte)) (offset : ℕ) : Prop :=
  let after := mbc3After c calls
  let index := bankIndex 0x4000 (mbc3Bank calls) offset
  mbc3ReadByte after.1 after.2 (BitVec.ofNat 16 offset) = c.rom offset ∧
  (index < c.romLength →
    (∀ access ∈ mbc3ReadAccesses after.2 (bankAddress offset),
      access.InBounds c.romLength c.ramLength) ∧
    mbc3ReadByte after.1 after.2 (bankAddress offset) = c.rom index)

/-- **When MBC3 shows the documented byte**: bank 0 always, and the selected bank exactly when the
offset can be shifted by its number, into the ROM, and the ROM holds the same byte there as in the
documented cell, which is always another one. -/
theorem mbc3_bank_mapping_iff (c : Cartridge) (calls : List (ℤ × Word × Byte)) {offset : ℕ}
    (hoffset : offset < 0x4000) :
    let index := bankIndex 0x4000 (mbc3Bank calls) offset
    let shifted := shiftIndex 32 (mbc3Bank calls) offset
    (Mbc3MapsBank c calls offset ↔
      (index < c.romLength →
        mbc3Bank calls < 32 ∧ shifted < c.romLength ∧ c.rom shifted = c.rom index)) ∧
    shifted ≠ index := by
  intro index shifted
  have haddress := toNat_bankAddress hoffset
  have hsafe := (mbc3_shiftsBanks (mbc3After c calls).2).rom
    (show 0x4000 ≤ (bankAddress offset).toNat by omega) (by omega) c.romLength c.ramLength
  rw [haddress, Nat.add_sub_cancel_left, mbc3After_ROMBankNumber] at hsafe
  refine ⟨?_, shiftIndex_ne_bankIndex (by decide : 2 * 14 ≤ 32) (mbc3Bank_ne_zero calls) hoffset⟩
  rw [Mbc3MapsBank, hsafe, mbc3ReadByte_bankAddress _ _ hoffset, mbc3After_rom,
    mbc3After_ROMBankNumber, and_assoc, mbc3ReadByte_of_lt _ _ hoffset, mbc3After_rom]
  exact and_iff_right rfl

/-- The same bank of the same ROM, behind MBC3. -/
theorem mbc3_bank_mapping_counting :
    Mbc3MapsBank (countingRom 0x10000) [(0, 0x2000, 2)] 4 ∧
      shiftIndex 32 (mbc3Bank [(0, 0x2000, 2)]) 4 ≠
        bankIndex 0x4000 (mbc3Bank [(0, 0x2000, 2)]) 4 := by
  have h := mbc3_bank_mapping_iff (countingRom 0x10000) [(0, 0x2000, 2)] (by decide : 4 < 0x4000)
  exact ⟨h.1.2 fun _ ↦ ⟨by decide, by decide, by decide⟩, h.2⟩

/-- Before any write, MBC3 shows bank 0 at 0x4000 and not bank 1. -/
theorem mbc3_shows_bank_zero : ¬Mbc3MapsBank (numberedRom 0x8000) [] 0 := by
  intro h
  exact absurd (h.2 (by decide)).2 (by decide)

end GameBloat
