import GameBloat.Cartridge.Accesses
import GameBloat.Cartridge.BankRegisters

/-!
# Banks of cartridge RAM

32 KB of cartridge RAM are four banks, seen through a window of 8 KB at 0xA000.  Both controllers
shift the offset in the window left by the bank number, so a bank holds every second, fourth or
eighth byte only, and the upper half of bank 3 is outside the RAM.  As a `BankedMemory`, each
keeps two pairs of bank and address apart exactly where the shifted offsets are different;
`ramBanks_isolated_iff` puts that together with the bounds.  MBC1 in ROM mode has bank 0 only, and
there all is well.

The library's `BankedMemory` has three operations, to select a bank, to store and to load, and
says what it means that a pair of bank and address is isolated from another: after a store at the
one, the other loads what it did before, and the same one loads what was stored.  The operations
are calls of `MBC1_WriteByte`, `MBC1_ReadByte` and their counterparts for MBC3, at any address of
the register that selects banks.  A memory `Maps` its pairs to cells if selecting, storing and
loading do what they would do to an array, with an index for each pair; isolation is then
inequality of indices.

The index is computed in 32 bits for a read and in 16 for a store.  For the four banks and the
window the two agree, since nothing is cut off (`shiftIndex_ramIndex`).

The law has a second part, that neither access leaves the 32 KB, which is where the upper half of
bank 3 fails.  Once the RAM is unlocked and the mode is given, both parts are functions of the two
pairs alone.
-/

set_option autoImplicit false

namespace GameBloat

open Function (update)

instance : Nontrivial Byte := ⟨0, 1, by decide⟩

/-- A bank and an address that select a byte of cartridge RAM. -/
def InRamWindow (x : Byte × Word) : Prop :=
  x.1.toNat ≤ 3 ∧ 0xA000 ≤ x.2.toNat ∧ x.2.toNat < 0xC000

instance (x : Byte × Word) : Decidable (InRamWindow x) := inferInstanceAs (Decidable (_ ∧ _))

/-- The same address in bank 0. -/
theorem InRamWindow.zero {x : Byte × Word} (h : InRamWindow x) : InRamWindow (0, x.2) :=
  ⟨Nat.zero_le 3, h.2⟩

/-- The addresses of the register that selects a RAM bank. -/
def IsBankPort (port : Word) : Prop := 0x4000 ≤ port.toNat ∧ port.toNat ≤ 0x5FFF

instance (port : Word) : Decidable (IsBankPort port) := inferInstanceAs (Decidable (_ ∧ _))

/-- The offset in the window, shifted by the bank number.  A bank of 8 KB would be the offset plus
a multiple of 0x2000; shifted, the banks overlap, and the offset 0 is the same byte in all of
them. -/
def ramIndex (x : Byte × Word) : ℕ := (x.2.toNat - 0xA000) * 2 ^ x.1.toNat

/-- Neither path cuts anything off a shifted offset. -/
theorem shiftIndex_ramIndex {x : Byte × Word} (h : InRamWindow x) :
    shiftIndex 32 x.1.toNat (x.2.toNat - 0xA000) = ramIndex x ∧
      shiftIndex 16 x.1.toNat (x.2.toNat - 0xA000) = ramIndex x := by
  obtain ⟨hbank, hlo, hhi⟩ := h
  have hoffset : x.2.toNat - 0xA000 < 2 ^ 13 := by omega
  exact ⟨shiftIndex_of_lt (mul_two_pow_lt (by omega) hoffset),
    shiftIndex_of_lt (mul_two_pow_lt (by omega) hoffset)⟩

/-! ## MBC1 -/

section

variable {c : Cartridge} {s : MBC1State} {address : Word}

/-- Selecting a bank through MBC1, -/
theorem mbc1WriteByte_port (c : Cartridge) (s : MBC1State) {port : Word} (hport : IsBankPort port)
    {b : Byte} (hb : b.toNat ≤ 3) :
    (mbc1WriteByte c s port b).1 = (c, { s with RAMBank_ROMBankUpper := b }) := by
  have hmask : ∀ b : Byte, b.toNat ≤ 3 → b &&& 0x03 = b := by decide
  rw [mbc1WriteByte, if_neg (by have := hport.1; omega), if_neg (by have := hport.1; omega),
    if_pos hport.2, hmask b hb]

/-- storing a byte in it, -/
theorem mbc1WriteByte_ram (hlo : 0xA000 ≤ address.toNat) (hhi : address.toNat < 0xC000)
    (hunlocked : s.RAMEnable ≠ 0) (value : Byte) :
    (mbc1WriteByte c s address value).1 =
      ({ c with
        ram := update c.ram (shiftIndex 16 s.ramShift.toNat (address.toNat - 0xA000)) value },
        s) := by
  rw [← toNat_shiftLeft_write hlo, mbc1WriteByte, if_neg (by omega), if_neg (by omega),
    if_neg (by omega), if_neg (by omega), if_pos ⟨hlo, by omega⟩, if_pos hunlocked,
    MBC1State.ramShift]
  split <;> simp

/-- and loading one. -/
theorem mbc1ReadByte_ram (hlo : 0xA000 ≤ address.toNat) (hhi : address.toNat < 0xC000)
    (hunlocked : s.RAMEnable ≠ 0) :
    mbc1ReadByte c s address =
      c.ram (shiftIndex 32 s.ramShift.toNat (address.toNat - 0xA000)) := by
  rw [← toNat_shiftLeft_read hlo, mbc1ReadByte, MBC1State.ramShift]
  simp only [toNat_setWidth]
  rw [if_neg (by omega), if_neg (by omega), if_pos ⟨hlo, by omega⟩, if_pos hunlocked]
  split <;> simp

end

/-- The RAM behind MBC1, with the address through which banks are selected. -/
def mbc1Ram (port : Word) : BankedMemory (Cartridge × MBC1State) Byte Word Byte where
  select s b := (mbc1WriteByte s.1 s.2 port b).1
  store s a v := (mbc1WriteByte s.1 s.2 a v).1
  load s a := mbc1ReadByte s.1 s.2 a

/-- In RAM mode MBC1 maps banks by shifting. -/
theorem mbc1Ram_maps {port : Word} (hport : IsBankPort port) :
    (mbc1Ram port).Maps (fun s ↦ s.2.RAMEnable ≠ 0 ∧ s.2.AccessMode = mbc1RamMode) InRamWindow
      (fun s ↦ s.2.RAMBank_ROMBankUpper) (fun s ↦ s.1.ram) ramIndex where
  select {s b a} hs hvalid := by
    simp only [mbc1Ram, mbc1WriteByte_port s.1 s.2 hport hvalid.1, and_true]
    exact hs
  store {s a} hs hvalid v := by
    have hshift : s.2.ramShift = s.2.RAMBank_ROMBankUpper := if_pos hs.2
    rw [← (shiftIndex_ramIndex hvalid).2]
    simp only [mbc1Ram, mbc1WriteByte_ram hvalid.2.1 hvalid.2.2 hs.1, hshift, and_true]
    exact hs
  load {s a} hs hvalid := by
    have hshift : s.2.ramShift = s.2.RAMBank_ROMBankUpper := if_pos hs.2
    rw [← (shiftIndex_ramIndex hvalid).1]
    simp only [mbc1Ram, mbc1ReadByte_ram hvalid.2.1 hvalid.2.2 hs.1, hshift]

/-- In ROM mode MBC1 uses the offset as it is. -/
theorem mbc1Ram_maps_romMode {port : Word} (hport : IsBankPort port) :
    (mbc1Ram port).Maps (fun s ↦ s.2.RAMEnable ≠ 0 ∧ s.2.AccessMode = mbc1RomMode) InRamWindow
      (fun s ↦ s.2.RAMBank_ROMBankUpper) (fun s ↦ s.1.ram) (fun x ↦ ramIndex (0, x.2)) where
  select {s b a} hs hvalid := by
    simp only [mbc1Ram, mbc1WriteByte_port s.1 s.2 hport hvalid.1, and_true]
    exact hs
  store {s a} hs hvalid v := by
    have hshift : s.2.ramShift = 0 := if_neg (by rw [hs.2]; decide)
    rw [← (shiftIndex_ramIndex hvalid.zero).2]
    simp only [mbc1Ram, mbc1WriteByte_ram hvalid.2.1 hvalid.2.2 hs.1, hshift, and_true]
    exact hs
  load {s a} hs hvalid := by
    have hshift : s.2.ramShift = 0 := if_neg (by rw [hs.2]; decide)
    rw [← (shiftIndex_ramIndex hvalid.zero).1]
    simp only [mbc1Ram, mbc1ReadByte_ram hvalid.2.1 hvalid.2.2 hs.1, hshift]

/-! ## MBC3 -/

section

variable {c : Cartridge} {s : MBC3State} {address : Word}

/-- Selecting a bank through MBC3 selects the RAM as well. -/
theorem mbc3WriteByte_port (c : Cartridge) (s : MBC3State) (time : ℤ) {port : Word}
    (hport : IsBankPort port) {b : Byte} (hb : b.toNat ≤ 3) :
    (mbc3WriteByte c s time port b).1 =
      (c, { s with RAMBankNumber := b, RTCAccessMode := mbc3RamMode }) := by
  rw [mbc3WriteByte, if_neg (by have := hport.1; omega), if_neg (by have := hport.1; omega),
    if_pos hport.2, if_pos (by omega)]

/-- Storing a byte through MBC3, -/
theorem mbc3WriteByte_ram (time : ℤ) (hlo : 0xA000 ≤ address.toNat) (hhi : address.toNat < 0xC000)
    (hunlocked : s.RAM_TimerEnable ≠ 0) (hmode : s.RTCAccessMode = mbc3RamMode) (value : Byte) :
    (mbc3WriteByte c s time address value).1 = ({ c with
      ram := update c.ram (shiftIndex 16 s.RAMBankNumber.toNat (address.toNat - 0xA000)) value },
      s) := by
  rw [← toNat_shiftLeft_write hlo, mbc3WriteByte, if_neg (by omega), if_neg (by omega),
    if_neg (by omega), if_neg (by omega), if_pos ⟨hlo, by omega⟩, if_pos hunlocked, if_pos hmode]
  rfl

/-- and loading one. -/
theorem mbc3ReadByte_ram (hlo : 0xA000 ≤ address.toNat) (hhi : address.toNat < 0xC000)
    (hunlocked : s.RAM_TimerEnable ≠ 0) (hmode : s.RTCAccessMode = mbc3RamMode) :
    mbc3ReadByte c s address =
      c.ram (shiftIndex 32 s.RAMBankNumber.toNat (address.toNat - 0xA000)) := by
  rw [← toNat_shiftLeft_read hlo, mbc3ReadByte]
  simp only [toNat_setWidth]
  rw [if_neg (by omega), if_neg (by omega), if_pos ⟨hlo, by omega⟩, if_pos hunlocked, if_pos hmode]
  rfl

end

/-- The RAM behind MBC3, with the address through which banks are selected. -/
def mbc3Ram (time : ℤ) (port : Word) : BankedMemory (Cartridge × MBC3State) Byte Word Byte where
  select s b := (mbc3WriteByte s.1 s.2 time port b).1
  store s a v := (mbc3WriteByte s.1 s.2 time a v).1
  load s a := mbc3ReadByte s.1 s.2 a

/-- In RAM mode MBC3 maps banks by shifting. -/
theorem mbc3Ram_maps (time : ℤ) {port : Word} (hport : IsBankPort port) :
    (mbc3Ram time port).Maps (fun s ↦ s.2.RAM_TimerEnable ≠ 0 ∧ s.2.RTCAccessMode = mbc3RamMode)
      InRamWindow (fun s ↦ s.2.RAMBankNumber) (fun s ↦ s.1.ram) ramIndex where
  select {s b a} hs hvalid := by
    simp only [mbc3Ram, mbc3WriteByte_port s.1 s.2 time hport hvalid.1, and_true]
    exact hs.1
  store {s a} hs hvalid v := by
    rw [← (shiftIndex_ramIndex hvalid).2]
    simp only [mbc3Ram, mbc3WriteByte_ram time hvalid.2.1 hvalid.2.2 hs.1 hs.2, and_true]
    exact hs
  load {s a} hs hvalid := by
    rw [← (shiftIndex_ramIndex hvalid).1]
    simp only [mbc3Ram, mbc3ReadByte_ram hvalid.2.1 hvalid.2.2 hs.1 hs.2]

/-! ## The law -/

section

variable {σ : Type*} {M : BankedMemory σ Byte Word Byte} {reads writes : σ → Word → List CartAccess}

/-- The banks are isolated at `x` and `y`, and neither the store at `x` nor the load at `y` leaves
the cartridge.  The two parts belong together: a law about bytes says nothing of an access outside
the array, for which C has no meaning. -/
def RamLaw (M : BankedMemory σ Byte Word Byte) (reads writes : σ → Word → List CartAccess)
    (romLength ramLength : ℕ) (s : σ) (x y : Byte × Word) : Prop :=
  M.Isolated s x y ∧
  (∀ access ∈ writes (M.select s x.1) x.2, access.InBounds romLength ramLength) ∧
  ∀ v, ∀ access ∈ reads (M.select (M.store (M.select s x.1) x.2 v) y.1) y.2,
    access.InBounds romLength ramLength

/-- Where a memory is mapped to cells, the law is about the cells. -/
theorem ramLaw_iff {romLength ramLength : ℕ} {I : σ → Prop} {bank : σ → Byte}
    {contents : σ → ℕ → Byte} {index : Byte × Word → ℕ}
    (h : M.Maps I InRamWindow bank contents index)
    (hwrites : ∀ s a, I s → InRamWindow (bank s, a) →
      ((∀ access ∈ writes s a, access.InBounds romLength ramLength) ↔
        index (bank s, a) < ramLength))
    (hreads : ∀ s a, I s → InRamWindow (bank s, a) →
      ((∀ access ∈ reads s a, access.InBounds romLength ramLength) ↔
        index (bank s, a) < ramLength))
    {s : σ} (hs : I s) {x y : Byte × Word} (hx : InRamWindow x) (hy : InRamWindow y) :
    RamLaw M reads writes romLength ramLength s x y ↔
      (y = x ∨ index y ≠ index x) ∧ index x < ramLength ∧ index y < ramLength := by
  rw [RamLaw, h.isolated_iff hs hx hy]
  obtain ⟨b, a⟩ := x
  obtain ⟨b', a'⟩ := y
  obtain ⟨hI, hbank, -⟩ := h.select hs hx
  have hwrite := hwrites _ a hI (hbank.symm ▸ hx)
  rw [hbank] at hwrite
  have hread (v : Byte) : (∀ access ∈ reads (M.select (M.store (M.select s b) a v) b') a',
      access.InBounds romLength ramLength) ↔ index (b', a') < ramLength := by
    obtain ⟨hI', hbank', -⟩ := h.select (h.store hI (hbank.symm ▸ hx) v).1 hy
    have hload := hreads _ a' hI' (hbank'.symm ▸ hy)
    rwa [hbank'] at hload
  simp only [hread, hwrite, forall_const]

end

/-- The law for the RAM behind MBC1. -/
def Mbc1RamLaw (c : Cartridge) (s : MBC1State) (port : Word) (x y : Byte × Word) : Prop :=
  RamLaw (mbc1Ram port) (fun s ↦ mbc1ReadAccesses s.2) (fun s ↦ mbc1WriteAccesses s.2) c.romLength
    c.ramLength (c, s) x y

/-- The law for the RAM behind MBC3. -/
def Mbc3RamLaw (c : Cartridge) (s : MBC3State) (time : ℤ) (port : Word) (x y : Byte × Word) :
    Prop :=
  RamLaw (mbc3Ram time port) (fun s ↦ mbc3ReadAccesses s.2) (fun s ↦ mbc3WriteAccesses s.2)
    c.romLength c.ramLength (c, s) x y

/-- Where the RAM is unlocked, an access is in bounds when the shifted offset is. -/
theorem ShiftsBanks.ram_inBounds_iff {reads writes : Word → List CartAccess} {romShift : ℕ}
    {b : Byte} {unlocked : Prop} (h : ShiftsBanks reads writes romShift b.toNat unlocked)
    (hunlocked : unlocked) {a : Word} (hvalid : InRamWindow (b, a)) (romLength ramLength : ℕ) :
    ((∀ access ∈ writes a, access.InBounds romLength ramLength) ↔ ramIndex (b, a) < ramLength) ∧
    ((∀ access ∈ reads a, access.InBounds romLength ramLength) ↔ ramIndex (b, a) < ramLength) := by
  obtain ⟨h32, h16⟩ := shiftIndex_ramIndex hvalid
  have hamount : b.toNat < 32 := Nat.lt_of_le_of_lt hvalid.1 (by decide)
  rw [h.write hvalid.2.1 hvalid.2.2, h.ram hvalid.2.1 hvalid.2.2, h32, h16]
  simp only [hunlocked, forall_const, hamount, true_and, and_self]

/-- The law for MBC1 in RAM mode, -/
theorem mbc1RamLaw_iff {c : Cartridge} {s : MBC1State} {port : Word} {x y : Byte × Word}
    (hport : IsBankPort port) (hs : s.RAMEnable ≠ 0 ∧ s.AccessMode = mbc1RamMode)
    (hx : InRamWindow x) (hy : InRamWindow y) :
    Mbc1RamLaw c s port x y ↔
      (y = x ∨ ramIndex y ≠ ramIndex x) ∧ ramIndex x < c.ramLength ∧ ramIndex y < c.ramLength := by
  have hbounds (s : Cartridge × MBC1State) (a : Word)
      (hs : s.2.RAMEnable ≠ 0 ∧ s.2.AccessMode = mbc1RamMode)
      (hvalid : InRamWindow (s.2.RAMBank_ROMBankUpper, a)) := by
    have h := mbc1_shiftsBanks s.2
    rw [MBC1State.ramShift, if_pos hs.2] at h
    exact h.ram_inBounds_iff hs.1 hvalid c.romLength c.ramLength
  exact ramLaw_iff (mbc1Ram_maps hport) (fun s a hs hvalid ↦ (hbounds s a hs hvalid).1)
    (fun s a hs hvalid ↦ (hbounds s a hs hvalid).2) hs hx hy

/-- in ROM mode, -/
theorem mbc1RamLaw_iff_romMode {c : Cartridge} {s : MBC1State} {port : Word} {x y : Byte × Word}
    (hport : IsBankPort port) (hs : s.RAMEnable ≠ 0 ∧ s.AccessMode = mbc1RomMode)
    (hx : InRamWindow x) (hy : InRamWindow y) :
    Mbc1RamLaw c s port x y ↔
      (y = x ∨ ramIndex (0, y.2) ≠ ramIndex (0, x.2)) ∧
        ramIndex (0, x.2) < c.ramLength ∧ ramIndex (0, y.2) < c.ramLength := by
  have hbounds (s : Cartridge × MBC1State) (a : Word)
      (hs : s.2.RAMEnable ≠ 0 ∧ s.2.AccessMode = mbc1RomMode)
      (hvalid : InRamWindow (s.2.RAMBank_ROMBankUpper, a)) := by
    have h := mbc1_shiftsBanks s.2
    rw [MBC1State.ramShift, if_neg (by rw [hs.2]; decide)] at h
    exact h.ram_inBounds_iff hs.1 hvalid.zero c.romLength c.ramLength
  exact ramLaw_iff (mbc1Ram_maps_romMode hport) (fun s a hs hvalid ↦ (hbounds s a hs hvalid).1)
    (fun s a hs hvalid ↦ (hbounds s a hs hvalid).2) hs hx hy

/-- and for MBC3. -/
theorem mbc3RamLaw_iff {c : Cartridge} {s : MBC3State} {port : Word} {x y : Byte × Word} (time : ℤ)
    (hport : IsBankPort port) (hs : s.RAM_TimerEnable ≠ 0 ∧ s.RTCAccessMode = mbc3RamMode)
    (hx : InRamWindow x) (hy : InRamWindow y) :
    Mbc3RamLaw c s time port x y ↔
      (y = x ∨ ramIndex y ≠ ramIndex x) ∧ ramIndex x < c.ramLength ∧ ramIndex y < c.ramLength := by
  have hbounds (s : Cartridge × MBC3State) (a : Word)
      (hs : s.2.RAM_TimerEnable ≠ 0 ∧ s.2.RTCAccessMode = mbc3RamMode)
      (hvalid : InRamWindow (s.2.RAMBankNumber, a)) :=
    (mbc3_shiftsBanks s.2).ram_inBounds_iff hs hvalid c.romLength c.ramLength
  exact ramLaw_iff (mbc3Ram_maps time hport) (fun s a hs hvalid ↦ (hbounds s a hs hvalid).1)
    (fun s a hs hvalid ↦ (hbounds s a hs hvalid).2) hs hx hy

/-- The shifted offsets of two pairs of bank and address are in 32 KB of RAM, and they are
different unless the pairs are the same.  This is arithmetic about four numbers, and says nothing
of what has been stored. -/
def KeptApart (x y : Byte × Word) : Prop :=
  (y = x ∨ ramIndex y ≠ ramIndex x) ∧ ramIndex x < 0x8000 ∧ ramIndex y < 0x8000

instance (x y : Byte × Word) : Decidable (KeptApart x y) := inferInstanceAs (Decidable (_ ∧ _))

/-- **When banks of RAM are isolated**, with 32 KB of it unlocked: in RAM mode, with both
controllers, exactly at those pairs of bank and address whose shifted offsets are kept apart; in ROM
mode, where there is only bank 0, at all addresses. -/
theorem ramBanks_isolated_iff {c : Cartridge} (hram : c.ramLength = 0x8000) {port : Word}
    (hport : IsBankPort port) {x y : Byte × Word} (hx : InRamWindow x) (hy : InRamWindow y) :
    (∀ s : MBC1State, s.RAMEnable ≠ 0 → s.AccessMode = mbc1RamMode →
      (Mbc1RamLaw c s port x y ↔ KeptApart x y)) ∧
    (∀ (s : MBC3State) (time : ℤ), s.RAM_TimerEnable ≠ 0 → s.RTCAccessMode = mbc3RamMode →
      (Mbc3RamLaw c s time port x y ↔ KeptApart x y)) ∧
    ∀ s : MBC1State, s.RAMEnable ≠ 0 → s.AccessMode = mbc1RomMode →
      Mbc1RamLaw c s port (0, x.2) (0, y.2) := by
  refine ⟨fun s hunlocked hmode ↦ ?_, fun s time hunlocked hmode ↦ ?_, fun s hunlocked hmode ↦ ?_⟩
  · rw [mbc1RamLaw_iff hport ⟨hunlocked, hmode⟩ hx hy, hram, KeptApart]
  · rw [mbc3RamLaw_iff time hport ⟨hunlocked, hmode⟩ hx hy, hram, KeptApart]
  · rw [mbc1RamLaw_iff_romMode hport ⟨hunlocked, hmode⟩ hx.zero hy.zero, hram]
    have hindex (a : Word) : ramIndex (0, a) = a.toNat - 0xA000 := Nat.mul_one _
    obtain ⟨-, hxlo, hxhi⟩ := hx
    obtain ⟨-, hylo, hyhi⟩ := hy
    simp only [hindex, Prod.mk.injEq, true_and, ← BitVec.toNat_inj]
    omega

/-- Offsets 4 in bank 1 and 1 in bank 2 are kept apart. -/
theorem ramBanks_isolated_four_one :
    let c := { Machine.powerOn.cartridge with ramLength := 0x8000 }
    Mbc1RamLaw c ⟨1, 1, 1, 0⟩ 0x4000 (1, 0xA004) (2, 0xA001) ∧
      Mbc3RamLaw c { Machine.powerOn.mbc3 with RAM_TimerEnable := 1 } 0 0x4000 (1, 0xA004)
        (2, 0xA001) ∧
      Mbc1RamLaw c ⟨1, 0, 1, 0⟩ 0x4000 (0, 0xA004) (0, 0xA001) := by
  intro c
  have hram : c.ramLength = 0x8000 := rfl
  have h := ramBanks_isolated_iff hram (by decide : IsBankPort 0x4000)
    (by decide : InRamWindow (1, 0xA004)) (by decide : InRamWindow (2, 0xA001))
  exact ⟨(h.1 _ (by decide) rfl).2 (by decide), (h.2.1 _ 0 (by decide) rfl).2 (by decide),
    h.2.2 _ (by decide) rfl⟩

/-- Offset 2 in bank 1 and offset 1 in bank 2 are the same byte. -/
theorem mbc1_ramBanks_alias :
    ¬Mbc1RamLaw { Machine.powerOn.cartridge with ramLength := 0x8000 } ⟨1, 1, 1, 0⟩ 0x4000
      (1, 0xA002) (2, 0xA001) := by
  intro h
  exact absurd (h.1 1) (by decide)

end GameBloat
