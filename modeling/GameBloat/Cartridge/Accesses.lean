import GameBloat.Cartridge.Load
import GameBloat.Library.BankMap
import GameBloat.Loop

/-!
# What the bank controllers touch

The bank controllers index `cartridge.rom` and `cartridge.ram` by what they have computed from the
address and their registers, and check nothing.  `mmuReadAccesses` and `mmuWriteAccesses` list, in
the order of the source, the elements an access to the address space touches and the amounts by
which it shifts.  That these lists are complete is a theorem: a read depends on no other element
of the cartridge (`mmuReadByte_footprint`), and a store changes no other (`storeByte_footprint`).

`cartridge_accesses_in_bounds_iff` says when all of them are inside what `loadCartridge` has
allocated: the banks that the registers select, used as shift amounts, have to be small.

The lists are needed because the functions of the model are total.  Where the C program would read
behind the end of an array, the model finds some byte; so "in bounds" cannot be read off a result,
and is said of the accesses instead.  The two footprint theorems are what keeps such a list
honest.

A window of 16 KB or 8 KB is accessed at all its offsets, and whether the shifted offset is in
bounds depends on the largest one only, as long as nothing is cut off on the way
(`forall_shifted_window_iff`).  The read path shifts an `unsigned int` of 32 bits and the write
path an `unsigned short` of 16, so there is one lemma for each (`toNat_shiftLeft_read`,
`toNat_shiftLeft_write`).  MBC1 and MBC3 differ in their registers and agree in how they use them;
`ShiftsBanks` is what they have in common, and the bounds are derived from it once for both.

Bounds hold after any history: a run is any sequence of stores, instructions and steps after a
cartridge has been loaded, and the condition `BanksFit` is about the registers at its end.
-/

set_option autoImplicit false

namespace GameBloat

open Function (update)

/-- One thing a bank controller does to an element of the cartridge, or on the way there. -/
inductive CartAccess
  /-- `cartridge.rom[index]` is read. -/
  | rom (index : ℕ)
  /-- `cartridge.ram[index]` is read or assigned. -/
  | ram (index : ℕ)
  /-- A value of 32 bits is shifted left. -/
  | shift (amount : ℕ)
  deriving DecidableEq

/-- The index is inside the memory of the cartridge, and the amount below the width. -/
def CartAccess.InBounds (romSize ramSize : ℕ) : CartAccess → Prop
  | .rom index => index < romSize
  | .ram index => index < ramSize
  | .shift amount => amount < 32

/-! ## The accesses of each function -/

/-- The accesses of `MBCNone_ReadByte`, which indexes both memories without shifting. -/
def mbcNoneReadAccesses (memAddr : Word) : List CartAccess :=
  if memAddr.toNat ≤ 0x7FFF then [.rom memAddr.toNat]
  else if 0xA000 ≤ memAddr.toNat ∧ memAddr.toNat ≤ 0xBFFF then [.ram (memAddr.toNat - 0xA000)]
  else []

/-- The accesses of `MBCNone_WriteByte`. -/
def mbcNoneWriteAccesses (memAddr : Word) : List CartAccess :=
  if 0xA000 ≤ memAddr.toNat ∧ memAddr.toNat ≤ 0xBFFF then [.ram (memAddr.toNat - 0xA000)] else []

/-- The accesses of `MBC1_ReadByte`: the bank number is put together in a byte and used as the
amount of a shift. -/
def mbc1ReadAccesses (s : MBC1State) (memAddr : Word) : List CartAccess :=
  let address : BitVec 32 := memAddr.setWidth 32
  if address.toNat ≤ 0x3FFF then [.rom address.toNat]
  else if address.toNat ≤ 0x7FFF then
    if s.AccessMode = mbc1RomMode then
      let bank := s.ROMBankLow ||| s.RAMBank_ROMBankUpper <<< 4
      [.shift 4, .shift bank.toNat, .rom ((address - 0x4000) <<< bank.toNat).toNat]
    else
      let bank := s.ROMBankLow
      [.shift bank.toNat, .rom ((address - 0x4000) <<< bank.toNat).toNat]
  else if 0xA000 ≤ address.toNat ∧ address.toNat ≤ 0xBFFF then
    if s.RAMEnable ≠ 0 then
      let address := address - 0xA000
      if s.AccessMode = mbc1RamMode then
        [.shift s.RAMBank_ROMBankUpper.toNat,
          .ram (address <<< s.RAMBank_ROMBankUpper.toNat).toNat]
      else [.ram address.toNat]
    else []
  else []

/-- The accesses of `MBC1_WriteByte`. -/
def mbc1WriteAccesses (s : MBC1State) (memAddr : Word) : List CartAccess :=
  if 0xA000 ≤ memAddr.toNat ∧ memAddr.toNat ≤ 0xBFFF then
    if s.RAMEnable ≠ 0 then
      let address := memAddr - 0xA000
      if s.AccessMode = mbc1RamMode then
        [.shift s.RAMBank_ROMBankUpper.toNat,
          .ram (address <<< s.RAMBank_ROMBankUpper.toNat).toNat]
      else [.ram address.toNat]
    else []
  else []

/-- The accesses of `MBC3_ReadByte`.  The registers of the clock are not memory. -/
def mbc3ReadAccesses (s : MBC3State) (memAddr : Word) : List CartAccess :=
  let address : BitVec 32 := memAddr.setWidth 32
  if address.toNat ≤ 0x3FFF then [.rom address.toNat]
  else if address.toNat ≤ 0x7FFF then
    [.shift s.ROMBankNumber.toNat, .rom ((address - 0x4000) <<< s.ROMBankNumber.toNat).toNat]
  else if 0xA000 ≤ address.toNat ∧ address.toNat ≤ 0xBFFF then
    if s.RAM_TimerEnable ≠ 0 then
      if s.RTCAccessMode = mbc3RamMode then
        [.shift s.RAMBankNumber.toNat, .ram ((address - 0xA000) <<< s.RAMBankNumber.toNat).toNat]
      else []
    else []
  else []

/-- The accesses of `MBC3_WriteByte`. -/
def mbc3WriteAccesses (s : MBC3State) (memAddr : Word) : List CartAccess :=
  if 0xA000 ≤ memAddr.toNat ∧ memAddr.toNat ≤ 0xBFFF then
    if s.RAM_TimerEnable ≠ 0 then
      if s.RTCAccessMode = mbc3RamMode then
        [.shift s.RAMBankNumber.toNat, .ram ((memAddr - 0xA000) <<< s.RAMBankNumber.toNat).toNat]
      else []
    else []
  else []

/-- The accesses of a read through `cartridge.mbc`. -/
def mbcReadAccesses (m : Machine) (address : Word) : List CartAccess :=
  match m.controller with
  | some .mbcNone => mbcNoneReadAccesses address
  | some .mbc1 => mbc1ReadAccesses m.mbc1 address
  | some .mbc3 => mbc3ReadAccesses m.mbc3 address
  | none | some .mbc2 | some .mbc4 | some .mbc5 => []

/-- The accesses of a write through `cartridge.mbc`. -/
def mbcWriteAccesses (m : Machine) (address : Word) : List CartAccess :=
  match m.controller with
  | some .mbcNone => mbcNoneWriteAccesses address
  | some .mbc1 => mbc1WriteAccesses m.mbc1 address
  | some .mbc3 => mbc3WriteAccesses m.mbc3 address
  | none | some .mbc2 | some .mbc4 | some .mbc5 => []

/-- The addresses that the memory map sends through `cartridge.mbc`: the ROM, and the window of
the RAM. -/
def OnCartridge (address : Word) : Prop :=
  address.toNat < 0x8000 ∨ (0xA000 ≤ address.toNat ∧ address.toNat < 0xC000)

instance (address : Word) : Decidable (OnCartridge address) := inferInstanceAs (Decidable (_ ∨ _))

/-- The accesses of `mmuReadByte`. -/
def mmuReadAccesses (m : Machine) (address : Word) : List CartAccess :=
  if OnCartridge address then mbcReadAccesses m address else []

/-- The accesses of `mmuWriteByte`. -/
def mmuWriteAccesses (m : Machine) (address : Word) : List CartAccess :=
  if OnCartridge address then mbcWriteAccesses m address else []

/-! ## The lists are complete -/

/-- `rom` and `ram` hold what the cartridge does, as far as the access goes. -/
def CartAccess.Agrees (c : Cartridge) (rom ram : ℕ → Byte) : CartAccess → Prop
  | .rom index => rom index = c.rom index
  | .ram index => ram index = c.ram index
  | .shift _ => True

section Footprint

variable {c : Cartridge} {rom ram : ℕ → Byte} {address : Word}

/-- What a read returns depends on the elements that it accesses: without a controller, -/
theorem mbcNoneReadByte_congr
    (h : ∀ access ∈ mbcNoneReadAccesses address, access.Agrees c rom ram) :
    mbcNoneReadByte { c with rom, ram } address = mbcNoneReadByte c address := by
  unfold mbcNoneReadAccesses at h
  unfold mbcNoneReadByte
  split_ifs at h ⊢
  · exact h _ (List.mem_singleton_self _)
  · exact h _ (List.mem_singleton_self _)
  · rfl

/-- with MBC1, -/
theorem mbc1ReadByte_congr {s : MBC1State}
    (h : ∀ access ∈ mbc1ReadAccesses s address, access.Agrees c rom ram) :
    mbc1ReadByte { c with rom, ram } s address = mbc1ReadByte c s address := by
  simp only [mbc1ReadAccesses] at h
  simp only [mbc1ReadByte]
  refine ite_congr rfl (fun hlow ↦ ?_) fun hlow ↦ ite_congr rfl (fun hbank ↦ ?_) fun hbank ↦
    ite_congr rfl (fun hwindow ↦ ite_congr rfl (fun hunlocked ↦ ?_) fun _ ↦ rfl) fun _ ↦ rfl
  · rw [if_pos hlow] at h
    exact h _ (List.mem_singleton_self _)
  · rw [if_neg hlow, if_pos hbank] at h
    by_cases hmode : s.AccessMode = mbc1RomMode
    · rw [if_pos hmode] at h
      rw [if_pos hmode]
      exact h _ (.tail _ (.tail _ (.head _)))
    · rw [if_neg hmode] at h
      rw [if_neg hmode]
      exact h _ (.tail _ (.head _))
  · rw [if_neg hlow, if_neg hbank, if_pos hwindow, if_pos hunlocked] at h
    refine ite_congr rfl (fun hmode ↦ ?_) fun hmode ↦ ?_
    · rw [if_pos hmode] at h
      exact h _ (.tail _ (.head _))
    · rw [if_neg hmode] at h
      exact h _ (List.mem_singleton_self _)

/-- with MBC3, -/
theorem mbc3ReadByte_congr {s : MBC3State}
    (h : ∀ access ∈ mbc3ReadAccesses s address, access.Agrees c rom ram) :
    mbc3ReadByte { c with rom, ram } s address = mbc3ReadByte c s address := by
  simp only [mbc3ReadAccesses] at h
  simp only [mbc3ReadByte]
  refine ite_congr rfl (fun hlow ↦ ?_) fun hlow ↦ ite_congr rfl (fun hbank ↦ ?_) fun hbank ↦
    ite_congr rfl (fun hwindow ↦ ite_congr rfl (fun hunlocked ↦
      ite_congr rfl (fun hmode ↦ ?_) fun _ ↦ rfl) fun _ ↦ rfl) fun _ ↦ rfl
  · rw [if_pos hlow] at h
    exact h _ (List.mem_singleton_self _)
  · rw [if_neg hlow, if_pos hbank] at h
    exact h _ (.tail _ (.head _))
  · rw [if_neg hlow, if_neg hbank, if_pos hwindow, if_pos hunlocked, if_pos hmode] at h
    exact h _ (.tail _ (.head _))

/-- and through the pointer to the controller. -/
theorem mbcRead_congr {m : Machine}
    (h : ∀ access ∈ mbcReadAccesses m address, access.Agrees m.cartridge rom ram) :
    mbcRead { m with cartridge := { m.cartridge with rom, ram } } address = mbcRead m address := by
  have hcontroller : Machine.controller { m with cartridge := { m.cartridge with rom, ram } } =
      m.controller := rfl
  rw [mbcReadAccesses] at h
  rw [mbcRead, mbcRead, hcontroller]
  cases hm : m.controller with
  | none => rfl
  | some controller =>
    rw [hm] at h
    cases controller with
    | mbcNone => exact mbcNoneReadByte_congr h
    | mbc1 => exact mbc1ReadByte_congr h
    | mbc3 => exact mbc3ReadByte_congr h
    | mbc2 | mbc4 | mbc5 => rfl

/-- **A read depends on the listed elements of the cartridge only.** -/
theorem mmuReadByte_footprint {m : Machine}
    (h : ∀ access ∈ mmuReadAccesses m address, access.Agrees m.cartridge rom ram) :
    mmuReadByte { m with cartridge := { m.cartridge with rom, ram } } address =
      mmuReadByte m address := by
  rw [mmuReadAccesses] at h
  rw [mmuReadByte, mmuReadByte]
  by_cases hrom : address.toNat < 0x8000
  · rw [if_pos (.inl hrom)] at h
    rw [if_pos hrom, if_pos hrom, mbcRead_congr h]
  by_cases hvram : address.toNat < 0xA000
  · rw [if_neg hrom, if_neg hrom, if_pos hvram, if_pos hvram]
  by_cases hram : address.toNat < 0xC000
  · rw [if_pos (.inr ⟨by omega, hram⟩)] at h
    rw [if_neg hrom, if_neg hrom, if_neg hvram, if_neg hvram, if_pos hram, if_pos hram,
      mbcRead_congr h]
  · -- nothing else in the address space looks at the cartridge
    simp only [hrom, hvram, hram, if_false]

end Footprint

/-! ### Stores -/

/-- The cartridge after a store of `value` into the elements that a list of accesses names. -/
def Cartridge.store (c : Cartridge) (accesses : List CartAccess) (value : Byte) : Cartridge :=
  { c with ram := fun i ↦ if .ram i ∈ accesses then value else c.ram i }

/-- A list without RAM stores nothing. -/
theorem Cartridge.store_of_not_mem (c : Cartridge) {accesses : List CartAccess} (value : Byte)
    (h : ∀ i, .ram i ∉ accesses) : c.store accesses value = c := by
  rw [store]
  simp only [h, if_false]

/-- A list with one element of RAM stores that element. -/
theorem Cartridge.store_of_mem_iff (c : Cartridge) {accesses : List CartAccess} (value : Byte)
    {index : ℕ} (h : ∀ i, .ram i ∈ accesses ↔ i = index) :
    c.store accesses value = { c with ram := update c.ram index value } := by
  rw [store]
  congr 1
  funext i
  simp only [h, Function.update_apply]

/-- What a write does to the cartridge is a store into the elements it accesses: without a
controller, -/
theorem mbcNoneWriteByte_cartridge (c : Cartridge) (memAddr : Word) (value : Byte) :
    (mbcNoneWriteByte c memAddr value).1 = c.store (mbcNoneWriteAccesses memAddr) value := by
  rw [mbcNoneWriteByte, mbcNoneWriteAccesses]
  split
  · exact (c.store_of_mem_iff value (by simp)).symm
  · exact (c.store_of_not_mem value (by simp)).symm

/-- with MBC1, -/
theorem mbc1WriteByte_cartridge (c : Cartridge) (s : MBC1State) (memAddr : Word) (value : Byte) :
    (mbc1WriteByte c s memAddr value).1.1 = c.store (mbc1WriteAccesses s memAddr) value := by
  rw [mbc1WriteAccesses]
  by_cases hram : 0xA000 ≤ memAddr.toNat ∧ memAddr.toNat ≤ 0xBFFF
  · simp only [mbc1WriteByte]
    rw [if_neg (by omega), if_neg (by omega), if_neg (by omega), if_neg (by omega), if_pos hram,
      if_pos hram]
    split
    · split
      · exact (c.store_of_mem_iff value (by simp)).symm
      · exact (c.store_of_mem_iff value (by simp)).symm
    · exact (c.store_of_not_mem value (by simp)).symm
  · rw [if_neg hram, c.store_of_not_mem value (by simp)]
    -- on every other branch only the registers of the controller change
    simp only [mbc1WriteByte, if_neg hram, apply_ite Prod.fst, ite_self]

/-- with MBC3, -/
theorem mbc3WriteByte_cartridge (c : Cartridge) (s : MBC3State) (time : ℤ) (memAddr : Word)
    (value : Byte) :
    (mbc3WriteByte c s time memAddr value).1.1 = c.store (mbc3WriteAccesses s memAddr) value := by
  rw [mbc3WriteAccesses]
  by_cases hram : 0xA000 ≤ memAddr.toNat ∧ memAddr.toNat ≤ 0xBFFF
  · simp only [mbc3WriteByte]
    rw [if_neg (by omega), if_neg (by omega), if_neg (by omega), if_neg (by omega), if_pos hram,
      if_pos hram]
    split
    · split
      · exact (c.store_of_mem_iff value (by simp)).symm
      · rw [c.store_of_not_mem value (by simp)]
        split <;> rfl
    · exact (c.store_of_not_mem value (by simp)).symm
  · rw [if_neg hram, c.store_of_not_mem value (by simp)]
    -- on every other branch only the registers of the controller change
    simp only [mbc3WriteByte, if_neg hram, apply_ite Prod.fst, ite_self]

/-- and through the pointer to the controller. -/
theorem mbcWrite_cartridge (m : Machine) (address : Word) (value : Byte) :
    (mbcWrite m address value).1.cartridge =
      m.cartridge.store (mbcWriteAccesses m address) value := by
  rw [mbcWrite, mbcWriteAccesses]
  cases m.controller with
  | none => exact (m.cartridge.store_of_not_mem value (by simp)).symm
  | some controller =>
    cases controller with
    | mbcNone => exact mbcNoneWriteByte_cartridge _ _ _
    | mbc1 => exact mbc1WriteByte_cartridge _ _ _ _
    | mbc3 => exact mbc3WriteByte_cartridge _ _ _ _ _
    | mbc2 | mbc4 | mbc5 => exact (m.cartridge.store_of_not_mem value (by simp)).symm

/-- The memory map hands a store to the controller. -/
theorem storeByte_of_onCartridge (m : Machine) {address : Word} (value : Byte)
    (h : OnCartridge address) : storeByte m address value = (mbcWrite m address value).1 := by
  rw [storeByte, mmuWriteByte]
  rcases h with h | ⟨hlo, hhi⟩
  · rw [if_pos h]
  · rw [if_neg (by omega), if_neg (by omega), if_pos hhi]

/-- Elsewhere a store reaches neither the cartridge nor its controllers. -/
theorem storeByte_of_not_onCartridge (m : Machine) {address : Word} (value : Byte)
    (h : ¬OnCartridge address) :
    (storeByte m address value).cartridge = m.cartridge ∧
      (storeByte m address value).mbc1 = m.mbc1 ∧ (storeByte m address value).mbc3 = m.mbc3 := by
  rw [OnCartridge] at h
  rw [storeByte, mmuWriteByte, if_neg (by omega)]
  split_ifs <;> first | exact ⟨rfl, rfl, rfl⟩ | omega

/-- **A store changes the listed elements of the cartridge's RAM, and nothing else of it.** -/
theorem storeByte_footprint (m : Machine) (address : Word) (value : Byte) :
    (storeByte m address value).cartridge =
      m.cartridge.store (mmuWriteAccesses m address) value := by
  rw [mmuWriteAccesses]
  by_cases hcart : OnCartridge address
  · rw [if_pos hcart, ← mbcWrite_cartridge, storeByte_of_onCartridge m value hcart]
  · rw [if_neg hcart, m.cartridge.store_of_not_mem value (by simp),
      (storeByte_of_not_onCartridge m value hcart).1]

/-! ## The window of a bank -/

/-- A window of the address space, seen as offsets: every address in it has one, and every offset
below its size belongs to an address. -/
theorem forall_window_iff {base size : ℕ} (hfit : base + size ≤ 0x10000) {P : ℕ → Prop} :
    (∀ address : Word, base ≤ address.toNat → address.toNat < base + size →
      P (address.toNat - base)) ↔ ∀ offset < size, P offset := by
  constructor
  · intro h offset hoffset
    have haddress : (BitVec.ofNat 16 (base + offset)).toNat = base + offset := by
      rw [BitVec.toNat_ofNat]
      omega
    have := h (BitVec.ofNat 16 (base + offset)) (by omega) (by omega)
    rwa [haddress, Nat.add_sub_cancel_left] at this
  · intro h address hlo hhi
    exact h _ (by omega)

/-- The shifted offsets of a window fit when the last of them does. -/
theorem forall_shifted_window_iff {base bits width size : ℕ} (bank : ℕ)
    (hfit : base + 2 ^ width ≤ 0x10000) (hwidth : 0 < width) (hbits : width < bits)
    (hsize : size ≤ 2 ^ (bits - 1)) :
    (∀ address : Word, base ≤ address.toNat → address.toNat < base + 2 ^ width →
      bank < bits ∧ shiftIndex bits bank (address.toNat - base) < size) ↔
      (2 ^ width - 1) * 2 ^ bank < size := by
  rw [← forall_shiftIndex_lt_iff hwidth hbits hsize, ← forall_window_iff hfit]

/-- The index of the read path, computed in an `unsigned int`. -/
theorem toNat_shiftLeft_read {address : Word} {base : ℕ} (h : base ≤ address.toNat) (amount : ℕ) :
    ((address.setWidth 32 - BitVec.ofNat 32 base) <<< amount).toNat =
      shiftIndex 32 amount (address.toNat - base) := by
  have hsub : (address.setWidth 32 - BitVec.ofNat 32 base).toNat = address.toNat - base := by
    have := address.isLt
    rw [BitVec.toNat_sub_of_le] <;> simp [BitVec.le_def] <;> omega
  rw [BitVec.toNat_shiftLeft, Nat.shiftLeft_eq, hsub, shiftIndex]

/-- The index of the write path, computed in an `unsigned short`. -/
theorem toNat_shiftLeft_write {address : Word} {base : ℕ} (h : base ≤ address.toNat)
    (amount : ℕ) :
    ((address - BitVec.ofNat 16 base) <<< amount).toNat =
      shiftIndex 16 amount (address.toNat - base) := by
  have hsub : (address - BitVec.ofNat 16 base).toNat = address.toNat - base := by
    have := address.isLt
    rw [BitVec.toNat_sub_of_le] <;> simp [BitVec.le_def] <;> omega
  rw [BitVec.toNat_shiftLeft, Nat.shiftLeft_eq, hsub, shiftIndex]

/-! ## When the accesses are in bounds -/

/-- Every access that a read or a store could make now is in bounds, at any address. -/
def CartridgeSafe (romSize ramSize : ℕ) (m : Machine) : Prop :=
  ∀ address, ∀ access ∈ mmuReadAccesses m address ++ mmuWriteAccesses m address,
    access.InBounds romSize ramSize

/-- How MBC1 and MBC3 reach the cartridge: bank 0 of the ROM directly, a bank of the ROM and,
where it is unlocked, one of the RAM through a shift.  MBC1 and MBC3 differ in how they keep their
registers, but as far as the arrays are concerned they have this in common. -/
structure ShiftsBanks (reads writes : Word → List CartAccess) (romShift ramShift : ℕ)
    (unlocked : Prop) : Prop where
  low : ∀ {address}, address.toNat < 0x4000 → reads address = [.rom address.toNat]
  rom : ∀ {address}, 0x4000 ≤ address.toNat → address.toNat < 0x8000 → ∀ romSize ramSize,
    (∀ access ∈ reads address, access.InBounds romSize ramSize) ↔
      romShift < 32 ∧ shiftIndex 32 romShift (address.toNat - 0x4000) < romSize
  ram : ∀ {address}, 0xA000 ≤ address.toNat → address.toNat < 0xC000 → ∀ romSize ramSize,
    (∀ access ∈ reads address, access.InBounds romSize ramSize) ↔
      (unlocked → ramShift < 32 ∧
        shiftIndex 32 ramShift (address.toNat - 0xA000) < ramSize)
  write : ∀ {address}, 0xA000 ≤ address.toNat → address.toNat < 0xC000 → ∀ romSize ramSize,
    (∀ access ∈ writes address, access.InBounds romSize ramSize) ↔
      (unlocked → ramShift < 32 ∧
        shiftIndex 16 ramShift (address.toNat - 0xA000) < ramSize)
  outside : ∀ {address}, ¬OnCartridge address → reads address = []
  readOnly : ∀ {address}, address.toNat < 0xA000 ∨ 0xC000 ≤ address.toNat → writes address = []

/-- The shifts fit when the last offset of each window does. -/
theorem ShiftsBanks.inBounds_iff {reads writes : Word → List CartAccess} {romShift ramShift : ℕ}
    {unlocked : Prop} (h : ShiftsBanks reads writes romShift ramShift unlocked)
    {romSize ramSize : ℕ} (hlow : 0x4000 ≤ romSize) (hrom : romSize ≤ 2 ^ 31)
    (hram : ramSize ≤ 2 ^ 15) :
    (∀ address, ∀ access ∈ reads address ++ writes address, access.InBounds romSize ramSize) ↔
      0x3FFF * 2 ^ romShift < romSize ∧ (unlocked → 0x1FFF * 2 ^ ramShift < ramSize) := by
  have hromWindow := forall_shifted_window_iff romShift (by decide : 0x4000 + 2 ^ 14 ≤ 0x10000)
    (by decide) (by decide : 14 < 32) hrom
  have hramWindow := forall_shifted_window_iff ramShift (by decide : 0xA000 + 2 ^ 13 ≤ 0x10000)
    (by decide) (by decide : 13 < 32) (Nat.le_trans hram (by decide))
  have hramWindow' := forall_shifted_window_iff ramShift (by decide : 0xA000 + 2 ^ 13 ≤ 0x10000)
    (by decide) (by decide : 13 < 16) hram
  simp only [List.forall_mem_append]
  constructor
  · intro hall
    refine ⟨hromWindow.1 fun address hlo hhi ↦ ?_, fun hunlocked ↦
      hramWindow.1 fun address hlo hhi ↦ ?_⟩
    · exact (h.rom hlo hhi _ _).1 (hall address).1
    · exact (h.ram hlo hhi _ _).1 (hall address).1 hunlocked
  · rintro ⟨hromFits, hramFits⟩ address
    constructor
    · by_cases hbank0 : address.toNat < 0x4000
      · rw [h.low hbank0, List.forall_mem_singleton]
        exact Nat.lt_of_lt_of_le hbank0 hlow
      by_cases hbank : address.toNat < 0x8000
      · exact (h.rom (by omega) hbank _ _).2 (hromWindow.2 hromFits address (by omega) hbank)
      by_cases hwindow : 0xA000 ≤ address.toNat ∧ address.toNat < 0xC000
      · exact (h.ram hwindow.1 hwindow.2 _ _).2 fun hunlocked ↦
          hramWindow.2 (hramFits hunlocked) address hwindow.1 hwindow.2
      · rw [h.outside (by rw [OnCartridge]; omega)]
        exact List.forall_mem_nil _
    · by_cases hwindow : 0xA000 ≤ address.toNat ∧ address.toNat < 0xC000
      · -- an offset that fits into the RAM has not been cut to 16 bits on the way
        refine (h.write hwindow.1 hwindow.2 _ _).2 fun hunlocked ↦ ?_
        obtain ⟨hamount, hindex⟩ := hramWindow'.2 (hramFits hunlocked) address hwindow.1 hwindow.2
        exact ⟨by omega, hindex⟩
      · rw [h.readOnly (by omega)]
        exact List.forall_mem_nil _

/-- The amount by which MBC1 shifts an offset into the window of the ROM bank. -/
def MBC1State.romShift (s : MBC1State) : Byte :=
  if s.AccessMode = mbc1RomMode then s.ROMBankLow ||| s.RAMBank_ROMBankUpper <<< 4
  else s.ROMBankLow

/-- The amount by which MBC1 shifts an offset into the RAM. -/
def MBC1State.ramShift (s : MBC1State) : Byte :=
  if s.AccessMode = mbc1RamMode then s.RAMBank_ROMBankUpper else 0

/-- Nothing is accessed where the RAM is locked. -/
theorem forall_mem_ite_iff {unlocked P : Prop} [Decidable unlocked] {accesses : List CartAccess}
    {romSize ramSize : ℕ}
    (h : unlocked → ((∀ access ∈ accesses, access.InBounds romSize ramSize) ↔ P)) :
    (∀ access ∈ if unlocked then accesses else [], access.InBounds romSize ramSize) ↔
      (unlocked → P) := by
  by_cases hunlocked : unlocked
  · rw [if_pos hunlocked, h hunlocked, forall_prop_of_true hunlocked]
  · rw [if_neg hunlocked]
    exact ⟨fun _ h ↦ absurd h hunlocked, fun _ ↦ List.forall_mem_nil _⟩

/-- Widening an address does not change it. -/
theorem toNat_setWidth (address : Word) :
    (address.setWidth 32 : BitVec 32).toNat = address.toNat := by
  rw [BitVec.toNat_setWidth]
  omega

/-- MBC1 reaches the cartridge in this way, -/
theorem mbc1_shiftsBanks (s : MBC1State) :
    ShiftsBanks (mbc1ReadAccesses s) (mbc1WriteAccesses s) s.romShift.toNat s.ramShift.toNat
      (s.RAMEnable ≠ 0) where
  low {address} hlow := by
    simp only [mbc1ReadAccesses, toNat_setWidth]
    exact if_pos (by omega)
  rom {address} hlo hhi romSize ramSize := by
    rw [← toNat_shiftLeft_read hlo, mbc1ReadAccesses, MBC1State.romShift]
    simp only [toNat_setWidth]
    rw [if_neg (by omega), if_pos (by omega)]
    split <;> simp [CartAccess.InBounds]
  ram {address} hlo hhi romSize ramSize := by
    rw [← toNat_shiftLeft_read hlo, mbc1ReadAccesses, MBC1State.ramShift]
    simp only [toNat_setWidth]
    rw [if_neg (by omega), if_neg (by omega), if_pos ⟨hlo, by omega⟩]
    refine forall_mem_ite_iff fun _ ↦ ?_
    split <;> simp [CartAccess.InBounds]
  write {address} hlo hhi romSize ramSize := by
    rw [← toNat_shiftLeft_write hlo, mbc1WriteAccesses, MBC1State.ramShift, if_pos ⟨hlo, by omega⟩]
    refine forall_mem_ite_iff fun _ ↦ ?_
    split <;> simp [CartAccess.InBounds]
  outside {address} houtside := by
    rw [OnCartridge] at houtside
    simp only [mbc1ReadAccesses, toNat_setWidth]
    rw [if_neg (by omega), if_neg (by omega), if_neg (by omega)]
  readOnly {address} houtside := by
    rw [mbc1WriteAccesses, if_neg (by omega)]

/-- and so does MBC3. -/
theorem mbc3_shiftsBanks (s : MBC3State) :
    ShiftsBanks (mbc3ReadAccesses s) (mbc3WriteAccesses s) s.ROMBankNumber.toNat
      s.RAMBankNumber.toNat (s.RAM_TimerEnable ≠ 0 ∧ s.RTCAccessMode = mbc3RamMode) where
  low {address} hlow := by
    simp only [mbc3ReadAccesses, toNat_setWidth]
    exact if_pos (by omega)
  rom {address} hlo hhi romSize ramSize := by
    rw [← toNat_shiftLeft_read hlo, mbc3ReadAccesses]
    simp only [toNat_setWidth]
    rw [if_neg (by omega), if_pos (by omega)]
    simp [CartAccess.InBounds]
  ram {address} hlo hhi romSize ramSize := by
    rw [← toNat_shiftLeft_read hlo, mbc3ReadAccesses, and_imp]
    simp only [toNat_setWidth]
    rw [if_neg (by omega), if_neg (by omega), if_pos ⟨hlo, by omega⟩]
    refine forall_mem_ite_iff fun _ ↦ forall_mem_ite_iff fun _ ↦ ?_
    simp [CartAccess.InBounds]
  write {address} hlo hhi romSize ramSize := by
    rw [← toNat_shiftLeft_write hlo, mbc3WriteAccesses, if_pos ⟨hlo, by omega⟩, and_imp]
    refine forall_mem_ite_iff fun _ ↦ forall_mem_ite_iff fun _ ↦ ?_
    simp [CartAccess.InBounds]
  outside {address} houtside := by
    rw [OnCartridge] at houtside
    simp only [mbc3ReadAccesses, toNat_setWidth]
    rw [if_neg (by omega), if_neg (by omega), if_neg (by omega)]
  readOnly {address} houtside := by
    rw [mbc3WriteAccesses, if_neg (by omega)]

/-- Through the memory map, the accesses are those of the controller. -/
theorem ShiftsBanks.cartridgeSafe_iff {m : Machine} {romShift ramShift : ℕ} {unlocked : Prop}
    (h : ShiftsBanks (mbcReadAccesses m) (mbcWriteAccesses m) romShift ramShift unlocked)
    (image : Image) :
    CartridgeSafe image.romSize.toNat image.ramSize m ↔
      0x3FFF * 2 ^ romShift < image.romSize.toNat ∧
      (unlocked → 0x1FFF * 2 ^ ramShift < image.ramSize) := by
  have hreads (address : Word) : mmuReadAccesses m address = mbcReadAccesses m address := by
    by_cases hcart : OnCartridge address
    · exact if_pos hcart
    · rw [mmuReadAccesses, if_neg hcart, h.outside hcart]
  have hwrites (address : Word) : mmuWriteAccesses m address = mbcWriteAccesses m address := by
    by_cases hcart : OnCartridge address
    · exact if_pos hcart
    · rw [mmuWriteAccesses, if_neg hcart, h.readOnly (by rw [OnCartridge] at hcart; omega)]
  have hromSize := image.romSize_bounds
  have hramSize := image.ramSize_cases
  simp only [CartridgeSafe, hreads, hwrites]
  exact h.inBounds_iff (by omega) (by omega) (by omega)

/-- Without a controller there are no banks, and the RAM is never locked. -/
theorem mbcNone_cartridgeSafe_iff {m : Machine} (hm : m.controller = some .mbcNone)
    (image : Image) :
    CartridgeSafe image.romSize.toNat image.ramSize m ↔ 0x1FFF < image.ramSize := by
  have hromSize := image.romSize_bounds
  constructor
  · intro h
    have hlast : CartAccess.ram 0x1FFF ∈ mmuReadAccesses m 0xBFFF := by
      rw [mmuReadAccesses, if_pos (by decide), mbcReadAccesses, hm]
      exact List.mem_singleton_self _
    exact h 0xBFFF _ (List.mem_append_left _ hlast)
  · intro hramSize address
    have hrom (h : address.toNat ≤ 0x7FFF) :
        (CartAccess.rom address.toNat).InBounds image.romSize.toNat image.ramSize := by
      rw [CartAccess.InBounds]
      omega
    have hram (h : 0xA000 ≤ address.toNat ∧ address.toNat ≤ 0xBFFF) :
        (CartAccess.ram (address.toNat - 0xA000)).InBounds image.romSize.toNat image.ramSize := by
      rw [CartAccess.InBounds]
      omega
    simp only [List.forall_mem_append, mmuReadAccesses, mmuWriteAccesses, mbcReadAccesses,
      mbcWriteAccesses, hm, mbcNoneReadAccesses, mbcNoneWriteAccesses]
    constructor
    · split
      · split
        · exact List.forall_mem_singleton.2 (hrom ‹_›)
        · split
          · exact List.forall_mem_singleton.2 (hram ‹_›)
          · exact List.forall_mem_nil _
      · exact List.forall_mem_nil _
    · split
      · split
        · exact List.forall_mem_singleton.2 (hram ‹_›)
        · exact List.forall_mem_nil _
      · exact List.forall_mem_nil _

/-- The banks that the registers select fit into the cartridge.  The shift amounts of the two
windows are what the registers call banks. -/
def BanksFit (image : Image) (m : Machine) : Prop :=
  match image.controller with
  | .mbcNone => 0x1FFF < image.ramSize
  | .mbc1 =>
    0x3FFF * 2 ^ m.mbc1.romShift.toNat < image.romSize.toNat ∧
      (m.mbc1.RAMEnable ≠ 0 → 0x1FFF * 2 ^ m.mbc1.ramShift.toNat < image.ramSize)
  | .mbc3 =>
    0x3FFF * 2 ^ m.mbc3.ROMBankNumber.toNat < image.romSize.toNat ∧
      (m.mbc3.RAM_TimerEnable ≠ 0 ∧ m.mbc3.RTCAccessMode = mbc3RamMode →
        0x1FFF * 2 ^ m.mbc3.RAMBankNumber.toNat < image.ramSize)
  | .mbc2 | .mbc4 | .mbc5 => True

/-- When the accesses are in bounds, for each controller. -/
theorem cartridgeSafe_iff {m : Machine} {image : Image}
    (hm : m.controller = some image.controller) :
    CartridgeSafe image.romSize.toNat image.ramSize m ↔ BanksFit image m := by
  rw [BanksFit]
  cases hcontroller : image.controller <;> rw [hcontroller] at hm
  case mbcNone => exact mbcNone_cartridgeSafe_iff hm image
  case mbc1 =>
    refine ShiftsBanks.cartridgeSafe_iff ?_ image
    have hreads : mbcReadAccesses m = mbc1ReadAccesses m.mbc1 := by
      funext address
      rw [mbcReadAccesses, hm]
    have hwrites : mbcWriteAccesses m = mbc1WriteAccesses m.mbc1 := by
      funext address
      rw [mbcWriteAccesses, hm]
    rw [hreads, hwrites]
    exact mbc1_shiftsBanks m.mbc1
  case mbc3 =>
    refine ShiftsBanks.cartridgeSafe_iff ?_ image
    have hreads : mbcReadAccesses m = mbc3ReadAccesses m.mbc3 := by
      funext address
      rw [mbcReadAccesses, hm]
    have hwrites : mbcWriteAccesses m = mbc3WriteAccesses m.mbc3 := by
      funext address
      rw [mbcWriteAccesses, hm]
    rw [hreads, hwrites]
    exact mbc3_shiftsBanks m.mbc3
  all_goals
    -- a stub reaches nothing
    refine iff_of_true (fun address access haccess ↦ ?_) trivial
    simp [mmuReadAccesses, mmuWriteAccesses, mbcReadAccesses, mbcWriteAccesses, hm] at haccess

/-! ## Runs -/

/-- No store changes which functions `MBC` holds, -/
theorem StoreEffect.MBC {m m' : Machine} {address : Word} {value : Byte}
    (h : StoreEffect m address value m') : m'.MBC = m.MBC := by
  cases h <;> rfl

/-- or through which controller the cartridge is reached. -/
theorem storeByte_controller (m : Machine) (address : Word) (value : Byte) :
    (storeByte m address value).controller = m.controller := by
  rw [Machine.controller, storeByte_footprint, (storeByte_effect m address value).MBC]
  rfl

/-- The controller of the cartridge stays what it is, whatever happens. -/
theorem Event.step_controller (m : Machine) (e : Event) : (e.step m).controller = m.controller := by
  have hmoves {t : ℕ} {m m' : Machine} (h : CpuMoves m t m') : m'.controller = m.controller := by
    refine h.preserves (P := fun m' ↦ m'.controller = m.controller) (fun m₁ n m₂ hmove h ↦ ?_) rfl
    cases hmove with
    | write address value => rw [storeByte_controller, h]
    | registers | ticks | interrupts | stop => exact h
  cases e with
  | loopCycle =>
    obtain ⟨_, -, -, hcpu, -⟩ := cpuStep_moves m
    obtain ⟨_, hinterrupt⟩ := interruptStep_moves (GameBloat.gpuStep (cpuStep m).1 (cpuStep m).2)
    exact (hmoves hinterrupt).trans (show (cpuStep m).1.controller = m.controller from hmoves hcpu)
  | mmuWriteByte address value => exact storeByte_controller m address value
  | gpuStep | clock => rfl

/-- A run leaves the controller as it is. -/
theorem run_controller (m : Machine) (events : List Event) :
    (gameboy.run m events).controller = m.controller := by
  refine System.run_invariant (I := fun m' : Machine ↦ m'.controller = m.controller)
    (fun m' e _ h ↦ ?_) rfl (fun _ _ ↦ trivial : ∀ e ∈ events, True)
  exact (Event.step_controller m' e).trans h

/-- **When the accesses stay inside the cartridge.**  Whatever has happened since a cartridge was
loaded, the next read or store at any address stays inside its memory, and shifts by less than 32,
if and only if the banks that the registers select fit. -/
theorem cartridge_accesses_in_bounds_iff (m : Machine) (image : Image) (events : List Event) :
    let m' := gameboy.run (loadCartridge m (some image.bytes)).1 events
    CartridgeSafe image.romSize.toNat image.ramSize m' ↔ BanksFit image m' := by
  refine cartridgeSafe_iff ?_
  rw [run_controller, loadCartridge_image]
  rfl

/-- In a cartridge of 32 KB, bank 5 of MBC1 is read far behind the end of the ROM. -/
theorem small_mbc1_not_cartridgeSafe :
    let image := Image.small 0 0x01 .mbc1 (by decide)
    let m :=
      gameboy.run (loadCartridge Machine.powerOn (some image.bytes)).1 [.mmuWriteByte 0x2000 5]
    ¬CartridgeSafe image.romSize.toNat image.ramSize m := by
  intro image m h
  have hm : m = gameboy.run (Machine.powerOn.insert image) [.mmuWriteByte 0x2000 5] := by
    simp only [m, loadCartridge_image]
  have haccess : CartAccess.rom 0x7FFE0 ∈ mmuReadAccesses m 0x7FFF := by
    rw [hm]
    decide
  have hbounds : 0x7FFE0 < 0x8000 := h 0x7FFF _ (List.mem_append_left _ haccess)
  omega

end GameBloat
