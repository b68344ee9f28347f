import GameBloat.Cartridge.Acceptance
import GameBloat.Cartridge.PowerUpCheck
import GameBloat.Platforms.Reset

/-!
# Resets that stop halfway

`ResetGame` overwrites the globals in stages: the check reads the logo into the header, `loadROM`
clears memory and resets the CPU before it looks at the file, and `loadCartridge` replaces the
header, the ROM, the RAM and the controller one after the other.  Each stage may refuse the file,
and nobody takes back what the stages before have done.

So the machine that a refused file leaves is the one before only if there was nothing to
overwrite: every global a stage has reached had the value already.  A file that is accepted
replaces everything, but for the RAM if it has none of its own (`resetGame_whole_iff`).

A reset should do one of two things: leave the cartridge, the CPU and the memory untouched, or
replace the cartridge by that of the file.  The theorem says exactly when it does, for every
machine and every file, one that does not exist included.  The condition `NothingHalf` is about
the machine before and the bytes of the file, and has a case for each point at which a reset may
stop.

* `readCartROMToMemory_of_le`, `loadCartridge_of_not_fits`, `loadCartridge_of_ramSizeOf_eq_none`
  and `loadCartridge_of_ramSizeOf_eq_some` are what a load leaves, by how far it gets.
* `loadCartridge_same_iff`: when that is what there was before.  The header is compared byte by
  byte, as far as the file goes; the ROM and the RAM as functions.
* `untouched_resetGame_iff` and `replaced_resetGame_iff`: the two halves, for a file that passes
  the check.
* `resetWhole_iff_of_not_halfValid`: a file that does not pass leaves its logo in the header.

The check reads the logo before the load reads the whole header, so the load starts from a header
in which the logo is that of the file already; as it reads the logo once more, this makes no
difference (`headerRead_logo`).
-/

set_option autoImplicit false

namespace GameBloat

/-! ## Before and after -/

/-- The cartridge is the one before, and CPU and memory are untouched.  The GPU is not part of
this: its registers are reset in any case once the check has passed. -/
structure Untouched (m m' : Machine) : Prop where
  cartridge : m'.cartridge = m.cartridge
  MBC : m'.MBC = m.MBC
  registers : m'.registers = m.registers
  interruptRegisters : m'.interruptRegisters = m.interruptRegisters
  tickCounter : m'.tickCounter = m.tickCounter
  wRAM : m'.wRAM = m.wRAM
  OAM : m'.OAM = m.OAM
  ioPorts : m'.ioPorts = m.ioPorts
  hRAM : m'.hRAM = m.hRAM

/-- The ROM, the RAM and the controller are those of the image. -/
structure BelongsTo (image : Image) (m' : Machine) : Prop where
  romLength : m'.cartridge.romLength = image.romSize.toNat
  rom : ∀ i < image.romSize.toNat, m'.cartridge.rom i = image.bytes.getD i 0
  ramLength : m'.cartridge.ramLength = image.ramSize
  ram : ∀ i < image.ramSize, m'.cartridge.ram i = 0
  controller : m'.controller = some image.controller

/-- The file has passed the check and loaded, and the cartridge belongs to it. -/
def Replaced (m m' : Machine) (inGameFilename : Option (List Byte)) : Prop :=
  (validateCart m inGameFilename).2 ≠ 0 ∧
    ∃ image : Image, inGameFilename = some image.bytes ∧ BelongsTo image m'

/-- The reset has not stopped halfway. -/
def ResetWhole (m : Machine) (inGameFilename : Option (List Byte)) : Prop :=
  Untouched m (MainServer.resetGame m inGameFilename) ∨
    Replaced m (MainServer.resetGame m inGameFilename) inGameFilename

/-! ## What has been overwritten -/

/-- The file is as long as its header says. -/
def RomFits (bytes : List Byte) : Prop :=
  expectedRomSize (romSizeCode bytes) = some (BitVec.ofNat 32 bytes.length)

instance (bytes : List Byte) : Decidable (RomFits bytes) := inferInstanceAs (Decidable (_ = _))

/-- CPU and memory are as `initializeMemory` and `cpuReset` leave them.  Of the interrupt
registers only one is written by them. -/
structure CpuAsReset (m : Machine) : Prop where
  registers : m.registers = ⟨0x01, 0xB0, 0x00, 0x13, 0x00, 0xD8, 0x01, 0x4D, 0xFFFE, 0x0100⟩
  enable : m.interruptRegisters.enable = 0
  tickCounter : m.tickCounter = 0
  wRAM : m.wRAM = fun _ ↦ 0
  OAM : m.OAM = fun _ ↦ 0
  ioPorts : m.ioPorts = resetPorts
  hRAM : m.hRAM = fun _ ↦ 0

/-- The cartridge is as `loadCartridge` leaves it, as far as it gets with the file. -/
structure CartridgeAsLoaded (m : Machine) (bytes : List Byte) : Prop where
  header : ∀ offset < 0x50, 0x100 + offset < bytes.length →
    m.cartridge.header.byte offset = bytes.getD (0x100 + offset) 0
  rom : RomFits bytes → m.cartridge.romLength = bytes.length % 2 ^ 32 ∧
    m.cartridge.rom = fun i ↦ if i < bytes.length % 2 ^ 32 then bytes.getD i 0 else 0
  ram : RomFits bytes → ∀ ramSize, ramSizeOf (ramSizeCode bytes) = some ramSize → ramSize ≠ 0 →
    m.cartridge.ramLength = ramSize ∧ m.cartridge.ram = fun _ ↦ 0
  MBC : RomFits bytes → (ramSizeOf (ramSizeCode bytes)).isSome →
    (setMBCType m.MBC (typeCode bytes)).1 = m.MBC
  mbc : RomFits bytes → (ramSizeOf (ramSizeCode bytes)).isSome →
    (setMBCType m.MBC (typeCode bytes)).2 = 1 → m.cartridge.mbc = true

/-- The logo in the header is the one in the file. -/
def SameLogo (m : Machine) (bytes : List Byte) : Prop :=
  ∀ i < 0x30, m.cartridge.header.nintendoLogo i = bytes.getD (0x104 + i) 0

/-- The file loads, and brings RAM of its own or finds none. -/
def LoadsWhole (m : Machine) (bytes : List Byte) : Prop :=
  ∃ image : Image, image.bytes = bytes ∧ (image.ramSize ≠ 0 ∨ m.cartridge.ramLength = 0)

/-- There is no file, or one that is too short to be read; or it fails the check and has the logo
that the header has; or it passes, and loads whole or finds everything as it would leave it.  The
cases are those in which the reset has changed nothing and those in which it has changed
everything. -/
def NothingHalf (m : Machine) : Option (List Byte) → Prop
  | none => True
  | some bytes =>
    bytes.length < 0x14F ∨
      (¬HalfValid bytes ∧ SameLogo m bytes) ∨
      (HalfValid bytes ∧ (LoadsWhole m bytes ∨ CpuAsReset m ∧ CartridgeAsLoaded m bytes))

/-! ## The header -/

namespace Header

variable (header : Header) {i : ℕ}

/-- The bytes of the fields of a header: the entry point, -/
theorem byte_entryPoint (h : i < 0x04) : header.byte (0x00 + i) = header.entryPoint i := by
  rw [byte, Nat.zero_add, if_pos h]

/-- the logo, -/
theorem byte_nintendoLogo (h : i < 0x30) : header.byte (0x04 + i) = header.nintendoLogo i := by
  rw [byte, if_neg (by omega), if_pos (by omega), Nat.add_sub_cancel_left]

/-- the title, -/
theorem byte_title (h : i < 0x10) : header.byte (0x34 + i) = header.title i := by
  rw [byte, if_neg (by omega), if_neg (by omega), if_pos (by omega), Nat.add_sub_cancel_left]

/-- the licensee, -/
theorem byte_newLicenseeCode (h : i < 0x02) :
    header.byte (0x44 + i) = header.newLicenseeCode i := by
  rw [byte, if_neg (by omega), if_neg (by omega), if_neg (by omega), if_pos (by omega),
    Nat.add_sub_cancel_left]

/-- and the checksum of the whole file. -/
theorem byte_globalChecksum (h : i < 0x02) :
    header.byte (0x4E + i) = header.globalChecksum i := by
  interval_cases i <;> rfl

/-- The last field is that of the last two offsets. -/
theorem byte_of_lt (globalChecksum : ℕ → Byte) (h : i < 0x4E) :
    ({ header with globalChecksum } : Header).byte i = header.byte i := by
  interval_cases i <;> rfl

end Header

section

variable {bytes : List Byte} (h : 0x14F ≤ bytes.length) (header : Header)

include h

/-- Reading the header of the file changes nothing if it is there already.  A file may end one
byte before the header does, and that byte is then not compared. -/
theorem headerRead_eq_self_iff :
    headerRead bytes header = header ↔ ∀ offset < 0x50, 0x100 + offset < bytes.length →
      header.byte offset = bytes.getD (0x100 + offset) 0 := by
  have hgetD {i : ℕ} {d : Byte} (hi : i < bytes.length) : bytes.getD i d = bytes.getD i 0 := by
    simp only [List.getD_eq_getElem?_getD, List.getElem?_eq_getElem hi, Option.getD_some]
  constructor
  · intro hsame offset hoffset hlt
    rw [← hsame]
    rcases Nat.lt_or_ge offset 0x4E with h4E | h4E
    · exact ((headerOf bytes header).byte_of_lt _ h4E).trans (headerOf_byte bytes header hoffset)
    · obtain ⟨i, rfl⟩ := Nat.exists_eq_add_of_le h4E
      rw [Header.byte_globalChecksum _ (by omega), ← Nat.add_assoc, ← hgetD (by omega)]
      exact if_pos (by omega)
  · intro hbyte
    have harray {start count : ℕ} {dest : ℕ → Byte} (hlt : start + count ≤ 0x4E)
        (hfield : ∀ {i}, i < count → header.byte (start + i) = dest i) :
        (fun i ↦ if i < count then bytes.getD (0x100 + start + i) 0 else dest i) = dest := by
      funext i
      split
      · rw [← hfield ‹_›, hbyte _ (by omega) (by omega), Nat.add_assoc]
      · rfl
    have hlast : (fun i ↦ if i < 0x02 then bytes.getD (0x14E + i) (header.globalChecksum i)
        else header.globalChecksum i) = header.globalChecksum := by
      funext i
      by_cases hi : i < 0x02
      · rw [if_pos hi]
        by_cases hlt : 0x14E + i < bytes.length
        · rw [hgetD hlt, ← header.byte_globalChecksum hi, hbyte _ (by omega) (by omega),
            ← Nat.add_assoc]
        · rw [List.getD_eq_getElem?_getD, List.getElem?_eq_none (by omega), Option.getD_none]
      · exact if_neg hi
    have hone (offset : ℕ) (hlt : offset < 0x4E) :
        bytes.getD (0x100 + offset) 0 = header.byte offset :=
      (hbyte offset (by omega) (by omega)).symm
    show _ = Header.mk header.entryPoint header.nintendoLogo header.title header.newLicenseeCode
      header.sgbFlag header.cartridgeType header.romSize header.ramSize header.destinationCode
      header.oldLicenseeCode header.maskROMVersionNumber header.headerChecksum
      header.globalChecksum
    rw [headerRead, headerOf, Header.mk.injEq]
    exact ⟨harray (by decide) header.byte_entryPoint, harray (by decide) header.byte_nintendoLogo,
      harray (by decide) header.byte_title, harray (by decide) header.byte_newLicenseeCode,
      hone 0x46 (by decide), hone 0x47 (by decide), hone 0x48 (by decide), hone 0x49 (by decide),
      hone 0x4A (by decide), hone 0x4B (by decide), hone 0x4C (by decide), hone 0x4D (by decide),
      hlast⟩

/-! ## The load -/

/-- `readCartROMToMemory` reads the header in any case, and then the ROM if the size is right. -/
theorem readCartROMToMemory_of_le (c : Cartridge) :
    readCartROMToMemory c ⟨bytes, 0⟩ =
      if RomFits bytes then
        ({ c with
          header := headerRead bytes c.header
          rom := fun i ↦ if i < bytes.length % 2 ^ 32 then bytes.getD i 0 else 0
          romLength := bytes.length % 2 ^ 32 }, 1)
      else ({ c with header := headerRead bytes c.header }, 0) := by
  have hheader : (setHeaderValues c.header ⟨bytes, 0⟩).1 = headerRead bytes c.header :=
    setHeaderValues_header _ (by show 0x14E ≤ bytes.length; omega)
  have hsize : (headerRead bytes c.header).romSize = romSizeCode bytes := rfl
  have hvalid : validateCartSize (headerRead bytes c.header) (BitVec.ofNat 32 bytes.length) ≠ 0 ↔
      RomFits bytes := by
    refine ⟨validateCartSize_ne_zero, fun hfits ↦ ?_⟩
    have hexpected : expectedRomSize (headerRead bytes c.header).romSize =
        some (BitVec.ofNat 32 bytes.length) := hfits
    simp only [validateCartSize, hexpected, ne_eq, not_true_eq_false, if_false]
    exact Nat.one_ne_zero
  simp only [readCartROMToMemory, getCartSize, setHeaderValues_bytes, hheader, hvalid,
    BitVec.toNat_ofNat]
  split
  · have hrewound : (setHeaderValues c.header ⟨bytes, 0⟩).2.fseek 0 = ⟨bytes, 0⟩ := by
      rw [File.fseek, setHeaderValues_bytes]
    rw [hrewound, File.fread_dest]
    simp only [Nat.zero_add]
  · rfl

/-- A file of another size leaves its header. -/
theorem loadCartridge_of_not_fits (m : Machine) (hfits : ¬RomFits bytes) :
    (loadCartridge m (some bytes)).1 =
      { m with cartridge.header := headerRead bytes m.cartridge.header } := by
  simp only [loadCartridge, readCartROMToMemory_of_le h, if_neg hfits]
  rfl

/-- A file with a code for its RAM that has no `case` leaves its ROM, too. -/
theorem loadCartridge_of_ramSizeOf_eq_none (m : Machine) (hfits : RomFits bytes)
    (hram : ramSizeOf (ramSizeCode bytes) = none) :
    (loadCartridge m (some bytes)).1 =
      { m with cartridge := { m.cartridge with
        header := headerRead bytes m.cartridge.header
        rom := fun i ↦ if i < bytes.length % 2 ^ 32 then bytes.getD i 0 else 0
        romLength := bytes.length % 2 ^ 32 } } := by
  have hcode : (headerRead bytes m.cartridge.header).ramSize = ramSizeCode bytes := rfl
  simp only [loadCartridge, readCartROMToMemory_of_le h, if_pos hfits, hcode, initializeRAM, hram]
  rfl

/-- And with a type that is refused, everything but the pointer to the controller. -/
theorem loadCartridge_of_ramSizeOf_eq_some (m : Machine) (hfits : RomFits bytes) {ramSize : ℕ}
    (hram : ramSizeOf (ramSizeCode bytes) = some ramSize) :
    (loadCartridge m (some bytes)).1 =
      { m with
        cartridge :=
          { header := headerRead bytes m.cartridge.header
            rom := fun i ↦ if i < bytes.length % 2 ^ 32 then bytes.getD i 0 else 0
            romLength := bytes.length % 2 ^ 32
            ram := if ramSize ≠ 0 then fun _ ↦ 0 else m.cartridge.ram
            ramLength := if ramSize ≠ 0 then ramSize else m.cartridge.ramLength
            mbc := if (setMBCType m.MBC (typeCode bytes)).2 ≠ 0 then true else m.cartridge.mbc }
        MBC := (setMBCType m.MBC (typeCode bytes)).1 } := by
  have hcode : (headerRead bytes m.cartridge.header).ramSize = ramSizeCode bytes := rfl
  have htype : (headerRead bytes m.cartridge.header).cartridgeType = typeCode bytes := rfl
  simp only [loadCartridge, readCartROMToMemory_of_le h, if_pos hfits, hcode, htype,
    initializeRAM_of_eq_some hram]
  rw [if_pos (by decide), if_pos (by decide)]
  split <;> rfl

end

/-- A cartridge is its header, its two memories and the pointer to its controller. -/
theorem Cartridge.eq_iff (c c' : Cartridge) :
    c = c' ↔ c.header = c'.header ∧ (c.romLength = c'.romLength ∧ c.rom = c'.rom) ∧
      (c.ramLength = c'.ramLength ∧ c.ram = c'.ram) ∧ c.mbc = c'.mbc := by
  cases c
  cases c'
  rw [Cartridge.mk.injEq]
  exact ⟨fun ⟨hheader, hrom, hromLength, hram, hramLength, hmbc⟩ ↦
      ⟨hheader, ⟨hromLength, hrom⟩, ⟨hramLength, hram⟩, hmbc⟩,
    fun ⟨hheader, ⟨hromLength, hrom⟩, ⟨hramLength, hram⟩, hmbc⟩ ↦
      ⟨hheader, hrom, hromLength, hram, hramLength, hmbc⟩⟩

/-- What `setMBCType` answers is 0 or 1. -/
theorem setMBCType_ne_zero_iff (MBC : Option Controller) (cartMBC : Byte) :
    (setMBCType MBC cartMBC).2 ≠ 0 ↔ (setMBCType MBC cartMBC).2 = 1 := by
  unfold setMBCType
  split_ifs <;> simp

/-- A load that has nothing to overwrite. -/
theorem loadCartridge_same_iff {bytes : List Byte} (h : 0x14F ≤ bytes.length) {m m' : Machine}
    {header : Header} (hcartridge : m'.cartridge = { m.cartridge with header })
    (hMBC : m'.MBC = m.MBC)
    (hheader : headerRead bytes header = headerRead bytes m.cartridge.header) :
    (loadCartridge m' (some bytes)).1.cartridge = m.cartridge ∧
      (loadCartridge m' (some bytes)).1.MBC = m.MBC ↔ CartridgeAsLoaded m bytes := by
  have hsame := headerRead_eq_self_iff h m.cartridge.header
  by_cases hfits : RomFits bytes
  · cases hram : ramSizeOf (ramSizeCode bytes) with
    | none =>
      have hnot : ¬(ramSizeOf (ramSizeCode bytes)).isSome := by
        rw [hram]
        exact Bool.false_ne_true
      rw [loadCartridge_of_ramSizeOf_eq_none h m' hfits hram]
      simp only [hcartridge, hMBC, hheader, Cartridge.eq_iff, hsame, and_true]
      constructor
      · rintro ⟨hread, hlength, hrom⟩
        exact ⟨hread, fun _ ↦ ⟨hlength.symm, hrom.symm⟩,
          fun _ _ hsize ↦ absurd (Option.isSome_iff_exists.2 ⟨_, hsize⟩) hnot,
          fun _ hsome ↦ absurd hsome hnot, fun _ hsome ↦ absurd hsome hnot⟩
      · intro hloaded
        obtain ⟨hlength, hrom⟩ := hloaded.rom hfits
        exact ⟨hloaded.header, hlength.symm, hrom.symm⟩
    | some ramSize =>
      rw [loadCartridge_of_ramSizeOf_eq_some h m' hfits hram]
      simp only [hcartridge, hMBC, hheader, Cartridge.eq_iff, hsame, setMBCType_ne_zero_iff]
      constructor
      · rintro ⟨⟨hread, hrom, hRAM, hmbc⟩, hcontroller⟩
        refine ⟨hread, fun _ ↦ ⟨hrom.1.symm, hrom.2.symm⟩, fun _ size hsize h0 ↦ ?_,
          fun _ _ ↦ hcontroller, fun _ _ hone ↦ ?_⟩
        · obtain rfl := Option.some.inj (hram.symm.trans hsize)
          rw [if_pos h0, if_pos h0] at hRAM
          exact ⟨hRAM.1.symm, hRAM.2.symm⟩
        · rw [if_pos hone] at hmbc
          exact hmbc.symm
      · intro hloaded
        have hsome : (ramSizeOf (ramSizeCode bytes)).isSome :=
          Option.isSome_iff_exists.2 ⟨_, hram⟩
        obtain ⟨hlength, hrom⟩ := hloaded.rom hfits
        refine ⟨⟨hloaded.header, ⟨hlength.symm, hrom.symm⟩, ?_, ?_⟩, hloaded.MBC hfits hsome⟩
        · by_cases h0 : ramSize ≠ 0
          · obtain ⟨hramLength, hRAM⟩ := hloaded.ram hfits ramSize hram h0
            rw [if_pos h0, if_pos h0]
            exact ⟨hramLength.symm, hRAM.symm⟩
          · rw [if_neg h0, if_neg h0]
            exact ⟨rfl, rfl⟩
        · split
          · exact (hloaded.mbc hfits hsome ‹_›).symm
          · rfl
  · rw [loadCartridge_of_not_fits h m' hfits]
    simp only [hcartridge, hMBC, hheader, Cartridge.eq_iff, hsame, and_true]
    exact ⟨fun hread ↦ ⟨hread, fun hf ↦ absurd hf hfits, fun hf ↦ absurd hf hfits,
      fun hf ↦ absurd hf hfits, fun hf ↦ absurd hf hfits⟩, CartridgeAsLoaded.header⟩

/-! ## The reset -/

/-- A load reaches the cartridge and the controller, and nothing else of the machine. -/
theorem loadCartridge_eq (m : Machine) (cartName : Option (List Byte)) :
    ∃ cartridge MBC, (loadCartridge m cartName).1 = { m with cartridge, MBC } := by
  cases cartName with
  | none => exact ⟨m.cartridge, m.MBC, rfl⟩
  | some bytes =>
    simp only [loadCartridge]
    split_ifs <;> exact ⟨_, _, rfl⟩

section

variable {m : Machine} {bytes : List Byte}

/-- The logo is read twice. -/
theorem headerRead_logo (bytes : List Byte) (header : Header) :
    headerRead bytes { header with nintendoLogo := (headerRead bytes header).nintendoLogo } =
      headerRead bytes header := by
  have hlogo : (fun i ↦ if i < 0x30 then bytes.getD (0x104 + i) 0
      else (headerRead bytes header).nintendoLogo i) = (headerRead bytes header).nintendoLogo := by
    funext i
    by_cases hi : i < 0x30
    · rw [if_pos hi]
      exact (if_pos hi).symm
    · exact if_neg hi
  rw [headerRead, headerOf, hlogo]
  rfl

/-- The check leaves the logo of the file. -/
theorem validateCart_header (m : Machine) (h : 0x14F ≤ bytes.length) :
    (validateCart m (some bytes)).1 =
      { m with cartridge.header := { m.cartridge.header with
        nintendoLogo := (headerRead bytes m.cartridge.header).nintendoLogo } } := by
  have hlogo : (checkLogo m.cartridge.header ⟨bytes, 0⟩).1 =
      { m.cartridge.header with
        nintendoLogo := (headerRead bytes m.cartridge.header).nintendoLogo } := by
    simp only [checkLogo, File.fseek, cartLogoStartLoc]
    rw [File.fread_of_le (by show 0x104 + 0x30 ≤ bytes.length; omega)]
    rfl
  simp only [validateCart, if_neg (Nat.not_lt.2 h), hlogo]
  split <;> rfl

/-- The machine that `loadCartridge` is called on. -/
def Machine.cleared (m : Machine) (bytes : List Byte) : Machine :=
  cpuReset (initializeMemory { m with cartridge.header := { m.cartridge.header with
    nintendoLogo := (headerRead bytes m.cartridge.header).nintendoLogo } })

/-- What that machine looks like. -/
theorem Machine.cleared_eq (m : Machine) (bytes : List Byte) :
    m.cleared bytes = { m with
      registers := ⟨0x01, 0xB0, 0x00, 0x13, 0x00, 0xD8, 0x01, 0x4D, 0xFFFE, 0x0100⟩
      interruptRegisters.enable := 0
      tickCounter := 0
      wRAM := fun _ ↦ 0
      OAM := fun _ ↦ 0
      ioPorts := resetPorts
      hRAM := fun _ ↦ 0
      gpu := resetGpu m.gpu
      cartridge.header := { m.cartridge.header with
        nintendoLogo := (headerRead bytes m.cartridge.header).nintendoLogo } } :=
  cpuReset_initializeMemory _

/-- CPU and memory are reset before anything is loaded. -/
theorem Machine.cleared_cpuAsReset (m : Machine) (bytes : List Byte) :
    CpuAsReset (m.cleared bytes) := by
  rw [cleared_eq]
  exact ⟨rfl, rfl, rfl, rfl, rfl, rfl, rfl⟩

/-- The files that pass the check. -/
theorem validateCart_ne_zero_iff (m : Machine) (bytes : List Byte) :
    (validateCart m (some bytes)).2 ≠ 0 ↔ HalfValid bytes := by
  have hone : (validateCart m (some bytes)).2 ≠ 0 ↔ (validateCart m (some bytes)).2 = 1 := by
    simp only [validateCart]
    split_ifs <;> simp
  exact hone.trans (passesCheck_iff m bytes)

/-- A reset with a file that passes the check. -/
theorem resetGame_of_halfValid (m : Machine) (h : HalfValid bytes) :
    MainServer.resetGame m (some bytes) =
      (loadCartridge (m.cleared bytes) (some bytes)).1.gpuReset := by
  rw [MainServer.resetGame_of_valid ((validateCart_ne_zero_iff m bytes).2 h),
    validateCart_header m h.length, MainServer.boot, loadROM, Machine.cleared]

/-- After a reset of CPU and memory, nothing has changed if they had been reset before. -/
theorem untouched_iff {m' : Machine} (hcpu : CpuAsReset m')
    (hinterrupts : m'.interruptRegisters = { m.interruptRegisters with enable := 0 }) :
    Untouched m m' ↔ CpuAsReset m ∧ m'.cartridge = m.cartridge ∧ m'.MBC = m.MBC := by
  constructor
  · intro h
    exact ⟨⟨h.registers ▸ hcpu.registers, h.interruptRegisters ▸ hcpu.enable,
      h.tickCounter ▸ hcpu.tickCounter, h.wRAM ▸ hcpu.wRAM, h.OAM ▸ hcpu.OAM,
      h.ioPorts ▸ hcpu.ioPorts, h.hRAM ▸ hcpu.hRAM⟩, h.cartridge, h.MBC⟩
  · rintro ⟨hm, hcartridge, hMBC⟩
    have hsame : ({ m.interruptRegisters with enable := 0 } : InterruptRegisters) =
        m.interruptRegisters := by
      rw [← hm.enable]
    exact ⟨hcartridge, hMBC, hcpu.registers.trans hm.registers.symm, hinterrupts.trans hsame,
      hcpu.tickCounter.trans hm.tickCounter.symm, hcpu.wRAM.trans hm.wRAM.symm,
      hcpu.OAM.trans hm.OAM.symm, hcpu.ioPorts.trans hm.ioPorts.symm,
      hcpu.hRAM.trans hm.hRAM.symm⟩

/-- A reset leaves the machine untouched if it finds it as it would leave it. -/
theorem untouched_resetGame_iff (h : HalfValid bytes) :
    Untouched m (MainServer.resetGame m (some bytes)) ↔
      CpuAsReset m ∧ CartridgeAsLoaded m bytes := by
  have hinterrupts : (m.cleared bytes).interruptRegisters =
      { m.interruptRegisters with enable := 0 } := by
    rw [Machine.cleared_eq]
  have hcartridge : (m.cleared bytes).cartridge = { m.cartridge with
      header := { m.cartridge.header with
        nintendoLogo := (headerRead bytes m.cartridge.header).nintendoLogo } } := by
    rw [Machine.cleared_eq]
  have hMBC : (m.cleared bytes).MBC = m.MBC := by rw [Machine.cleared_eq]
  have hsame := loadCartridge_same_iff h.length hcartridge hMBC (headerRead_logo bytes _)
  have hcpu := m.cleared_cpuAsReset bytes
  rw [resetGame_of_halfValid m h, ← hsame]
  generalize m.cleared bytes = m' at hcpu hinterrupts
  obtain ⟨cartridge, MBC, hload⟩ := loadCartridge_eq m' (some bytes)
  rw [hload]
  exact untouched_iff ⟨hcpu.registers, hcpu.enable, hcpu.tickCounter, hcpu.wRAM, hcpu.OAM,
    hcpu.ioPorts, hcpu.hRAM⟩ hinterrupts

/-- An image in its slot belongs there, but no RAM is not taken away. -/
theorem belongsTo_insert_iff (m : Machine) (image : Image) :
    BelongsTo image (m.insert image).gpuReset ↔ image.ramSize ≠ 0 ∨ m.cartridge.ramLength = 0 := by
  have hramLength : (m.insert image).gpuReset.cartridge.ramLength =
      if image.ramSize ≠ 0 then image.ramSize else m.cartridge.ramLength := rfl
  constructor
  · intro h
    by_cases h0 : image.ramSize ≠ 0
    · exact .inl h0
    · have hsize := h.ramLength
      rw [hramLength, if_neg h0, not_not.1 h0] at hsize
      exact .inr hsize
  · intro h
    refine ⟨rfl, fun i hi ↦ if_pos hi, ?_, fun i hi ↦ ?_, rfl⟩
    · rw [hramLength]
      split
      · rfl
      · rename_i h0
        rw [h.resolve_left h0, not_not.1 h0]
    · have h0 : image.ramSize ≠ 0 := by omega
      exact congrFun (if_pos h0 : (if image.ramSize ≠ 0 then fun _ ↦ 0
        else m.cartridge.ram) = fun _ ↦ 0) i

/-- A reset replaces the cartridge by a file that loads. -/
theorem replaced_resetGame_iff (h : HalfValid bytes) :
    Replaced m (MainServer.resetGame m (some bytes)) (some bytes) ↔ LoadsWhole m bytes := by
  have hramLength : (m.cleared bytes).cartridge.ramLength = m.cartridge.ramLength := by
    rw [Machine.cleared_eq]
  have hbelongs (image : Image) (himage : image.bytes = bytes) :
      BelongsTo image (MainServer.resetGame m (some bytes)) ↔
        image.ramSize ≠ 0 ∨ m.cartridge.ramLength = 0 := by
    subst himage
    rw [resetGame_of_halfValid m h, loadCartridge_image, belongsTo_insert_iff, hramLength]
  constructor
  · rintro ⟨-, image, himage, hbelongsTo⟩
    have himage := (Option.some.inj himage).symm
    exact ⟨image, himage, (hbelongs image himage).1 hbelongsTo⟩
  · rintro ⟨image, himage, hram⟩
    exact ⟨(validateCart_ne_zero_iff m bytes).2 h, image, congrArg some himage.symm,
      (hbelongs image himage).2 hram⟩

/-- After the check has failed, the logo is all there is to see of the file. -/
theorem resetWhole_iff_of_not_halfValid (hlength : 0x14F ≤ bytes.length) (h : ¬HalfValid bytes) :
    ResetWhole m (some bytes) ↔ SameLogo m bytes := by
  have hfails : ¬(validateCart m (some bytes)).2 ≠ 0 := mt (validateCart_ne_zero_iff m bytes).1 h
  have hreset : MainServer.resetGame m (some bytes) =
      { m with cartridge.header := { m.cartridge.header with
        nintendoLogo := (headerRead bytes m.cartridge.header).nintendoLogo } } :=
    (if_neg hfails).trans (validateCart_header m hlength)
  rw [ResetWhole, hreset, or_iff_left fun h' ↦ hfails h'.1]
  constructor
  · intro hu i hi
    have hlogo := congrArg (fun c : Cartridge ↦ c.header.nintendoLogo i) hu.cartridge
    exact hlogo.symm.trans (if_pos hi)
  · intro hsame
    have hlogo : (headerRead bytes m.cartridge.header).nintendoLogo =
        m.cartridge.header.nintendoLogo := by
      funext i
      by_cases hi : i < 0x30
      · exact (if_pos hi).trans (hsame i hi).symm
      · exact if_neg hi
    rw [hlogo]
    exact ⟨rfl, rfl, rfl, rfl, rfl, rfl, rfl, rfl, rfl⟩

/-- After the check has passed, it is the load that decides. -/
theorem resetWhole_iff_of_halfValid (h : HalfValid bytes) :
    ResetWhole m (some bytes) ↔
      LoadsWhole m bytes ∨ CpuAsReset m ∧ CartridgeAsLoaded m bytes := by
  rw [ResetWhole, untouched_resetGame_iff h, replaced_resetGame_iff h, or_comm]

end

/-- The check passes, but nothing can be loaded: the machine is reset without a controller. -/
theorem logoFile_halfReset : ¬ResetWhole Machine.powerOn (some logoFile) := by
  rw [resetWhole_iff_of_halfValid halfValid_logoFile]
  rintro (⟨image, himage, -⟩ | ⟨hcpu, -⟩)
  · have hle := image.toNat_romSize_le
    have hbounds := image.romSize_bounds
    rw [himage, length_logoFile] at hle
    omega
  · exact absurd (congrArg Registers.PC hcpu.registers) (by decide)

/-- **When a reset does not stop halfway.**  The file may be anything, or there may be none.
Where it is refused, whatever has been overwritten by then must have had these values before;
where it is accepted, the cartridge must be replaced as a whole. -/
theorem resetGame_whole_iff (m : Machine) (inGameFilename : Option (List Byte)) :
    ResetWhole m inGameFilename ↔ NothingHalf m inGameFilename := by
  have huntouched : Untouched m m := ⟨rfl, rfl, rfl, rfl, rfl, rfl, rfl, rfl, rfl⟩
  cases inGameFilename with
  | none => exact iff_of_true (.inl huntouched) trivial
  | some bytes =>
    rcases Nat.lt_or_ge bytes.length 0x14F with hlength | hlength
    · have hrefused : validateCart m (some bytes) = (m, 0) := if_pos hlength
      have hreset : MainServer.resetGame m (some bytes) = m := by
        rw [MainServer.resetGame, hrefused]
        exact if_neg (not_not.2 rfl)
      exact iff_of_true (.inl (hreset.symm ▸ huntouched)) (.inl hlength)
    · rw [NothingHalf, or_iff_right (Nat.not_lt_of_le hlength)]
      by_cases h : HalfValid bytes
      · have hpassed : ¬(¬HalfValid bytes ∧ SameLogo m bytes) := fun h' ↦ h'.1 h
        rw [resetWhole_iff_of_halfValid h, or_iff_right hpassed, and_iff_right h]
      · rw [resetWhole_iff_of_not_halfValid hlength h, or_iff_left fun h' ↦ h h'.1,
          and_iff_right h]

end GameBloat
