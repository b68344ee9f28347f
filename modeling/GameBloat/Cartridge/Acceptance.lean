import GameBloat.Cartridge.Load
import Mathlib.Tactic.IntervalCases

/-!
# Which files load

The header of a file declares how long the file is, how much RAM its cartridge has and which
controller.  A file is `Described` if its length is the declared one and the other two are codes
that the enums of the source name, and then it should load and be `Stored`.

`loadCartridge` agrees on all but two codes: 8 KB of RAM and the plain MBC5 have an enumerator but
no `case`.  Two more things go wrong rarely.  The length of a file is cut to 32 bits, so a file
can be longer than declared by a multiple of 4 GB; and a cartridge without RAM keeps the RAM of
the one before (`loads_described_iff`).

The specification has two halves.  The tables `declaredRomSize`, `declaredRamSize` and
`declaredTypes` are what the comments and enums of the source say; `Stored` is what loading is
for, byte by byte: the header fields, the whole ROM, and blank RAM of the declared size.  Nothing
in them mentions how the code goes about it.

The other side is `Image` from the module on loading, a file together with what the code makes of
it.

* `loads_iff`: the files that load, in terms of the header and the length modulo 2³².
* `loads_iff_of_lt`: among files below 4 GB these are the described ones, without the two codes.
* `stored_insert_iff`: what is stored of them, which is all but for the RAM that was not taken
  away.
* `loads_described_iff`: the exact condition, `LoadsRightly`, one field for each thing that goes
  wrong.
-/

set_option autoImplicit false

namespace GameBloat

/-! ## What a header declares -/

/-- The ROM sizes, by their codes: 32 KB times a power of two, and the three odd sizes. -/
def declaredRomSize (code : Byte) : Option ℕ :=
  if code.toNat < 8 then some (32 * 1024 * 2 ^ code.toNat)
  else if code = 0x52 then some 0x120000
  else if code = 0x53 then some 0x140000
  else if code = 0x54 then some 0x180000
  else none

/-- `enum RAMSizeFlags`, and the sizes. -/
def declaredRamSize (code : Byte) : Option ℕ :=
  if code = 0x00 then some 0
  else if code = 0x01 then some (2 * 1024)
  else if code = 0x02 then some (8 * 1024)
  else if code = 0x03 then some (32 * 1024)
  else none

/-- `RAM_8KB`. -/
def ram8KB : Byte := 0x02

/-- `MBC5`. -/
def mbc5 : Byte := 0x19

/-- `ROM_ONLY`, and the types of `enum CartridgeTypes` that name one of the controllers MBC1 to
MBC5. -/
def declaredTypes : List Byte :=
  romOnly :: mbc1Types ++ mbc2Types ++ mbc3Types ++ mbc4Types ++ mbc5 :: mbc5Types

/-- The codes in the header, at their offsets in the file.  The first is that of the ROM size, -/
def romSizeCode (bytes : List Byte) : Byte := bytes.getD 0x148 0

/-- the second that of the RAM size, -/
def ramSizeCode (bytes : List Byte) : Byte := bytes.getD 0x149 0

/-- and the third that of the controller. -/
def typeCode (bytes : List Byte) : Byte := bytes.getD 0x147 0

/-- The file is as long as declared, with a RAM size and a type that are known. -/
structure Described (bytes : List Byte) : Prop where
  length : declaredRomSize (romSizeCode bytes) = some bytes.length
  ram : (declaredRamSize (ramSizeCode bytes)).isSome
  type : typeCode bytes ∈ declaredTypes

/-- The byte of the header at an offset from 0x100. -/
def Header.byte (header : Header) (offset : ℕ) : Byte :=
  if offset < 0x04 then header.entryPoint offset
  else if offset < 0x34 then header.nintendoLogo (offset - 0x04)
  else if offset < 0x44 then header.title (offset - 0x34)
  else if offset < 0x46 then header.newLicenseeCode (offset - 0x44)
  else if offset = 0x46 then header.sgbFlag
  else if offset = 0x47 then header.cartridgeType
  else if offset = 0x48 then header.romSize
  else if offset = 0x49 then header.ramSize
  else if offset = 0x4A then header.destinationCode
  else if offset = 0x4B then header.oldLicenseeCode
  else if offset = 0x4C then header.maskROMVersionNumber
  else if offset = 0x4D then header.headerChecksum
  else header.globalChecksum (offset - 0x4E)

/-- The cartridge is the one in the file, with blank RAM of the size declared. -/
structure Stored (bytes : List Byte) (c : Cartridge) : Prop where
  header : ∀ offset < 0x50, c.header.byte offset = bytes.getD (0x100 + offset) 0
  romLength : c.romLength = bytes.length
  rom : ∀ i < bytes.length, c.rom i = bytes.getD i 0
  ramLength : declaredRamSize (ramSizeCode bytes) = some c.ramLength
  ram : ∀ i < c.ramLength, c.ram i = 0

/-- `loadCartridge` accepts the file. -/
def Loads (m : Machine) (bytes : List Byte) : Prop := (loadCartridge m (some bytes)).2 = 1

/-- The file loads exactly if it is described, and is stored whole.  Described means that its
codes are in the tables of the source, and that it is as long as the code for the ROM says. -/
structure LoadsDescribed (m : Machine) (bytes : List Byte) : Prop where
  loads : Loads m bytes ↔ Described bytes
  stored : Loads m bytes → Stored bytes (loadCartridge m (some bytes)).1.cartridge

/-- All codes but the two without a `case`. -/
structure LoadableCodes (bytes : List Byte) : Prop where
  ram : (declaredRamSize (ramSizeCode bytes)).isSome
  type : typeCode bytes ∈ declaredTypes
  ram_ne : ramSizeCode bytes ≠ ram8KB
  type_ne : typeCode bytes ≠ mbc5

/-- A file that is described has the codes of one that loads, and if it is to have no RAM there is
none; and a file of 4 GB or more does not look like one of the declared size, modulo 4 GB.  The
first three are about files that should load and do not, or not whole; the last is about those
that load and should not. -/
structure LoadsRightly (m : Machine) (bytes : List Byte) : Prop where
  ram_ne : Described bytes → ramSizeCode bytes ≠ ram8KB
  type_ne : Described bytes → typeCode bytes ≠ mbc5
  ramLength : Described bytes → ramSizeCode bytes = 0 → m.cartridge.ramLength = 0
  length : 2 ^ 32 ≤ bytes.length → LoadableCodes bytes →
    declaredRomSize (romSizeCode bytes) ≠ some (bytes.length % 2 ^ 32)

/-! ## What loads -/

/-- The ROM sizes are the declared ones, -/
theorem expectedRomSize_eq (code : Byte) :
    (expectedRomSize code).map BitVec.toNat = declaredRomSize code := by
  revert code
  decide +kernel

/-- the RAM sizes are but for one, -/
theorem ramSizeOf_eq (code : Byte) :
    ramSizeOf code = if code = ram8KB then none else declaredRamSize code := by
  revert code
  decide +kernel

/-- and so are the types. -/
theorem setMBCType_none_eq_one_iff (code : Byte) :
    (setMBCType none code).2 = 1 ↔ code ∈ declaredTypes ∧ code ≠ mbc5 := by
  revert code
  decide +kernel

section

variable {bytes : List Byte}

/-- A code that loads stands for a size. -/
theorem LoadableCodes.ramSizeOf (h : LoadableCodes bytes) :
    ∃ ramSize, ramSizeOf (ramSizeCode bytes) = some ramSize := by
  rw [ramSizeOf_eq, if_neg h.ram_ne]
  exact Option.isSome_iff_exists.1 h.ram

/-- An image has a RAM size that is declared, and not 8 KB. -/
theorem Image.declaredRamSize_eq (image : Image) :
    ramSizeCode image.bytes ≠ ram8KB ∧
      declaredRamSize (ramSizeCode image.bytes) = some image.ramSize := by
  have h : (if ramSizeCode image.bytes = ram8KB then none
      else declaredRamSize (ramSizeCode image.bytes)) = some image.ramSize :=
    (ramSizeOf_eq _).symm.trans image.ramSize_eq
  by_cases h8 : ramSizeCode image.bytes = ram8KB
  · rw [if_pos h8] at h
    cases h
  · rw [if_neg h8] at h
    exact ⟨h8, h⟩

/-- The size of the ROM is the length of the file, cut to 32 bits. -/
theorem Image.romSize_toNat (image : Image) :
    image.romSize.toNat = image.bytes.length % 2 ^ 32 := by
  rw [← image.length_eq, BitVec.toNat_ofNat]

/-- An image has codes that load. -/
theorem Image.loadableCodes (image : Image) : LoadableCodes image.bytes := by
  obtain ⟨hne, hram⟩ := image.declaredRamSize_eq
  have htype := (setMBCType_none_eq_one_iff _).1 (congrArg Prod.snd image.controller_eq)
  exact ⟨Option.isSome_iff_exists.2 ⟨_, hram⟩, htype.1, hne, htype.2⟩

/-- **What loads.** -/
theorem loads_iff (m : Machine) (bytes : List Byte) :
    Loads m bytes ↔
      declaredRomSize (romSizeCode bytes) = some (bytes.length % 2 ^ 32) ∧ LoadableCodes bytes := by
  rw [Loads, loadCartridge_eq_one_iff]
  constructor
  · rintro ⟨image, rfl⟩
    have hsize := congrArg (Option.map BitVec.toNat) image.romSize_eq
    refine ⟨?_, image.loadableCodes⟩
    rw [← image.romSize_toNat]
    exact (expectedRomSize_eq _).symm.trans hsize
  · rintro ⟨hlength, hcodes⟩
    rw [← expectedRomSize_eq] at hlength
    obtain ⟨romSize, hromSize, htoNat⟩ := Option.map_eq_some_iff.1 hlength
    obtain ⟨ramSize, hramSize⟩ := hcodes.ramSizeOf
    obtain ⟨controller, hcontroller⟩ :=
      setMBCType_eq_one ((setMBCType_none_eq_one_iff _).2 ⟨hcodes.type, hcodes.type_ne⟩)
    have heq : BitVec.ofNat 32 bytes.length = romSize :=
      BitVec.eq_of_toNat_eq ((BitVec.toNat_ofNat _ _).trans htoNat.symm)
    exact ⟨⟨bytes, romSize, ramSize, controller, hromSize, heq, hramSize, hcontroller none⟩, rfl⟩

/-- No declared size comes anywhere near 4 GB. -/
theorem declaredRomSize_lt {code : Byte} {size : ℕ} (h : declaredRomSize code = some size) :
    size < 2 ^ 32 := by
  rw [← expectedRomSize_eq] at h
  obtain ⟨romSize, -, rfl⟩ := Option.map_eq_some_iff.1 h
  exact romSize.isLt

/-- A file that loads is described if it is not cut. -/
theorem loads_iff_of_lt (m : Machine) (h : bytes.length < 2 ^ 32) :
    Loads m bytes ↔
      Described bytes ∧ ramSizeCode bytes ≠ ram8KB ∧ typeCode bytes ≠ mbc5 := by
  rw [loads_iff, Nat.mod_eq_of_lt h]
  constructor
  · rintro ⟨hlength, hcodes⟩
    exact ⟨⟨hlength, hcodes.ram, hcodes.type⟩, hcodes.ram_ne, hcodes.type_ne⟩
  · rintro ⟨hdescribed, hram, htype⟩
    exact ⟨hdescribed.length, hdescribed.ram, hdescribed.type, hram, htype⟩

end

/-! ## What is stored -/

/-- The fields of the header are the bytes of the file, one after the other. -/
theorem headerOf_byte (bytes : List Byte) (header : Header) {offset : ℕ} (h : offset < 0x50) :
    (headerOf bytes header).byte offset = bytes.getD (0x100 + offset) 0 := by
  interval_cases offset <;> rfl

/-- Only one code declares that there is no RAM. -/
theorem declaredRamSize_eq_zero_iff (code : Byte) : declaredRamSize code = some 0 ↔ code = 0 := by
  revert code
  decide +kernel

/-- All of an image is stored, if it is not cut, but no RAM is not taken away. -/
theorem stored_insert_iff (m : Machine) (image : Image) (h : image.bytes.length < 2 ^ 32) :
    Stored image.bytes (m.insert image).cartridge ↔
      (ramSizeCode image.bytes = 0 → m.cartridge.ramLength = 0) := by
  obtain ⟨-, hram⟩ := image.declaredRamSize_eq
  have hlength := image.romSize_toNat.trans (Nat.mod_eq_of_lt h)
  have hinserted : (m.insert image).cartridge.ramLength =
      if image.ramSize ≠ 0 then image.ramSize else m.cartridge.ramLength := rfl
  have hzero : image.ramSize = 0 ↔ ramSizeCode image.bytes = 0 := by
    rw [← declaredRamSize_eq_zero_iff, hram, Option.some.injEq]
  constructor
  · intro hstored hcode
    have hsize := hstored.ramLength
    rw [hram, hinserted, if_neg (not_not.2 (hzero.2 hcode)), hzero.2 hcode] at hsize
    exact (Option.some.inj hsize).symm
  · intro hnone
    have hRAM : (m.insert image).cartridge.ramLength = image.ramSize ∧
        (image.ramSize ≠ 0 → (m.insert image).cartridge.ram = fun _ ↦ 0) := by
      refine ⟨?_, fun h0 ↦ if_pos h0⟩
      by_cases h0 : image.ramSize ≠ 0
      · rw [hinserted, if_pos h0]
      · rw [hinserted, if_neg h0, hnone (hzero.1 (not_not.1 h0)), not_not.1 h0]
    refine ⟨fun offset ↦ headerOf_byte _ _, hlength, fun i hi ↦ if_pos (hlength.symm ▸ hi),
      hram.trans (congrArg some hRAM.1.symm), fun i hi ↦ ?_⟩
    have h0 : image.ramSize ≠ 0 := by omega
    rw [hRAM.2 h0]

/-- A file of 32 KB for the plain MBC5. -/
def plainMBC5 : List Byte := Image.dump 0x8000 fun i ↦ if i = 0x147 then mbc5 else 0

/-- It is described, but refused. -/
theorem plainMBC5_refused : ¬LoadsDescribed Machine.powerOn plainMBC5 := by
  have hbyte {i : ℕ} (hi : i < 0x8000) := Image.getD_dump hi fun i ↦ if i = 0x147 then mbc5 else 0
  have hrom : romSizeCode plainMBC5 = 0 := hbyte (by decide)
  have hram : ramSizeCode plainMBC5 = 0 := hbyte (by decide)
  have htype : typeCode plainMBC5 = mbc5 := hbyte (by decide)
  have hlength : plainMBC5.length = 0x8000 := Image.length_dump _ _
  have hdescribed : Described plainMBC5 :=
    ⟨by rw [hrom, hlength]; rfl, by rw [hram]; rfl, by rw [htype]; decide⟩
  intro h
  exact ((loads_iff _ _).1 (h.loads.2 hdescribed)).2.type_ne htype

/-- **When a file loads rightly**: exactly if it is described, and then whole.  The exceptions are
the controller and the RAM size that the tables describe and the code does not take, RAM that is
left over from another cartridge, and files of 4 GB and more, whose length is cut. -/
theorem loads_described_iff (m : Machine) (bytes : List Byte) :
    LoadsDescribed m bytes ↔ LoadsRightly m bytes := by
  have hstored (hlength : bytes.length < 2 ^ 32) (h : Loads m bytes) :
      Stored bytes (loadCartridge m (some bytes)).1.cartridge ↔
        (ramSizeCode bytes = 0 → m.cartridge.ramLength = 0) := by
    obtain ⟨image, rfl⟩ := exists_image h
    rw [loadCartridge_image]
    exact stored_insert_iff m image hlength
  rcases Nat.lt_or_ge bytes.length (2 ^ 32) with hlength | hlength
  · have hloads := loads_iff_of_lt m hlength
    constructor
    · intro h
      have hcodes (hdescribed : Described bytes) := (hloads.1 (h.loads.2 hdescribed)).2
      refine ⟨fun hd ↦ (hcodes hd).1, fun hd ↦ (hcodes hd).2, fun hd ↦ ?_,
        fun hge ↦ absurd hlength (Nat.not_lt_of_le hge)⟩
      exact (hstored hlength (h.loads.2 hd)).1 (h.stored (h.loads.2 hd))
    · intro h
      have hdescribed : Loads m bytes ↔ Described bytes :=
        hloads.trans ⟨And.left, fun hd ↦ ⟨hd, h.ram_ne hd, h.type_ne hd⟩⟩
      exact ⟨hdescribed, fun hl ↦ (hstored hlength hl).2 (h.ramLength (hdescribed.1 hl))⟩
  · -- no size that is declared is this long
    have hnot : ¬Described bytes := fun h ↦
      absurd (declaredRomSize_lt h.length) (Nat.not_lt_of_le hlength)
    have hloads := loads_iff m bytes
    constructor
    · intro h
      exact ⟨fun hd ↦ absurd hd hnot, fun hd ↦ absurd hd hnot, fun hd ↦ absurd hd hnot,
        fun _ hcodes hsize ↦ hnot (h.loads.1 (hloads.2 ⟨hsize, hcodes⟩))⟩
    · intro h
      have hrefused : ¬Loads m bytes := fun hl ↦
        h.length hlength (hloads.1 hl).2 (hloads.1 hl).1
      exact ⟨iff_of_false hrefused hnot, fun hl ↦ absurd hl hrefused⟩

end GameBloat
