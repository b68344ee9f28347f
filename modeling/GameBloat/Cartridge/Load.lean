import GameBloat.Machine
import Mathlib.Tactic.SplitIfs

/-!
# Loading a cartridge

`cartridge.c`, the `setMBCType` of `MBC.c`, and the power-up check of `bios.c`.

A file is the list of its bytes, and `File` is an open stream on it.  Reading stops at the end of
the file and leaves the rest of the destination as it was, so a short file leaves header fields
from the cartridge before.  `malloc` always succeeds; the bytes it returns, and those past the end
of a block, are 0.

An `Image` is a file that `loadCartridge` accepts, together with what it makes of it
(`loadCartridge_image`, `exists_image`).

The functions are translated with their order of effects, because a load that fails has done
something all the same: the header has been read, or the ROM has, or a controller has been
installed for a type that is then refused.  Whoever relies on what a failed load leaves finds it
in the state that the definitions return with the 0.

Three details matter elsewhere.  The length of the file becomes an `int`, which keeps its lowest
32 bits.  A cartridge without RAM leaves the pointer to the RAM of the one before.  And the check
of `bios.c` takes one byte less than a header for enough, adds up all header values but the last,
and looks at the lowest bit of the sum.

* `setHeaderValues_of_lt` is the header that the thirteen reads leave, for files of every length
  that matters, and `fread_dest` what a single read does when the file ends in the middle of it.
* `loadCartridge_image` evaluates `loadCartridge` on an image, in closed form (`Machine.insert`).
* `loadCartridge_eq_one_iff`: the files that load are the images and no others.
* `Image.small` is a family of images of 32 KB that the examples of the development run.
-/

set_option autoImplicit false

namespace GameBloat

/-! ## Streams -/

/-- A `FILE *` opened for reading: the bytes of the file, and the position in it. -/
structure File where
  bytes : List Byte
  position : ℕ

namespace File

/-- `fseek(fp, offset, SEEK_SET)`.  Seeking past the end is allowed, and nothing can be read
there. -/
def fseek (fp : File) (offset : ℕ) : File := { fp with position := offset }

/-- `fread(dest, 1, count, fp)`: what `dest` points at afterwards, and the stream.  Fewer bytes
than asked for are read if the file ends before.  The rest of `dest` is then as it was before,
whatever that was. -/
def fread (fp : File) (dest : ℕ → Byte) (count : ℕ) : (ℕ → Byte) × File :=
  let items := (fp.bytes.drop fp.position).take count
  (fun i ↦ items.getD i (dest i), { fp with position := fp.position + items.length })

/-- `fread(&dest, 1, sizeof(dest), fp)` for a single byte. -/
def freadByte (fp : File) (dest : Byte) : Byte × File :=
  let (dest, fp) := fp.fread (fun _ ↦ dest) 1
  (dest 0, fp)

@[simp] theorem fseek_bytes (fp : File) (offset : ℕ) : (fp.fseek offset).bytes = fp.bytes := rfl

@[simp] theorem fread_bytes (fp : File) (dest : ℕ → Byte) (count : ℕ) :
    (fp.fread dest count).2.bytes = fp.bytes := rfl

@[simp] theorem freadByte_bytes (fp : File) (dest : Byte) :
    (fp.freadByte dest).2.bytes = fp.bytes := rfl

/-- A read that the file is long enough for. -/
theorem fread_of_le {fp : File} {dest : ℕ → Byte} {count : ℕ}
    (h : fp.position + count ≤ fp.bytes.length) :
    fp.fread dest count =
      (fun i ↦ if i < count then fp.bytes.getD (fp.position + i) 0 else dest i,
        fp.fseek (fp.position + count)) := by
  have hlength : ((fp.bytes.drop fp.position).take count).length = count := by
    rw [List.length_take, List.length_drop]
    omega
  rw [fread, hlength]
  refine Prod.ext (funext fun i ↦ ?_) rfl
  simp only [List.getD_eq_getElem?_getD, List.getElem?_take, List.getElem?_drop]
  split
  · rw [List.getElem?_eq_getElem (by omega), Option.getD_some, Option.getD_some]
  · rfl

/-- What is read, with the bytes that are missing as they were. -/
theorem fread_dest (fp : File) (dest : ℕ → Byte) (count : ℕ) :
    (fp.fread dest count).1 = fun i ↦
      if i < count then fp.bytes.getD (fp.position + i) (dest i) else dest i := by
  funext i
  simp only [fread, List.getD_eq_getElem?_getD, List.getElem?_take, List.getElem?_drop]
  split <;> rfl

/-- A single byte, inside the file. -/
theorem freadByte_of_lt {fp : File} {dest : Byte} (h : fp.position < fp.bytes.length) :
    fp.freadByte dest = (fp.bytes.getD fp.position 0, fp.fseek (fp.position + 1)) := by
  rw [freadByte, fread_of_le h]
  rfl

end File

/-! ## The header -/

/-- `HeaderStart`. -/
def headerStart : ℕ := 0x100

/-- `setHeaderValues`: thirteen reads, one for each field, from 0x100 on. -/
def setHeaderValues (header : Header) (fp : File) : Header × File :=
  let fp := fp.fseek headerStart
  let (entryPoint, fp) := fp.fread header.entryPoint 0x04
  let (nintendoLogo, fp) := fp.fread header.nintendoLogo 0x30
  let (title, fp) := fp.fread header.title 0x10
  let (newLicenseeCode, fp) := fp.fread header.newLicenseeCode 0x02
  let (sgbFlag, fp) := fp.freadByte header.sgbFlag
  let (cartridgeType, fp) := fp.freadByte header.cartridgeType
  let (romSize, fp) := fp.freadByte header.romSize
  let (ramSize, fp) := fp.freadByte header.ramSize
  let (destinationCode, fp) := fp.freadByte header.destinationCode
  let (oldLicenseeCode, fp) := fp.freadByte header.oldLicenseeCode
  let (maskROMVersionNumber, fp) := fp.freadByte header.maskROMVersionNumber
  let (headerChecksum, fp) := fp.freadByte header.headerChecksum
  let (globalChecksum, fp) := fp.fread header.globalChecksum 0x02
  ({ entryPoint, nintendoLogo, title, newLicenseeCode, sgbFlag, cartridgeType, romSize, ramSize,
     destinationCode, oldLicenseeCode, maskROMVersionNumber, headerChecksum, globalChecksum }, fp)

/-- The header of a file long enough to hold one. -/
def headerOf (bytes : List Byte) (header : Header) : Header where
  entryPoint := fun i ↦ if i < 0x04 then bytes.getD (0x100 + i) 0 else header.entryPoint i
  nintendoLogo := fun i ↦ if i < 0x30 then bytes.getD (0x104 + i) 0 else header.nintendoLogo i
  title := fun i ↦ if i < 0x10 then bytes.getD (0x134 + i) 0 else header.title i
  newLicenseeCode := fun i ↦ if i < 0x02 then bytes.getD (0x144 + i) 0 else header.newLicenseeCode i
  sgbFlag := bytes.getD 0x146 0
  cartridgeType := bytes.getD 0x147 0
  romSize := bytes.getD 0x148 0
  ramSize := bytes.getD 0x149 0
  destinationCode := bytes.getD 0x14A 0
  oldLicenseeCode := bytes.getD 0x14B 0
  maskROMVersionNumber := bytes.getD 0x14C 0
  headerChecksum := bytes.getD 0x14D 0
  globalChecksum := fun i ↦ if i < 0x02 then bytes.getD (0x14E + i) 0 else header.globalChecksum i

/-- Reading does not change the file. -/
theorem setHeaderValues_bytes (header : Header) (fp : File) :
    (setHeaderValues header fp).2.bytes = fp.bytes := by
  simp only [setHeaderValues, File.fread_bytes, File.freadByte_bytes, File.fseek_bytes]

/-- The header after the reads, from a file that may end before the last of them. -/
def headerRead (bytes : List Byte) (header : Header) : Header :=
  { headerOf bytes header with
    globalChecksum := fun i ↦
      if i < 0x02 then bytes.getD (0x14E + i) (header.globalChecksum i)
      else header.globalChecksum i }

/-- Where the thirteen reads of `setHeaderValues` end up, up to the last. -/
theorem setHeaderValues_of_lt (header : Header) {fp : File} (h : 0x14E ≤ fp.bytes.length) :
    setHeaderValues header fp =
      ({ headerOf fp.bytes header with
          globalChecksum := ((fp.fseek 0x14E).fread header.globalChecksum 0x02).1 },
        ((fp.fseek 0x14E).fread header.globalChecksum 0x02).2) := by
  have hread (position : ℕ) (dest : ℕ → Byte) (count : ℕ)
      (hle : position + count ≤ fp.bytes.length) :
      (fp.fseek position).fread dest count =
        (fun i ↦ if i < count then fp.bytes.getD (position + i) 0 else dest i,
          fp.fseek (position + count)) :=
    File.fread_of_le hle
  have hbyte (position : ℕ) (dest : Byte) (hlt : position < fp.bytes.length) :
      (fp.fseek position).freadByte dest =
        (fp.bytes.getD position 0, fp.fseek (position + 1)) :=
    File.freadByte_of_lt hlt
  simp only [setHeaderValues, headerStart]
  rw [hread 0x100 _ _ (by omega), hread 0x104 _ _ (by omega), hread 0x134 _ _ (by omega),
    hread 0x144 _ _ (by omega), hbyte 0x146 _ (by omega), hbyte 0x147 _ (by omega),
    hbyte 0x148 _ (by omega), hbyte 0x149 _ (by omega), hbyte 0x14A _ (by omega),
    hbyte 0x14B _ (by omega), hbyte 0x14C _ (by omega), hbyte 0x14D _ (by omega)]
  rfl

/-- The header after the reads. -/
theorem setHeaderValues_header (header : Header) {fp : File} (h : 0x14E ≤ fp.bytes.length) :
    (setHeaderValues header fp).1 = headerRead fp.bytes header := by
  rw [setHeaderValues_of_lt header h, File.fread_dest]
  rfl

/-- The header of a file that holds one, and the position behind it. -/
theorem setHeaderValues_of_le (header : Header) {fp : File} (h : 0x150 ≤ fp.bytes.length) :
    setHeaderValues header fp = (headerOf fp.bytes header, fp.fseek 0x150) := by
  have hlast : (fp.fseek 0x14E).fread header.globalChecksum 0x02 =
      ((headerOf fp.bytes header).globalChecksum, fp.fseek 0x150) := File.fread_of_le h
  rw [setHeaderValues_of_lt header (by omega), hlast]

/-! ## Loading -/

/-- `getCartSize`: an `int`, so the length is cut to 32 bits, and the position is reset. -/
def getCartSize (fp : File) : BitVec 32 × File := (BitVec.ofNat 32 fp.bytes.length, fp.fseek 0)

/-- The size that a ROM size code stands for, or `none` where the code is refused. -/
def expectedRomSize (romSize : Byte) : Option (BitVec 32) :=
  if romSize.toNat < 0x08 then some (1 <<< (15 + romSize.toNat))
  else if romSize = 0x52 then some 0x120000
  else if romSize = 0x53 then some 0x140000
  else if romSize = 0x54 then some 0x180000
  else none

/-- `validateCartSize`. -/
def validateCartSize (header : Header) (cartSize : BitVec 32) : ℕ :=
  match expectedRomSize header.romSize with
  | none => 0
  | some expectedRomSize => if expectedRomSize ≠ cartSize then 0 else 1

/-- `readCartROMToMemory`. -/
def readCartROMToMemory (c : Cartridge) (fp : File) : Cartridge × ℕ :=
  let (header, fp) := setHeaderValues c.header fp
  let c := { c with header }
  let (cartSize, fp) := getCartSize fp
  if validateCartSize c.header cartSize ≠ 0 then
    let (rom, _) := fp.fread (fun _ ↦ 0) cartSize.toNat
    ({ c with rom, romLength := cartSize.toNat }, 1)
  else (c, 0)

/-- The size that a RAM size code stands for, or `none` where the code is refused.  `RAM_8KB` has no
`case`. -/
def ramSizeOf (cartRamSize : Byte) : Option ℕ :=
  if cartRamSize = 0x00 then some 0
  else if cartRamSize = 0x01 then some (1024 * 2)
  else if cartRamSize = 0x03 then some (1024 * 32)
  else none

/-- `initializeRAM`.  Without RAM the pointer keeps what it had. -/
def initializeRAM (c : Cartridge) (cartRamSize : Byte) : Cartridge × ℕ :=
  match ramSizeOf cartRamSize with
  | none => (c, 0)
  | some ramSize =>
    if ramSize ≠ 0 then ({ c with ram := fun _ ↦ 0, ramLength := ramSize }, 1) else (c, 1)

/-! ### `enum CartridgeTypes`, by the cases of the `switch` -/

/-- `ROM_ONLY`. -/
def romOnly : Byte := 0x00

/-- `MBC1`, `MBC1_RAM`, `MBC1_RAM_BATTERY`. -/
def mbc1Types : List Byte := [0x01, 0x02, 0x03]

/-- `MBC2`, `MBC2_BATTERY`. -/
def mbc2Types : List Byte := [0x05, 0x06]

/-- `ROM_RAM`, `ROM_RAM_BATTERY`. -/
def romRamTypes : List Byte := [0x08, 0x09]

/-- `MMM01`, `MMM01_RAM`, `MMM01_RAM_BATTERY`. -/
def mmm01Types : List Byte := [0x0B, 0x0C, 0x0D]

/-- `MBC3_TIMER_BATTERY`, `MBC3_TIMER_RAM_BATTERY`, `MBC3`, `MBC3_RAM`, `MBC3_RAM_BATTERY`. -/
def mbc3Types : List Byte := [0x0F, 0x10, 0x11, 0x12, 0x13]

/-- `MBC4`, `MBC4_RAM`, `MBC4_RAM_BATTERY`. -/
def mbc4Types : List Byte := [0x15, 0x16, 0x17]

/-- `MBC5_RAM`, `MBC5_RAM_BATTERY`, `MBC5_RUMBLE`, `MBC5_RUMBLE_RAM`, `MBC5_RUMBLE_RAM_BATTERY`.
`MBC5` itself has no `case`. -/
def mbc5Types : List Byte := [0x1A, 0x1B, 0x1C, 0x1D, 0x1E]

/-- `setMBCType`: the functions in `MBC` afterwards, and the value returned. -/
def setMBCType (MBC : Option Controller) (cartMBC : Byte) : Option Controller × ℕ :=
  if cartMBC = romOnly then (some .mbcNone, 1)
  else if cartMBC ∈ mbc1Types then (some .mbc1, 1)
  else if cartMBC ∈ mbc2Types then (some .mbc2, 1)
  -- refused, but the functions are installed
  else if cartMBC ∈ romRamTypes then (some .mbcNone, 0)
  else if cartMBC ∈ mmm01Types then (MBC, 0)
  else if cartMBC ∈ mbc3Types then (some .mbc3, 1)
  else if cartMBC ∈ mbc4Types then (some .mbc4, 1)
  else if cartMBC ∈ mbc5Types then (some .mbc5, 1)
  else (MBC, 0)

/-- `loadCartridge`, where `cartName` is what is found under the name: no file, or its bytes.
Only where all three parts succeed is the pointer to the controller set.  Where one of them fails
the globals keep what the others have assigned. -/
def loadCartridge (m : Machine) (cartName : Option (List Byte)) : Machine × ℕ :=
  match cartName with
  | none => (m, 0)
  | some bytes =>
    let (cartridge, success) := readCartROMToMemory m.cartridge ⟨bytes, 0⟩
    if success ≠ 0 then
      let (cartridge, success) := initializeRAM cartridge cartridge.header.ramSize
      if success ≠ 0 then
        let (MBC, success) := setMBCType m.MBC cartridge.header.cartridgeType
        if success ≠ 0 then
          ({ m with cartridge := { cartridge with mbc := true }, MBC }, success)
        else ({ m with cartridge, MBC }, success)
      else ({ m with cartridge }, success)
    else ({ m with cartridge }, success)

/-! ## The power-up check -/

/-- `nintendoLogoBitmap`. -/
def nintendoLogoBitmap : List Byte :=
  [0xCE, 0xED, 0x66, 0x66, 0xCC, 0x0D, 0x00, 0x0B, 0x03, 0x73, 0x00, 0x83,
   0x00, 0x0C, 0x00, 0x0D, 0x00, 0x08, 0x11, 0x1F, 0x88, 0x89, 0x00, 0x0E,
   0xDC, 0xCC, 0x6E, 0xE6, 0xDD, 0xDD, 0xD9, 0x99, 0xBB, 0xBB, 0x67, 0x63,
   0x6E, 0x0E, 0xEC, 0xCC, 0xDD, 0xDC, 0x99, 0x9F, 0xBB, 0xB9, 0x33, 0x3E]

/-- `CART_LOGO_START_LOC`. -/
def cartLogoStartLoc : ℕ := 0x104

/-- `HEADER_VALUES_START`. -/
def headerValuesStart : ℕ := 0x134

/-- `HEADER_VALUES_END`. -/
def headerValuesEnd : ℕ := 0x14D

/-- `checkLogo`: the logo is read into the header of the cartridge, whatever comes of it. -/
def checkLogo (header : Header) (fp : File) : Header × Bool :=
  let fp := fp.fseek cartLogoStartLoc
  let (nintendoLogo, _) := fp.fread header.nintendoLogo 0x30
  ({ header with nintendoLogo },
    (List.range 0x30).all fun i ↦ nintendoLogoBitmap.getD i 0 == nintendoLogo i)

/-- `checkHeaderValues`.  The size is the difference of the two positions, so the last value,
which is the checksum, is not among those that are added up.  What is compared at the end is the
lowest bit of the sum, where the comment asks for its lowest byte. -/
def checkHeaderValues (fp : File) : Bool :=
  let headerValuesSize := headerValuesEnd - headerValuesStart
  let fp := fp.fseek headerValuesStart
  let (headerValues, _) := fp.fread (fun _ ↦ 0) headerValuesSize
  let valueSum := (List.range headerValuesSize).foldl (fun sum i ↦ sum + (headerValues i).toNat) 0
  (valueSum + 0x19) % 2 == 0

/-- `validateCart`. -/
def validateCart (m : Machine) (fileName : Option (List Byte)) : Machine × ℕ :=
  match fileName with
  | none => (m, 0)
  | some bytes =>
    if bytes.length < 0x14F then (m, 0)
    else
      let (header, isMatch) := checkLogo m.cartridge.header ⟨bytes, 0⟩
      let m := { m with cartridge.header := header }
      if isMatch && checkHeaderValues ⟨bytes, 0⟩ then (m, 1) else (m, 0)

/-- The comparison with the logo, in a file that is long enough to hold one. -/
theorem checkLogo_of_le (header : Header) {bytes : List Byte} (hlength : 0x134 ≤ bytes.length) :
    (checkLogo header ⟨bytes, 0⟩).2 =
      (List.range 0x30).all fun i ↦ nintendoLogoBitmap.getD i 0 == bytes.getD (0x104 + i) 0 := by
  simp only [checkLogo, File.fseek, cartLogoStartLoc]
  rw [File.fread_of_le hlength, Bool.eq_iff_iff]
  simp only [List.all_eq_true, List.mem_range]
  refine forall₂_congr fun i hi ↦ ?_
  rw [if_pos hi]

/-- The sum of the header values, likewise. -/
theorem checkHeaderValues_of_le {bytes : List Byte} (hlength : 0x14D ≤ bytes.length) :
    checkHeaderValues ⟨bytes, 0⟩ =
      (((List.range 0x19).foldl (fun sum i ↦ sum + (bytes.getD (0x134 + i) 0).toNat) 0 + 0x19) % 2
        == 0) := by
  simp only [checkHeaderValues, File.fseek, headerValuesStart, headerValuesEnd]
  rw [File.fread_of_le hlength]
  rfl

/-- A cartridge passes if it has the logo and the sum of its header values is odd. -/
theorem validateCart_of_le {bytes : List Byte} (hlength : 0x14F ≤ bytes.length)
    (hlogo : ∀ i < 0x30, bytes.getD (0x104 + i) 0 = nintendoLogoBitmap.getD i 0)
    (hsum : ((List.range 0x19).foldl (fun sum i ↦ sum + (bytes.getD (0x134 + i) 0).toNat) 0 + 0x19)
      % 2 = 0) (m : Machine) : (validateCart m (some bytes)).2 = 1 := by
  have hmatch : (checkLogo m.cartridge.header ⟨bytes, 0⟩).2 = true := by
    rw [checkLogo_of_le _ (by omega), List.all_eq_true]
    exact fun i hi ↦ beq_iff_eq.2 (hlogo i (List.mem_range.1 hi)).symm
  have hvalues : checkHeaderValues ⟨bytes, 0⟩ = true := by
    rw [checkHeaderValues_of_le (by omega), hsum]
    rfl
  simp only [validateCart, if_neg (Nat.not_lt.2 hlength), hmatch, hvalues, Bool.and_self, if_true]

/-! ## Images -/

/-- A file that `loadCartridge` accepts, with the sizes and the controller its header asks for.
The fields are the answers of the three functions that may refuse it.  It is the type of files for
which a game can be started, so that statements about games need no hypothesis that the file
loads. -/
structure Image where
  bytes : List Byte
  romSize : BitVec 32
  ramSize : ℕ
  controller : Controller
  romSize_eq : expectedRomSize (bytes.getD 0x148 0) = some romSize
  length_eq : BitVec.ofNat 32 bytes.length = romSize
  ramSize_eq : ramSizeOf (bytes.getD 0x149 0) = some ramSize
  controller_eq : setMBCType none (bytes.getD 0x147 0) = (some controller, 1)

/-- Every size a code stands for is at least 32 KB, and at most 4 MB. -/
theorem toNat_expectedRomSize {romSize : Byte} {size : BitVec 32}
    (h : expectedRomSize romSize = some size) : 0x8000 ≤ size.toNat ∧ size.toNat ≤ 0x400000 := by
  have hcode : ∀ code : Fin 8, 0x8000 ≤ (1 <<< (15 + code.val) : BitVec 32).toNat ∧
      (1 <<< (15 + code.val) : BitVec 32).toNat ≤ 0x400000 := by decide
  rw [expectedRomSize] at h
  split_ifs at h with h8 h52 h53 h54
  · obtain rfl := Option.some.inj h
    exact hcode ⟨romSize.toNat, h8⟩
  all_goals
    obtain rfl := Option.some.inj h
    decide

/-- Where a type is accepted, the functions installed before do not matter. -/
theorem setMBCType_eq_one {MBC : Option Controller} {cartMBC : Byte}
    (h : (setMBCType MBC cartMBC).2 = 1) :
    ∃ controller, ∀ MBC', setMBCType MBC' cartMBC = (some controller, 1) := by
  unfold setMBCType at h ⊢
  split_ifs at h ⊢ <;> exact ⟨_, fun _ ↦ rfl⟩

namespace Image

variable (image : Image)

/-- An image has at least the bytes that are read into the ROM.  It may have more, by a multiple of
4 GB that `getCartSize` does not see. -/
theorem toNat_romSize_le : image.romSize.toNat ≤ image.bytes.length := by
  have h := congrArg BitVec.toNat image.length_eq
  rw [BitVec.toNat_ofNat] at h
  rw [← h]
  exact Nat.mod_le _ _

/-- The size of its ROM. -/
theorem romSize_bounds : 0x8000 ≤ image.romSize.toNat ∧ image.romSize.toNat ≤ 0x400000 :=
  toNat_expectedRomSize image.romSize_eq

/-- The three sizes of RAM. -/
theorem ramSize_cases : image.ramSize = 0 ∨ image.ramSize = 0x800 ∨ image.ramSize = 0x8000 := by
  have h := image.ramSize_eq
  rw [ramSizeOf] at h
  split_ifs at h <;> simp at h <;> omega

/-- The controllers an image can ask for; four of them are only stubs. -/
theorem setMBCType_eq (MBC : Option Controller) :
    setMBCType MBC (image.bytes.getD 0x147 0) = (some image.controller, 1) := by
  have hnone := image.controller_eq
  obtain ⟨controller, h⟩ := setMBCType_eq_one (congrArg Prod.snd hnone)
  rw [h MBC, ← hnone, h none]

/-- The first `size` bytes of a memory, as a file. -/
def dump (size : ℕ) (memory : ℕ → Byte) : List Byte := (List.range size).map memory

/-- A dump has as many bytes as were asked for, -/
theorem length_dump (size : ℕ) (memory : ℕ → Byte) : (dump size memory).length = size := by
  rw [dump, List.length_map, List.length_range]

/-- and they are those of the memory. -/
theorem getD_dump {size i : ℕ} (h : i < size) (memory : ℕ → Byte) :
    (dump size memory).getD i 0 = memory i := by
  rw [dump, List.getD_eq_getElem?_getD, List.getElem?_map, List.getElem?_range h]
  rfl

/-- The image of 32 KB without RAM that is zero but for its first instruction and its type. -/
def small (entryPoint cartridgeType : Byte) (controller : Controller)
    (h : setMBCType none cartridgeType = (some controller, 1)) : Image where
  bytes := dump 0x8000 fun i ↦
    if i = 0x100 then entryPoint else if i = 0x147 then cartridgeType else 0
  romSize := 0x8000
  ramSize := 0
  controller := controller
  romSize_eq := by
    rw [getD_dump (by decide)]
    rfl
  length_eq := by
    rw [length_dump]
    rfl
  ramSize_eq := by
    rw [getD_dump (by decide)]
    rfl
  controller_eq := by
    rw [getD_dump (by decide)]
    exact h

end Image

/-- The machine with an image in its slot: what `loadCartridge` makes of it. -/
def Machine.insert (m : Machine) (image : Image) : Machine :=
  { m with
    cartridge :=
      { header := headerOf image.bytes m.cartridge.header
        rom := fun i ↦ if i < image.romSize.toNat then image.bytes.getD i 0 else 0
        romLength := image.romSize.toNat
        ram := if image.ramSize ≠ 0 then fun _ ↦ 0 else m.cartridge.ram
        ramLength := if image.ramSize ≠ 0 then image.ramSize else m.cartridge.ramLength
        mbc := true }
    MBC := some image.controller }

/-- An image is read whole, into a ROM of its size. -/
theorem readCartROMToMemory_image (c : Cartridge) (image : Image) :
    readCartROMToMemory c ⟨image.bytes, 0⟩ =
      ({ c with
        header := headerOf image.bytes c.header
        rom := fun i ↦ if i < image.romSize.toNat then image.bytes.getD i 0 else 0
        romLength := image.romSize.toNat }, 1) := by
  have hle := image.toNat_romSize_le
  have hbounds := image.romSize_bounds
  have hvalid : validateCartSize (headerOf image.bytes c.header) image.romSize = 1 := by
    have hsize : expectedRomSize (headerOf image.bytes c.header).romSize = some image.romSize :=
      image.romSize_eq
    rw [validateCartSize, hsize]
    exact if_neg (not_not.2 rfl)
  simp only [readCartROMToMemory]
  rw [setHeaderValues_of_le _ (by simpa using by omega), getCartSize]
  simp only [File.fseek, image.length_eq]
  rw [hvalid, File.fread_of_le (by simpa using hle)]
  simp

/-- What a RAM size that is accepted leads to. -/
theorem initializeRAM_of_eq_some {cartRamSize : Byte} {ramSize : ℕ}
    (h : ramSizeOf cartRamSize = some ramSize) (c : Cartridge) :
    initializeRAM c cartRamSize =
      ({ c with
        ram := if ramSize ≠ 0 then fun _ ↦ 0 else c.ram
        ramLength := if ramSize ≠ 0 then ramSize else c.ramLength }, 1) := by
  rw [initializeRAM, h]
  by_cases h0 : ramSize ≠ 0 <;> simp [h0]

/-- **An image loads.** -/
theorem loadCartridge_image (m : Machine) (image : Image) :
    loadCartridge m (some image.bytes) = (m.insert image, 1) := by
  simp only [loadCartridge, readCartROMToMemory_image]
  rw [if_pos (by decide)]
  simp only [headerOf, initializeRAM_of_eq_some image.ramSize_eq, image.setMBCType_eq]
  rw [if_pos (by decide), if_pos (by decide)]
  rfl

/-- A size that is accepted is the one that the code stands for. -/
theorem validateCartSize_ne_zero {header : Header} {cartSize : BitVec 32}
    (h : validateCartSize header cartSize ≠ 0) :
    expectedRomSize header.romSize = some cartSize := by
  rw [validateCartSize] at h
  split at h
  · exact absurd rfl h
  · rename_i size hsize
    by_cases heq : size ≠ cartSize
    · exact absurd (if_pos heq) h
    · rw [hsize, not_not.1 heq]

/-- A ROM that is read has a header with such a size. -/
theorem readCartROMToMemory_ne_zero {c : Cartridge} {fp : File}
    (h : (readCartROMToMemory c fp).2 ≠ 0) :
    (readCartROMToMemory c fp).1.header = (setHeaderValues c.header fp).1 ∧
      expectedRomSize (setHeaderValues c.header fp).1.romSize =
        some (BitVec.ofNat 32 fp.bytes.length) := by
  simp only [readCartROMToMemory, getCartSize, setHeaderValues_bytes] at h ⊢
  by_cases hvalid : validateCartSize (setHeaderValues c.header fp).1
      (BitVec.ofNat 32 fp.bytes.length) ≠ 0
  · rw [if_pos hvalid]
    exact ⟨rfl, validateCartSize_ne_zero hvalid⟩
  · rw [if_neg hvalid] at h
    exact absurd rfl h

/-- Initialising the RAM leaves the header alone. -/
theorem initializeRAM_header (c : Cartridge) (cartRamSize : Byte) :
    (initializeRAM c cartRamSize).1.header = c.header := by
  rw [initializeRAM]
  split
  · rfl
  · split <;> rfl

/-- It succeeds for a code that stands for a size. -/
theorem initializeRAM_ne_zero {c : Cartridge} {cartRamSize : Byte}
    (h : (initializeRAM c cartRamSize).2 ≠ 0) :
    ∃ ramSize, ramSizeOf cartRamSize = some ramSize := by
  rw [initializeRAM] at h
  cases hram : ramSizeOf cartRamSize with
  | none =>
    rw [hram] at h
    exact absurd rfl h
  | some ramSize => exact ⟨ramSize, rfl⟩

/-- A load succeeds only if each of its three parts does. -/
theorem loadCartridge_success {m : Machine} {bytes : List Byte}
    (h : (loadCartridge m (some bytes)).2 = 1) :
    ∃ c c', readCartROMToMemory m.cartridge ⟨bytes, 0⟩ = c ∧
      initializeRAM c.1 c.1.header.ramSize = c' ∧ c.2 ≠ 0 ∧ c'.2 ≠ 0 ∧
      (setMBCType m.MBC c'.1.header.cartridgeType).2 = 1 := by
  simp only [loadCartridge] at h
  generalize hc : readCartROMToMemory m.cartridge ⟨bytes, 0⟩ = c at h
  generalize hc' : initializeRAM c.1 c.1.header.ramSize = c' at h
  split_ifs at h with hrom hram hmbc
  · exact ⟨c, c', rfl, hc', hrom, hram, h⟩
  · exact absurd (show _ ≠ 0 by rw [h]; decide) hmbc
  · exact absurd (show _ ≠ 0 by rw [h]; decide) hram
  · exact absurd (show _ ≠ 0 by rw [h]; decide) hrom

/-- **What loads is an image.** -/
theorem exists_image {m : Machine} {bytes : List Byte}
    (h : (loadCartridge m (some bytes)).2 = 1) : ∃ image : Image, image.bytes = bytes := by
  obtain ⟨c, c', rfl, rfl, hrom, hram, hmbc⟩ := loadCartridge_success h
  obtain ⟨hheader, hsize⟩ := readCartROMToMemory_ne_zero hrom
  obtain ⟨ramSize, hram⟩ := initializeRAM_ne_zero hram
  obtain ⟨controller, hcontroller⟩ := setMBCType_eq_one hmbc
  rw [hheader] at hram
  rw [initializeRAM_header, hheader] at hcontroller
  -- a file too short for a header is too short for any of the sizes
  have hlong : 0x150 ≤ (File.mk bytes 0).bytes.length := by
    have hle : 0x8000 ≤ (BitVec.ofNat 32 bytes.length).toNat := (toNat_expectedRomSize hsize).1
    have := Nat.mod_le bytes.length (2 ^ 32)
    rw [BitVec.toNat_ofNat] at hle
    exact show 0x150 ≤ bytes.length by omega
  rw [setHeaderValues_of_le m.cartridge.header hlong] at hsize hram hcontroller
  exact ⟨⟨bytes, _, ramSize, controller, hsize, rfl, hram, hcontroller none⟩, rfl⟩

/-- The files that load are the images. -/
theorem loadCartridge_eq_one_iff (m : Machine) (bytes : List Byte) :
    (loadCartridge m (some bytes)).2 = 1 ↔ ∃ image : Image, image.bytes = bytes := by
  constructor
  · exact exists_image
  · rintro ⟨image, rfl⟩
    rw [loadCartridge_image]

end GameBloat
