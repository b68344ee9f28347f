import Mathlib.Algebra.GroupWithZero.Nat
import GameBloat.Cartridge.Load

/-!
# The power-up check

The check is meant to let a file pass if it holds a header, the logo is in it, and the sum of the
header values and 25 has a lowest byte of 0.  `validateCart` misses each of the numbers by a
little: the file may be one byte short of a header, the sum stops before the checksum that makes
it come out right, and of the sum only the lowest *bit* is looked at.

So it passes half of all files with the logo (`passesCheck_iff`).  It is right about those where
the bit and the byte say the same, and of the changes to a header value it notices those to the
parity, except in the checksum (`power_up_check_iff`).

What a checksum is for is to notice changes.  `HeaderChange` is another value at one position of
the header values, and a change is noticed if a file that passes does not pass with it.  For a sum
modulo 256 every single change would be; for the parity it is one in two, and for the position of
the checksum, which is not added up, none.  Both parts of the theorem are exact, for files of
every length and contents and every single change.

The sum changes with one of its terms, and nothing else does (`headerSum_set`).  It is stated
without subtraction, with the old value on one side and the new one on the other, so that it is an
equation of natural numbers.
-/

set_option autoImplicit false

namespace GameBloat

/-! ## What should pass -/

/-- The file has the logo. -/
def HasLogo (bytes : List Byte) : Prop :=
  ∀ i < 0x30, bytes.getD (0x104 + i) 0 = nintendoLogoBitmap.getD i 0

/-- The sum of the first `count` header values, and 25. -/
def headerSum (bytes : List Byte) (count : ℕ) : ℕ :=
  ((List.range count).map fun i ↦ (bytes.getD (0x134 + i) 0).toNat).sum + 25

/-- A whole header, with the logo and a checksum that is right: what the comment in the source
asks for. -/
structure ValidHeader (bytes : List Byte) : Prop where
  length : 0x150 ≤ bytes.length
  logo : HasLogo bytes
  checksum : headerSum bytes 0x1A % 256 = 0

/-- `validateCart` accepts the file. -/
def PassesCheck (m : Machine) (bytes : List Byte) : Prop := (validateCart m (some bytes)).2 = 1

/-- Another value for one of the header values, those from 0x134 to 0x14D.  The logo is not among
them, as it is compared byte by byte and no sum is involved. -/
structure HeaderChange (bytes : List Byte) where
  position : ℕ
  value : Byte
  le_position : 0x134 ≤ position
  position_le : position ≤ 0x14D
  value_ne : value ≠ bytes.getD position 0

namespace HeaderChange

variable {bytes : List Byte} (change : HeaderChange bytes)

/-- The file with the change. -/
def changed : List Byte := bytes.set change.position change.value

/-- If the file passes, it does not with the change. -/
def Noticed (m : Machine) : Prop := PassesCheck m bytes → ¬PassesCheck m change.changed

/-- The value is one of those that are added up, and the new one has not the parity of the old. -/
def ChangesParity : Prop :=
  change.position ≠ 0x14D ∧ change.value.toNat % 2 ≠ (bytes.getD change.position 0).toNat % 2

end HeaderChange

/-- What passes: all but a header, the logo, and a sum without the checksum that is even. -/
structure HalfValid (bytes : List Byte) : Prop where
  length : 0x14F ≤ bytes.length
  logo : HasLogo bytes
  parity : headerSum bytes 0x19 % 2 = 0

/-- In a file with the logo, the short sum is even exactly if the header is whole and the lowest
byte of the whole sum is 0.  This is about the bytes of the file, and no function of the check
occurs in it. -/
def ParityDecides (bytes : List Byte) : Prop :=
  0x14F ≤ bytes.length → HasLogo bytes →
    (headerSum bytes 0x19 % 2 = 0 ↔ 0x150 ≤ bytes.length ∧ headerSum bytes 0x1A % 256 = 0)

/-! ## What passes -/

/-- The sum, one value at a time. -/
theorem headerSum_succ (bytes : List Byte) (count : ℕ) :
    headerSum bytes (count + 1) =
      headerSum bytes count + (bytes.getD (0x134 + count) 0).toNat := by
  rw [headerSum, List.range_succ, List.map_append, List.sum_append, headerSum]
  simp only [List.map_cons, List.map_nil, List.sum_cons, List.sum_nil]
  omega

/-- The loop of `checkHeaderValues`. -/
theorem foldl_headerSum (bytes : List Byte) (count : ℕ) :
    (List.range count).foldl (fun sum i ↦ sum + (bytes.getD (0x134 + i) 0).toNat) 0 + 25 =
      headerSum bytes count := by
  induction count with
  | zero => rfl
  | succ count ih =>
    rw [headerSum_succ, ← ih, List.range_succ, List.foldl_append]
    simp only [List.foldl_cons, List.foldl_nil]
    omega

/-- **What passes the check.** -/
theorem passesCheck_iff (m : Machine) (bytes : List Byte) :
    PassesCheck m bytes ↔ HalfValid bytes := by
  by_cases hlength : bytes.length < 0x14F
  · have hrefused : validateCart m (some bytes) = (m, 0) := if_pos hlength
    rw [PassesCheck, hrefused]
    exact iff_of_false Nat.zero_ne_one fun h ↦ absurd h.length (Nat.not_le_of_lt hlength)
  · have hle := Nat.not_lt.1 hlength
    have hlogo : (checkLogo m.cartridge.header ⟨bytes, 0⟩).2 = true ↔ HasLogo bytes := by
      rw [checkLogo_of_le _ (by omega), List.all_eq_true, HasLogo]
      refine forall_congr' fun i ↦ ?_
      rw [List.mem_range, beq_iff_eq, eq_comm]
    have hsum : checkHeaderValues ⟨bytes, 0⟩ = true ↔ headerSum bytes 0x19 % 2 = 0 := by
      rw [checkHeaderValues_of_le (by omega), foldl_headerSum, beq_iff_eq]
    have hpasses : PassesCheck m bytes ↔
        ((checkLogo m.cartridge.header ⟨bytes, 0⟩).2 && checkHeaderValues ⟨bytes, 0⟩) = true := by
      rw [PassesCheck, validateCart, if_neg hlength]
      dsimp only
      split
      · exact iff_of_true rfl ‹_›
      · exact iff_of_false Nat.zero_ne_one ‹_›
    rw [hpasses, Bool.and_eq_true, hlogo, hsum]
    exact ⟨fun h ↦ ⟨hle, h.1, h.2⟩, fun h ↦ ⟨h.logo, h.parity⟩⟩

/-! ## What a change does -/

section

variable {bytes : List Byte} {k : ℕ} (hk : k < bytes.length) (value : Byte)

include hk

/-- A byte of the file after the change. -/
theorem getD_set (i : ℕ) :
    (bytes.set k value).getD i 0 = if i = k then value else bytes.getD i 0 := by
  simp only [List.getD_eq_getElem?_getD, List.getElem?_set, hk, if_true]
  by_cases h : i = k
  · rw [if_pos h, if_pos h.symm, Option.getD_some]
  · rw [if_neg h, if_neg (Ne.symm h)]

/-- The sum follows the change of one of its terms, -/
theorem headerSum_set (count : ℕ) (hle : 0x134 ≤ k) :
    headerSum (bytes.set k value) count +
        (if k < 0x134 + count then (bytes.getD k 0).toNat else 0) =
      headerSum bytes count + if k < 0x134 + count then value.toNat else 0 := by
  induction count with
  | zero =>
    rw [if_neg (by omega), if_neg (by omega)]
    rfl
  | succ count ih =>
    rw [headerSum_succ, headerSum_succ, getD_set hk]
    rcases Nat.lt_trichotomy k (0x134 + count) with h | rfl | h
    · rw [if_neg (by omega), if_pos (by omega), if_pos (by omega)]
      rw [if_pos h, if_pos h] at ih
      omega
    · rw [if_pos rfl, if_pos (by omega), if_pos (by omega)]
      rw [if_neg (by omega), if_neg (by omega)] at ih
      omega
    · rw [if_neg (by omega), if_neg (by omega), if_neg (by omega)]
      rw [if_neg (by omega), if_neg (by omega)] at ih
      omega

/-- and the logo stays. -/
theorem hasLogo_set (hle : 0x134 ≤ k) : HasLogo (bytes.set k value) ↔ HasLogo bytes := by
  refine forall_congr' fun i ↦ forall_congr' fun hi ↦ ?_
  rw [getD_set hk, if_neg (by omega)]

end

/-! ## When the check is right -/

namespace HeaderChange

variable {bytes : List Byte} (change : HeaderChange bytes)

/-- The position is in the file, if the file is long enough to be checked. -/
theorem position_lt (h : 0x14F ≤ bytes.length) : change.position < bytes.length := by
  have := change.position_le
  omega

/-- A file that passes does so after the change too, unless this changes the parity. -/
theorem noticed_iff (m : Machine) :
    change.Noticed m ↔ (HalfValid bytes → change.ChangesParity) := by
  rw [Noticed, passesCheck_iff, passesCheck_iff]
  refine forall_congr' fun h ↦ ?_
  have hk := change.position_lt h.length
  have hle := change.le_position
  have hparity := h.parity
  have hsum := headerSum_set hk change.value 0x19 hle
  have hchanged : HalfValid change.changed ↔ headerSum change.changed 0x19 % 2 = 0 :=
    ⟨HalfValid.parity, fun h' ↦ ⟨(List.length_set).symm ▸ h.length,
      (hasLogo_set hk change.value hle).2 h.logo, h'⟩⟩
  rw [hchanged, ChangesParity, changed]
  by_cases hlast : change.position = 0x14D
  · rw [if_neg (by omega), if_neg (by omega)] at hsum
    omega
  · have := change.position_le
    rw [if_pos (by omega), if_pos (by omega)] at hsum
    omega

end HeaderChange

/-- A file that is all zeros but for the logo and one header value. -/
def logoFile : List Byte :=
  Image.dump 0x150 fun i ↦
    if 0x104 ≤ i ∧ i < 0x134 then nintendoLogoBitmap.getD (i - 0x104) 0
    else if i = 0x134 then 0x01
    else 0

/-- The bytes of that file, -/
theorem getD_logoFile {i : ℕ} (h : i < 0x150) :
    logoFile.getD i 0 = if 0x104 ≤ i ∧ i < 0x134 then nintendoLogoBitmap.getD (i - 0x104) 0
      else if i = 0x134 then 0x01 else 0 :=
  Image.getD_dump h _

/-- their number, -/
theorem length_logoFile : logoFile.length = 0x150 := Image.length_dump _ _

/-- and the sum, which is even without being 0 modulo 256. -/
theorem headerSum_logoFile {count : ℕ} (h : count < 0x1A) :
    headerSum logoFile (count + 1) = 26 := by
  induction count with
  | zero => rfl
  | succ count ih =>
    rw [headerSum_succ, ih (by omega), getD_logoFile (by omega), if_neg (by omega),
      if_neg (by omega)]
    rfl

/-- The file passes. -/
theorem halfValid_logoFile : HalfValid logoFile := by
  refine ⟨by rw [length_logoFile]; decide, fun i hi ↦ ?_, by rw [headerSum_logoFile (by decide)]⟩
  rw [getD_logoFile (by omega), if_pos (by omega), Nat.add_sub_cancel_left]

/-- It passes without a checksum. -/
theorem logoFile_passes : ¬(PassesCheck Machine.powerOn logoFile ↔ ValidHeader logoFile) := by
  rw [passesCheck_iff]
  intro h
  have hchecksum := (h.1 halfValid_logoFile).checksum
  rw [headerSum_logoFile (by decide)] at hchecksum
  exact absurd hchecksum (by decide)

/-- **When the check is right** about a file, and about a change to one of its header values.  It
looks at the lowest bit of a sum where the whole byte is meant, and the checksum itself is not in
that sum; so a change that keeps the parity goes unnoticed, and so does any change of the
checksum. -/
theorem power_up_check_iff (m : Machine) (bytes : List Byte) :
    ((PassesCheck m bytes ↔ ValidHeader bytes) ↔ ParityDecides bytes) ∧
      ∀ change : HeaderChange bytes,
        change.Noticed m ↔ (HalfValid bytes → change.ChangesParity) := by
  refine ⟨?_, fun change ↦ change.noticed_iff m⟩
  rw [passesCheck_iff]
  constructor
  · intro h hlength hlogo
    constructor
    · intro hparity
      have hvalid := h.1 ⟨hlength, hlogo, hparity⟩
      exact ⟨hvalid.length, hvalid.checksum⟩
    · rintro ⟨hlength', hchecksum⟩
      exact (h.2 ⟨hlength', hlogo, hchecksum⟩).parity
  · intro h
    constructor
    · rintro ⟨hlength, hlogo, hparity⟩
      obtain ⟨hlength', hchecksum⟩ := (h hlength hlogo).1 hparity
      exact ⟨hlength', hlogo, hchecksum⟩
    · rintro ⟨hlength, hlogo, hchecksum⟩
      exact ⟨by omega, hlogo, (h (by omega) hlogo).2 ⟨hlength, hchecksum⟩⟩

end GameBloat
