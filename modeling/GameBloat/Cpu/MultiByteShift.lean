import GameBloat.Cpu.MultiByte
import GameBloat.Cpu.Places

/-!
# Shifting numbers of several bytes

A number of several bytes is doubled with `sla_s` on its lowest byte and `rl_s` on the others,
from the lowest up, and halved with `srl_s` or `sra_s` on its highest byte and `rr_s` on the
others, from the highest down; in memory, with their `_sHL` counterparts.  RL and RR would have to
shift the old carry in.  In `cpu.c` they shift in 0, and `srl_s` sets the carry whatever bit it
shifts out, so that a bit that should pass from one byte to the next is lost.

Since nothing passes between the bytes, each of them is shifted by itself, and the question is
when that is the same as shifting the number.  The answer is found by comparing two systems on
digits.  Doubling is a sum of columns with carries; halving is a long division by 2, from the most
significant digit down, whose remainders are the bits that pass.  Both are in
`GameBloat.Library.DigitSerial`, where `history` lists the digits.

* `ShiftsAt` for the five functions (`shiftsAt_sla` and so on) says what each does to a byte.
* `lowBytes_double` and `lowBytes_half` have the number as a list of digits with carries.
* `map_shiftLeft_eq_iff` and `map_shiftRight_eq_iff` compare it with the list of bytes shifted
  each by itself: they agree if no bit passes, and only then.
* `lowBytes_signed_half` does the arithmetic shift, where the sign comes in on top as a first
  remainder.
* `slaRl_iff` and `srlRr_iff` add the carry flag and are the two laws, for any layout of the bytes
  in registers and memory.

The carry at the end needs care to the right: `srl_s` sets it whatever it shifts out, but if there
is a second byte, `rr_s` writes it again and gets it right.
-/

set_option autoImplicit false

namespace GameBloat

open Cpu (topBit bottomBit flagCarry)

/-! ## The instructions -/

/-- `sla_s` and `sla_sHL`. -/
def slaAt : Place → Machine → Machine := Place.apply Cpu.slaS Cpu.slaSHL

/-- `rl_s` and `rl_sHL`. -/
def rlAt : Place → Machine → Machine := Place.apply Cpu.rlS Cpu.rlSHL

/-- `srl_s` and `srl_sHL`. -/
def srlAt : Place → Machine → Machine := Place.apply Cpu.srlS Cpu.srlSHL

/-- `sra_s` and `sra_sHL`. -/
def sraAt : Place → Machine → Machine := Place.apply Cpu.sraS Cpu.sraSHL

/-- `rr_s` and `rr_sHL`. -/
def rrAt : Place → Machine → Machine := Place.apply Cpu.rrS Cpu.rrSHL

theorem shiftsAt_sla : ShiftsAt slaAt (· <<< 1) topBit := .of_moves (moves_shift _ _)

/-- RL does what SLA does. -/
theorem shiftsAt_rl : ShiftsAt rlAt (· <<< 1) topBit := .of_moves (moves_shift _ _)

theorem shiftsAt_srl : ShiftsAt srlAt (· >>> 1) fun _ ↦ true := .of_moves (moves_shift _ _)

theorem shiftsAt_sra : ShiftsAt sraAt (fun s ↦ s >>> 1 ||| s &&& 0x80) bottomBit :=
  .of_moves (moves_shift _ _)

theorem shiftsAt_rr : ShiftsAt rrAt (· >>> 1) bottomBit := .of_moves (moves_shift _ _)

/-- The bytes in their places, and the carry flag: what a program reads after a shift. -/
structure Layout.Result (l : Layout) (m : Machine) (bytes : List Byte) (carry : Bool) : Prop where
  bytes : l.bytes m = bytes
  carry : m.registers.HasFlag flagCarry ↔ carry = true

theorem Layout.result_iff {l : Layout} {m : Machine} {bytes : List Byte} {carry : Bool}
    (h : m.registers.HasFlag flagCarry ↔ carry = true) :
    l.Result m bytes carry ↔ l.bytes m = bytes := ⟨fun h' ↦ h'.bytes, fun h' ↦ ⟨h', h⟩⟩

theorem Layout.bytes_ne_nil (l : Layout) (m : Machine) : l.bytes m ≠ [] := List.cons_ne_nil _ _

/-- If all shifts put the same bit into C, that of the last byte is there at the end. -/
theorem hasFlag_shiftEach_same {first next : Place → Machine → Machine} {value value' : Byte → Byte}
    {carry : Byte → Bool} (hfirst : ShiftsAt first value carry) (hnext : ShiftsAt next value' carry)
    (l : Layout) (m : Machine) : (shiftEach first next l m).registers.HasFlag flagCarry ↔
      carry ((l.bytes m).getLast (l.bytes_ne_nil m)) = true := by
  have hlast : (l.bytes m).getLast (l.bytes_ne_nil m) =
      (l.rest.map (·.get m)).getLastD (l.first.get m) := List.getLast_eq_getLastD _
  have hmap : carry ((l.rest.map (·.get m)).getLastD (l.first.get m)) =
      (l.rest.map fun p ↦ carry (p.get m)).getLastD (carry (l.first.get m)) := by
    rw [← List.getLastD_map (f := carry), List.map_map]
    rfl
  rw [hasFlag_shiftEach hfirst hnext, hlast, hmap]

/-! ## Bits of a number -/

theorem number_cons (byte : Byte) (bytes : List Byte) :
    number (byte :: bytes) = 256 * number bytes + byte.toNat :=
  Nat.add_comm _ _

/-- The bits of a number are those of its bytes. -/
theorem testBit_number (bytes : List Byte) {i j : ℕ} (hi : i < bytes.length) (hj : j < 8) :
    (number bytes).testBit (8 * i + j) = (bytes[i]).getLsbD j := by
  induction bytes generalizing i with
  | nil => exact absurd hi (Nat.not_lt_zero i)
  | cons byte bytes ih =>
    rw [number_cons]
    have hsplit := Nat.testBit_two_pow_mul_add (number bytes) byte.isLt (8 * i + j)
    refine hsplit.trans ?_
    cases i with
    | zero =>
      rw [Nat.mul_zero, Nat.zero_add, if_pos hj]
      rfl
    | succ i =>
      have hrest : 8 * (i + 1) + j - 8 = 8 * i + j := by omega
      rw [if_neg (by omega), hrest]
      exact ih (Nat.lt_of_succ_lt_succ hi)

theorem topBit_eq : ∀ s : Byte, topBit s = s.getLsbD 7 := by decide

theorem bottomBit_eq : ∀ s : Byte, bottomBit s = s.getLsbD 0 := by decide

theorem testBit_number_top {bytes : List Byte} (h : bytes ≠ []) :
    (number bytes).testBit (8 * bytes.length - 1) = topBit (bytes.getLast h) := by
  have hpos := List.length_pos_iff.2 h
  have hindex : 8 * bytes.length - 1 = 8 * (bytes.length - 1) + 7 := by omega
  rw [hindex, testBit_number bytes (by omega) (by decide), topBit_eq, List.getLast_eq_getElem]

theorem testBit_number_bottom {bytes : List Byte} (h : bytes ≠ []) :
    (number bytes.reverse).testBit 0 = bottomBit (bytes.getLast h) := by
  have hpos := List.length_pos_iff.2 h
  have hbit := testBit_number bytes.reverse (i := 0) (j := 0) (by simpa using hpos) (by decide)
  rw [bottomBit_eq, List.getLast_eq_getElem]
  refine hbit.trans ?_
  rw [List.getElem_reverse]
  rfl

/-! ## To the left -/

/-- Twice a byte. -/
def doubled (byte : Byte) : ℕ := 2 * byte.toNat

/-- A number is doubled byte by byte, with carries: the digits of twice the number are those of
the sums of twice each byte and what the byte below carries. -/
theorem lowBytes_double (bytes : List Byte) : lowBytes bytes.length (2 * number bytes : ℕ) =
    ((serialSum 256 fun byte ↦ (doubled byte : ℤ)).history 0 bytes).map (BitVec.ofNat 8) := by
  have hdouble : Nat.ofDigits 256 (bytes.map doubled) = 2 * number bytes := by
    rw [number, Nat.mul_ofDigits, List.map_map]
    rfl
  rw [serialSum_history _ (by decide), columns_natCast, hdouble, Int.add_zero]
  rfl

/-- Shifting each byte to the left by itself doubles the number if no bit passes to another byte.
The top bit of the last byte does not count, since it goes to the carry flag and not to a byte. -/
theorem map_shiftLeft_eq_iff (bytes : List Byte) :
    bytes.map (fun byte : Byte ↦ byte <<< 1) = lowBytes bytes.length (2 * number bytes : ℕ) ↔
      ∀ byte ∈ bytes.dropLast, topBit byte = false := by
  rw [lowBytes_double]
  refine map_eq_history_iff (P := fun carry ↦ carry = 0) (Q := fun carry ↦ carry = 1)
    (fun _ _ ↦ rfl) ?_ ?_ ?_ ?_ rfl bytes
  · rintro _ byte rfl
    revert byte
    decide
  · rintro _ byte rfl
    revert byte
    decide
  · rintro _ byte rfl
    revert byte
    decide
  · rintro _ byte rfl
    revert byte
    decide

/-- 0x0080 is doubled to 0x0000. -/
theorem rl_loses_carry :
    let l : Layout := ⟨.reg .C, [.reg .B], by decide⟩
    let m := Machine.powerOn.onRegisters fun r ↦ { r with B := 0x00, C := 0x80 }
    ¬l.Result (shiftEach slaAt rlAt l m)
      (lowBytes 2 (2 * number (l.bytes m) % 256 ^ 2)) ((number (l.bytes m)).testBit 15) := by
  intro l m h
  exact absurd h.bytes (by decide)

/-- **When a shift to the left is right**: no bit passes from one byte to the next.  The layout is
arbitrary, and so are the bytes; the carry at the end is right in any case.  RL takes the new
carry out of its operand, but does not bring the old one in. -/
theorem slaRl_iff (l : Layout) (m : Machine) :
    let n := (l.bytes m).length
    let x := number (l.bytes m)
    l.Result (shiftEach slaAt rlAt l m) (lowBytes n (2 * x % 256 ^ n)) (x.testBit (8 * n - 1)) ↔
      ∀ byte ∈ (l.bytes m).dropLast, topBit byte = false := by
  intro n x
  have hcarry := hasFlag_shiftEach_same shiftsAt_sla shiftsAt_rl l m
  rw [← testBit_number_top] at hcarry
  have hbytes : l.bytes (shiftEach slaAt rlAt l m) =
      (l.bytes m).map fun byte : Byte ↦ byte <<< 1 := by
    rw [bytes_shiftEach shiftsAt_sla shiftsAt_rl, Layout.bytes, List.map_map]
    rfl
  rw [Layout.result_iff hcarry, hbytes, lowBytes_emod]
  exact map_shiftLeft_eq_iff (l.bytes m)

/-! ## To the right -/

/-- The number that bytes stand for in two's complement, the least significant first.  Its sign is
the top bit of the last byte. -/
def signedNumber (bytes : List Byte) : ℤ :=
  (BitVec.ofNat (8 * bytes.length) (number bytes)).toInt

/-- The sign of a byte, as a digit. -/
def signDigit (byte : Byte) : ℕ := if topBit byte then 1 else 0

theorem signedNumber_eq (byte : Byte) (bytes : List Byte) :
    signedNumber (byte :: bytes).reverse =
      number (byte :: bytes).reverse - 256 ^ (bytes.length + 1) * signDigit byte := by
  let x := number (byte :: bytes).reverse
  have hlength : (byte :: bytes).reverse.length = bytes.length + 1 := by simp
  have hpow : 2 ^ (8 * (bytes.length + 1)) = 256 ^ (bytes.length + 1) := Nat.pow_mul 2 8 _
  have hlt : x < 256 ^ (bytes.length + 1) := hlength ▸ number_lt _
  have hnat : (BitVec.ofNat (8 * (bytes.length + 1)) x).toNat = x := by
    rw [BitVec.toNat_ofNat, hpow, Nat.mod_eq_of_lt hlt]
  have hmsb : (BitVec.ofNat (8 * (bytes.length + 1)) x).msb = topBit byte := by
    have htop := testBit_number_top (List.reverse_ne_nil_iff.2 (List.cons_ne_nil byte bytes))
    rw [hlength, List.getLast_reverse] at htop
    rw [BitVec.msb_eq_getLsbD_last, BitVec.getLsbD_ofNat, decide_eq_true (by omega),
      Bool.true_and]
    exact htop
  rw [signedNumber, hlength, BitVec.toInt_eq_msb_cond, hmsb, hnat, hpow, signDigit]
  split
  · push_cast
    rw [Int.mul_one]
  · rw [Nat.cast_zero, Int.mul_zero, Int.sub_zero]

/-- A number is halved byte by byte, with remainders: a long division by 2, with `rest` for what
comes in from above the first byte. -/
theorem lowBytes_half {rest : ℕ} (hrest : rest < 2) (bytes : List Byte) :
    (lowBytes bytes.length
        ((256 ^ bytes.length * rest + number bytes.reverse) / 2 : ℕ)).reverse =
      ((serialQuotient 256 2 BitVec.toNat).history rest bytes).map (BitVec.ofNat 8) := by
  obtain ⟨hlaw, -⟩ := serialQuotient_law (b := 256) (d := BitVec.toNat) (fun e : Byte ↦ e.isLt)
    hrest bytes
  rw [← List.map_reverse] at hlaw
  rw [lowBytes, ← List.map_reverse, number, ← hlaw, List.reverse_reverse]

/-- Shifting each byte to the right by itself halves the number if no bit passes to another byte. -/
theorem map_shiftRight_eq_iff (bytes : List Byte) :
    bytes.map (fun byte : Byte ↦ byte >>> 1) =
        ((serialQuotient 256 2 BitVec.toNat).history 0 bytes).map (BitVec.ofNat 8) ↔
      ∀ byte ∈ bytes.dropLast, bottomBit byte = false := by
  refine map_eq_history_iff (P := fun rest ↦ rest = 0) (Q := fun rest ↦ rest = 1)
    (fun _ _ ↦ rfl) ?_ ?_ ?_ ?_ rfl bytes
  · rintro _ byte rfl
    revert byte
    decide
  · rintro _ byte rfl
    revert byte
    decide
  · rintro _ byte rfl
    revert byte
    decide
  · rintro _ byte rfl
    revert byte
    decide

/-- The remainder is the lowest bit, and the sign comes in on top. -/
theorem map_sra_eq_iff (byte : Byte) (bytes : List Byte) :
    (byte >>> 1 ||| byte &&& 0x80) :: bytes.map (fun byte : Byte ↦ byte >>> 1) =
        ((serialQuotient 256 2 BitVec.toNat).history (signDigit byte) (byte :: bytes)).map
          (BitVec.ofNat 8) ↔
      ∀ s ∈ (byte :: bytes).dropLast, bottomBit s = false := by
  have hsra : ∀ byte : Byte,
      (byte >>> 1 ||| byte &&& 0x80) =
        BitVec.ofNat 8 ((256 * signDigit byte + byte.toNat) / 2) := by
    decide
  have hsrl : ∀ byte : Byte, byte >>> 1 = BitVec.ofNat 8 ((256 * 0 + byte.toNat) / 2) := by decide
  have hrest : (256 * signDigit byte + byte.toNat) % 2 = (256 * 0 + byte.toNat) % 2 := by omega
  refine Iff.trans ?_ (map_shiftRight_eq_iff (byte :: bytes))
  rw [hsra, List.map_cons, hsrl byte]
  show _ :: _ = _ :: ((serialQuotient 256 2 BitVec.toNat).history _ bytes).map _ ↔
    _ :: _ = _ :: ((serialQuotient 256 2 BitVec.toNat).history _ bytes).map _
  rw [List.cons_inj_right, List.cons_inj_right]
  show _ = ((serialQuotient 256 2 BitVec.toNat).history
    ((256 * signDigit byte + byte.toNat) % 2) bytes).map _ ↔ _
  rw [hrest]
  rfl

theorem lowBytes_signed_half (byte : Byte) (bytes : List Byte) :
    (lowBytes (bytes.length + 1) (signedNumber (byte :: bytes).reverse / 2)).reverse =
      ((serialQuotient 256 2 BitVec.toNat).history (signDigit byte) (byte :: bytes)).map
        (BitVec.ofNat 8) := by
  have hsign : signDigit byte < 2 := by
    rw [signDigit]
    split <;> decide
  rw [← lowBytes_half hsign, signedNumber_eq]
  let x := number (byte :: bytes).reverse
  let p := 256 ^ (bytes.length + 1) * signDigit byte
  -- the two differ by a multiple of `256 ^ n`
  have hhalf : ((p + x) / 2 : ℕ) = ((x : ℤ) - 256 ^ (bytes.length + 1) * signDigit byte) / 2 +
      256 ^ (bytes.length + 1) * signDigit byte := by
    have hp : ((p : ℕ) : ℤ) = 256 ^ (bytes.length + 1) * signDigit byte := by
      exact_mod_cast rfl
    rw [← hp]
    omega
  have hsame := lowDigits_add_mul (b := 256) (by decide) (bytes.length + 1)
    (((x : ℤ) - 256 ^ (bytes.length + 1) * signDigit byte) / 2) (signDigit byte)
  refine congrArg (fun digits ↦ (List.map (BitVec.ofNat 8) digits).reverse) ?_
  rw [← hsame]
  exact congrArg (lowDigits 256 (bytes.length + 1)) hhalf.symm

/-- SRL sets the carry whatever it shifts out; RR puts it right. -/
theorem hasFlag_srl_rr_iff (l : Layout) (m : Machine) :
    ((shiftEach srlAt rrAt l m).registers.HasFlag flagCarry ↔
        (number (l.bytes m).reverse).testBit 0 = true) ↔
      (l.rest = [] → bottomBit (l.first.get m) = true) := by
  have hbytes : l.bytes m = l.first.get m :: l.rest.map (·.get m) := rfl
  rw [hasFlag_shiftEach shiftsAt_srl shiftsAt_rr, testBit_number_bottom (l.bytes_ne_nil m)]
  simp only [hbytes, List.getLast_eq_getLastD]
  cases l.rest with
  | nil => simp
  | cons p places =>
    refine iff_of_true ?_ fun h ↦ absurd h (List.cons_ne_nil p places)
    rw [List.map_cons, List.map_cons, List.getLastD_cons, List.getLastD_cons,
      ← List.getLastD_map (f := bottomBit), List.map_map]
    rfl

/-- 0x0100 is halved to 0x0000, with SRL and with SRA. -/
theorem rr_loses_carry :
    let l : Layout := ⟨.reg .B, [.reg .C], by decide⟩
    let m := Machine.powerOn.onRegisters fun r ↦ { r with B := 0x01, C := 0x00 }
    let x := number (l.bytes m).reverse
    ¬l.Result (shiftEach srlAt rrAt l m) (lowBytes 2 (x / 2)).reverse (x.testBit 0) ∧
      ¬l.Result (shiftEach sraAt rrAt l m)
        (lowBytes 2 (signedNumber (l.bytes m).reverse / 2)).reverse (x.testBit 0) := by
  intro l m x
  exact ⟨fun h ↦ absurd h.bytes (by decide), fun h ↦ absurd h.bytes (by decide)⟩

/-- **When a shift to the right is right**: no bit passes from one byte to the next, and if there
is one byte only, SRL shifts out 1.  The same holds of SRA at the high end, where the sign is
kept, but for the condition on a single byte. -/
theorem srlRr_iff (l : Layout) (m : Machine) :
    let n := (l.bytes m).length
    let x := number (l.bytes m).reverse
    (l.Result (shiftEach srlAt rrAt l m) (lowBytes n (x / 2)).reverse (x.testBit 0) ↔
      (∀ byte ∈ (l.bytes m).dropLast, bottomBit byte = false) ∧
        (l.rest = [] → bottomBit (l.first.get m) = true)) ∧
    (l.Result (shiftEach sraAt rrAt l m)
        (lowBytes n (signedNumber (l.bytes m).reverse / 2)).reverse (x.testBit 0) ↔
      ∀ byte ∈ (l.bytes m).dropLast, bottomBit byte = false) := by
  intro n x
  constructor
  · have hbytes : l.bytes (shiftEach srlAt rrAt l m) =
        (l.bytes m).map fun byte : Byte ↦ byte >>> 1 := by
      rw [bytes_shiftEach shiftsAt_srl shiftsAt_rr, Layout.bytes, List.map_map]
      rfl
    have hhalf := lowBytes_half (show 0 < 2 by decide) (l.bytes m)
    rw [Nat.mul_zero, Nat.zero_add] at hhalf
    rw [← hasFlag_srl_rr_iff, ← map_shiftRight_eq_iff, ← hhalf, ← hbytes]
    exact ⟨fun h ↦ ⟨h.bytes, h.carry⟩, fun h ↦ ⟨h.1, h.2⟩⟩
  · have hcarry := hasFlag_shiftEach_same shiftsAt_sra shiftsAt_rr l m
    rw [← testBit_number_bottom] at hcarry
    have hbytes := bytes_shiftEach shiftsAt_sra shiftsAt_rr l m
    have hsame := map_sra_eq_iff (l.first.get m) (l.rest.map (·.get m))
    rw [← lowBytes_signed_half, List.length_map, List.map_map] at hsame
    rw [Layout.result_iff hcarry, hbytes]
    have hn : n = l.rest.length + 1 := congrArg (· + 1) (List.length_map _)
    rw [hn]
    exact hsame

end GameBloat
