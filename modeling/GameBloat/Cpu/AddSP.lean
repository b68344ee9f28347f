import GameBloat.Cpu.Arithmetic

/-!
# ADD SP,e and LDHL SP,e

Two instructions add a signed byte to SP: one puts the sum in SP and the other in HL.  Both sums
are right.  The flags should be those of the lowest byte of SP and the byte, added as unsigned
numbers, and the two bodies should agree on them.

Both take the carry from bit 15 of the 16-bit sum instead, and `add_SP_e` looks for the half-carry
in the nibbles of SP and the *sum*, where `ld_HL_SP_e` has SP and the byte.

So there are two independent conditions, one for each flag, and `offsets_iff` says that their
conjunction is exact.  Each of them takes some arithmetic to make explicit:

* the carry out of bit 15 of `SP` and a sign-extended byte: for a byte below 0x80 the high byte of
  the offset is 0, so a carry goes through only if that of `SP` is 0xFF; for any other byte it is
  0xFF, and a carry goes through unless the high byte of `SP` is 0 and none comes from below
  (`SameWordCarry`, `wordCarry_iff`);
* the carry of the nibbles of `SP` and the sum: it depends on twice the nibble of `SP`
  (`SameNibbleCarry`, `nibbleCarry_iff`).

`OffsetsAgree` lists what is asked for: the same value where it belongs, which is the sum with the
sign of the offset, the same flags, and the right ones in both.
-/

set_option autoImplicit false

namespace GameBloat

open Cpu (flagZero flagNegative flagHalfCarry flagCarry)

/-! ## What should be left -/

/-- The flags of `SP + e`: C and H are the carries out of the lowest byte and nibble, with the
offset taken as an unsigned byte even where it is negative.  Z and N are clear.  This is what the
processor does for both instructions; the code takes the carry at bit 16 in both. -/
structure OffsetFlags (SP : Word) (e : Byte) (r : Registers) : Prop where
  zero : ¬r.HasFlag flagZero
  negative : ¬r.HasFlag flagNegative
  carry : r.HasFlag flagCarry ↔ 255 < SP.toNat % 256 + e.toNat
  halfCarry : r.HasFlag flagHalfCarry ↔ 15 < SP.toNat % 16 + e.toNat % 16

/-- The two instructions put the same sum where it belongs, and leave the same flags. -/
structure OffsetsAgree (r : Registers) (e : Byte) : Prop where
  value : (Cpu.addSPE r e).SP = (Cpu.ldHLSPE r e).HL
  sum : ((Cpu.ldHLSPE r e).HL.toNat : ℤ) = (r.SP.toNat + e.toInt) % 65536
  flags : (Cpu.addSPE r e).F = (Cpu.ldHLSPE r e).F
  addSP : OffsetFlags r.SP e (Cpu.addSPE r e)
  ldHLSP : OffsetFlags r.SP e (Cpu.ldHLSPE r e)

/-- The sum has a carry out of its lowest byte exactly if it has one out of bit 15.  To a positive
offset a carry goes all the way only if the high byte of SP is 0xFF; a negative one has a high byte
0xFF itself. -/
def SameWordCarry (SP : Word) (e : Byte) : Prop :=
  if e.toNat < 128 then SP.toNat % 256 + e.toNat ≤ 255 ∨ 0xFF00 ≤ SP.toNat
  else 255 < SP.toNat % 256 + e.toNat ∨ SP.toNat < 0x100

/-- The nibbles of SP and of the sum have a carry exactly if those of SP and the offset have one.
The nibble of the sum is that of the two others, so in the condition the one of SP is counted
twice. -/
def SameNibbleCarry (SP : Word) (e : Byte) : Prop :=
  2 * (SP.toNat % 16) + e.toNat % 16 ≤ 15 ∨ 32 ≤ 2 * (SP.toNat % 16) + e.toNat % 16

/-! ## What is left -/

/-- Z and N cleared, and C and H written. -/
def offsetF (F : Byte) (c h : Bool) : Byte :=
  flagged (flagged (F &&& ~~~(flagZero ||| flagNegative)) flagCarry c) flagHalfCarry h

theorem offsetF_spec (F : Byte) (c h : Bool) :
    offsetF F c h &&& flagZero = 0 ∧ offsetF F c h &&& flagNegative = 0 ∧
      (offsetF F c h &&& flagCarry ≠ 0 ↔ c = true) ∧
      (offsetF F c h &&& flagHalfCarry ≠ 0 ↔ h = true) := by
  have hcleared {flag : Byte} (hhalf : flagHalfCarry &&& flag = 0) (hcarry : flagCarry &&& flag = 0)
      (hmask : ~~~(flagZero ||| flagNegative) &&& flag = 0) : offsetF F c h &&& flag = 0 := by
    rw [offsetF, flagged_and_of_disjoint hhalf, flagged_and_of_disjoint hcarry, BitVec.and_assoc,
      hmask]
    exact BitVec.and_zero
  refine ⟨hcleared (by decide) (by decide) (by decide),
    hcleared (by decide) (by decide) (by decide), ?_,
    flagged_and_self_ne_zero_iff (by decide) _ h⟩
  rw [offsetF, flagged_and_of_disjoint (by decide)]
  exact flagged_and_self_ne_zero_iff (by decide) _ c

theorem toNat_signExtend16 (e : Byte) :
    (e.signExtend 16 : Word).toNat = if e.toNat < 128 then e.toNat else e.toNat + 0xFF00 := by
  revert e
  decide

theorem toNat_and_lowWord (w : Word) : (w &&& Cpu.lowWordMask).toNat = w.toNat :=
  congrArg BitVec.toNat (BitVec.and_allOnes (x := w))

/-- The carry that both bodies look for. -/
def wordCarry (SP : Word) (e : Byte) : Bool :=
  65535 < SP.toNat + (e.signExtend 16 : Word).toNat

/-- `add_SP_e` as a sum and a value for the flag register.  The half-carry is looked for in the
sum, in which it has already been made. -/
theorem addSPE_eq (r : Registers) (e : Byte) :
    Cpu.addSPE r e = { r with
      SP := r.SP + e.signExtend 16
      F := offsetF r.F (wordCarry r.SP e)
        (15 < (r.SP + e.signExtend 16).toNat % 16 + r.SP.toNat % 16) } := by
  simp only [Cpu.addSPE, writeFlag_eq, Cpu.removeFlag, toNat_and_lowWord, toNat_and_lowNibble16]
  rfl

/-- `ld_HL_SP_e` as a sum and a value for the flag register; the half-carry is the right one
here. -/
theorem ldHLSPE_eq (r : Registers) (e : Byte) :
    Cpu.ldHLSPE r e = { r.setHL (r.SP + e.signExtend 16) with
      F := offsetF r.F (wordCarry r.SP e)
        (15 < r.SP.toNat % 16 + (e.signExtend 16 : Word).toNat % 16) } := by
  -- here Z and N are cleared last
  have hcarry : flagCarry &&& (flagZero ||| flagNegative) = 0 := by decide
  have hhalf : flagHalfCarry &&& (flagZero ||| flagNegative) = 0 := by decide
  rw [offsetF, flagged_and_not_of_disjoint hcarry, flagged_and_not_of_disjoint hhalf]
  simp only [Cpu.ldHLSPE, writeFlag_eq, Cpu.removeFlag, toNat_and_lowWord, toNat_and_lowNibble16]
  rfl

/-! ## When they agree -/

section

variable {r : Registers} {e : Byte}

theorem OffsetFlags.of_offsetF {r' : Registers} {F : Byte} {c h : Bool} {SP : Word}
    (hF : r'.F = offsetF F c h) (hc : c = true ↔ 255 < SP.toNat % 256 + e.toNat)
    (hh : h = true ↔ 15 < SP.toNat % 16 + e.toNat % 16) : OffsetFlags SP e r' := by
  obtain ⟨hzero, hnegative, hcarry, hhalf⟩ := offsetF_spec F c h
  rw [← hF] at hzero hnegative hcarry hhalf
  exact ⟨not_not.2 hzero, not_not.2 hnegative, hcarry.trans hc, hhalf.trans hh⟩

theorem wordCarry_iff (SP : Word) (e : Byte) :
    (wordCarry SP e = true ↔ 255 < SP.toNat % 256 + e.toNat) ↔ SameWordCarry SP e := by
  have hSP := SP.isLt
  have he := e.isLt
  rw [wordCarry, decide_eq_true_iff, toNat_signExtend16, SameWordCarry]
  split <;> omega

theorem nibbleCarry_iff (SP : Word) (e : Byte) :
    (15 < (SP + e.signExtend 16).toNat % 16 + SP.toNat % 16 ↔
      15 < SP.toNat % 16 + e.toNat % 16) ↔ SameNibbleCarry SP e := by
  have hsum : (SP + e.signExtend 16).toNat % 16 = (SP.toNat + e.toNat) % 16 := by
    rw [BitVec.toNat_add, toNat_signExtend16]
    split <;> omega
  rw [hsum, SameNibbleCarry]
  omega

/-- The lowest nibble of the offset is that of the byte. -/
theorem nibble_signExtend16 (e : Byte) : (e.signExtend 16 : Word).toNat % 16 = e.toNat % 16 := by
  rw [toNat_signExtend16]
  split <;> omega

/-- The sum is right, with its sign. -/
theorem toNat_add_signExtend16 (SP : Word) (e : Byte) :
    ((SP + e.signExtend 16).toNat : ℤ) = (SP.toNat + e.toInt) % 65536 := by
  have hint : e.toInt = if e.toNat < 128 then (e.toNat : ℤ) else e.toNat - 256 := by
    rw [BitVec.toInt_eq_toNat_cond]
    split <;> split <;> omega
  rw [hint, BitVec.toNat_add, toNat_signExtend16]
  split <;> omega

/-- 0x0008 + 8: the two bodies do not agree on the half-carry. -/
theorem addSPE_half_carry :
    ¬OffsetsAgree { Machine.powerOn.registers with SP := 0x0008 } 0x08 := by
  intro h
  exact absurd h.flags (by decide)

/-- **When ADD SP,e and LDHL SP,e agree**, and on the right flags.  The value is right for every
SP and every offset; the two conditions are those of the carry and the half-carry.  For the
half-carry one of the two adds the sum where the other adds the offset. -/
theorem offsets_iff (r : Registers) (e : Byte) :
    OffsetsAgree r e ↔ SameWordCarry r.SP e ∧ SameNibbleCarry r.SP e := by
  have hadd : (Cpu.addSPE r e).F = offsetF r.F (wordCarry r.SP e)
      (15 < (r.SP + e.signExtend 16).toNat % 16 + r.SP.toNat % 16) :=
    congrArg Registers.F (addSPE_eq r e)
  have hld : (Cpu.ldHLSPE r e).F = offsetF r.F (wordCarry r.SP e)
      (15 < r.SP.toNat % 16 + (e.signExtend 16 : Word).toNat % 16) :=
    congrArg Registers.F (ldHLSPE_eq r e)
  have hHL : (Cpu.ldHLSPE r e).HL = r.SP + e.signExtend 16 := by
    rw [ldHLSPE_eq]
    exact Registers.HL_setHL r _
  constructor
  · intro h
    obtain ⟨-, -, hcarry, hhalf⟩ := offsetF_spec r.F (wordCarry r.SP e)
      (15 < (r.SP + e.signExtend 16).toNat % 16 + r.SP.toNat % 16)
    rw [← hadd] at hcarry hhalf
    refine ⟨(wordCarry_iff r.SP e).1 (hcarry.symm.trans h.addSP.carry), ?_⟩
    exact (nibbleCarry_iff r.SP e).1 ((hhalf.trans decide_eq_true_iff).symm.trans h.addSP.halfCarry)
  · rintro ⟨hword, hnibble⟩
    have hcarry := (wordCarry_iff r.SP e).2 hword
    have hhalf := (nibbleCarry_iff r.SP e).2 hnibble
    refine ⟨?_, ?_, ?_, .of_offsetF hadd hcarry (decide_eq_true_iff.trans hhalf),
      .of_offsetF hld hcarry ?_⟩
    · rw [hHL, addSPE_eq]
    · rw [hHL, toNat_add_signExtend16]
    · refine hadd.trans (Eq.trans ?_ hld.symm)
      show offsetF r.F _ (decide _) = offsetF r.F _ (decide _)
      rw [decide_eq_decide.2 hhalf, nibble_signExtend16]
    · rw [decide_eq_true_iff, nibble_signExtend16]

end

end GameBloat
