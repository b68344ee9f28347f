import GameBloat.Cpu.Step
import GameBloat.Memory.Law

/-!
# Byte operands

The processor numbers its byte operands `B, C, D, E, H, L, (HL), A`, and the regular parts of the
two opcode tables are made of these numbers: bits 0 to 2 of an opcode name one, and bits 3 to 5 a
second, an operation or a bit.  An `Operand` stands for the register or the byte in memory, so
that what the source writes out once for each can be said once for all.

The frame of an instruction on an operand is `Operand.Updated`: the machine afterwards is the
machine before with one assignment, and this is spelled out field by field, so that a statement
about an instruction can be read without knowing the memory map.  For a register it always holds.
For the byte at `HL` it holds if the address is plain, that is, if a store to it is a store to
internal RAM; then reading gives back what was stored, and no address changes but those that are
the same cell.

* `Operand.get` and `Operand.put` read and assign; `Operand.updated` is the frame.
* `flagged` is a flag register with some bits written.  All of the functions of `cpu.c` build
  their flags by such writes, and the lemmas about it commute, absorb and read them, so that no
  proof computes with masks.
* `get_of_take_drop` goes from a stretch of an opcode table to its entries, for the modules that
  compare a part of a table with a formula.
-/

set_option autoImplicit false

namespace GameBloat

/-! ## Operands -/

/-- A byte operand: a register, or the byte in memory at `HL`. -/
inductive Operand
  | reg (ptr : Reg8)
  | mHL
  deriving DecidableEq

/-- The value of an operand. -/
def Operand.get (x : Operand) (m : Machine) : Byte :=
  match x with
  | .reg ptr => m.registers.get8 ptr
  | .mHL => mmuReadByte m m.registers.HL

/-- Assignment to an operand. -/
def Operand.put (x : Operand) (m : Machine) (value : Byte) : Machine :=
  match x with
  | .reg ptr => m.onRegisters (·.set8 ptr value)
  | .mHL => storeByte m m.registers.HL value

/-- The numbering of the operands. -/
def operands : Vector Operand 8 :=
  #v[.reg .B, .reg .C, .reg .D, .reg .E, .reg .H, .reg .L, .mHL, .reg .A]

/-- Bits 0 to 2 of an opcode. -/
def lowField (op : Byte) : Fin 8 := (op.extractLsb' 0 3).toFin

/-- Bits 3 to 5 of an opcode. -/
def middleField (op : Byte) : Fin 8 := (op.extractLsb' 3 3).toFin

/-- The operand that bits 0 to 2 of an opcode name. -/
def operandOf (op : Byte) : Operand := operands.get (lowField op)

theorem toNat_middleField (op : Byte) : (middleField op).val = op.toNat / 8 % 8 := by
  refine (BitVec.extractLsb'_toNat ..).trans ?_
  rw [Nat.shiftRight_eq_div_pow]

@[simp] theorem get8_set8_self (r : Registers) (ptr : Reg8) (value : Byte) :
    (r.set8 ptr value).get8 ptr = value := by cases ptr <;> rfl

theorem get8_set8_of_ne (r : Registers) {ptr ptr' : Reg8} (h : ptr' ≠ ptr) (value : Byte) :
    (r.set8 ptr value).get8 ptr' = r.get8 ptr' := by
  cases ptr <;> cases ptr' <;> first | rfl | exact absurd rfl h

@[simp] theorem set8_F (r : Registers) (ptr : Reg8) (value : Byte) :
    (r.set8 ptr value).F = r.F := by cases ptr <;> rfl

@[simp] theorem set8_SP (r : Registers) (ptr : Reg8) (value : Byte) :
    (r.set8 ptr value).SP = r.SP := by cases ptr <;> rfl

@[simp] theorem set8_PC (r : Registers) (ptr : Reg8) (value : Byte) :
    (r.set8 ptr value).PC = r.PC := by cases ptr <;> rfl

@[simp] theorem get8_with_F (r : Registers) (F : Byte) (ptr : Reg8) :
    { r with F }.get8 ptr = r.get8 ptr := by cases ptr <;> rfl

/-- Assignment to an operand changes no register but the operand. -/
theorem Operand.put_registers (x : Operand) (m : Machine) (value : Byte) :
    (x.put m value).registers.F = m.registers.F ∧ (x.put m value).registers.SP = m.registers.SP ∧
      (x.put m value).registers.PC = m.registers.PC ∧
      ∀ ptr, x ≠ .reg ptr → (x.put m value).registers.get8 ptr = m.registers.get8 ptr := by
  cases x with
  | reg target =>
    refine ⟨set8_F _ _ _, set8_SP _ _ _, set8_PC _ _ _, fun ptr hptr ↦ ?_⟩
    exact get8_set8_of_ne _ (fun h ↦ hptr (congrArg reg h.symm)) value
  | mHL =>
    rw [put, storeByte_registers]
    exact ⟨rfl, rfl, rfl, fun _ _ ↦ rfl⟩

/-- **What an instruction on an operand leaves behind**: `m'` is `m` with `value` in the operand
and `F` in the flags, and no other register and no other byte of memory is different.  The first
field determines `m'`; the others follow from it and are what a reader wants to know. -/
structure Operand.Updated (x : Operand) (m m' : Machine) (value F : Byte) : Prop where
  machine : m' = (x.put m value).onRegisters fun r ↦ { r with F }
  value : x.get m' = value
  flags : m'.registers.F = F
  pointers : m'.registers.SP = m.registers.SP ∧ m'.registers.PC = m.registers.PC
  others : ∀ ptr, x ≠ .reg ptr → m'.registers.get8 ptr = m.registers.get8 ptr
  memory : ∀ a, (x = .mHL → ¬Alias m.registers.HL a) → mmuReadByte m' a = mmuReadByte m a

/-- With `HL` in internal RAM, assigning an operand and the flags does nothing else. -/
theorem Operand.updated (x : Operand) {m : Machine} (hHL : Plain m.registers.HL) (value F : Byte) :
    x.Updated m ((x.put m value).onRegisters fun r ↦ { r with F }) value F := by
  obtain ⟨-, hSP, hPC, hother⟩ := x.put_registers m value
  refine ⟨rfl, ?_, rfl, ⟨hSP, hPC⟩, fun ptr hptr ↦ (get8_with_F _ F ptr).trans (hother ptr hptr),
    fun a ha ↦ ?_⟩
  · cases x with
    | reg ptr => exact (get8_with_F _ F ptr).trans (get8_set8_self _ _ _)
    | mHL =>
      show mmuReadByte (storeByte m m.registers.HL value)
        (storeByte m m.registers.HL value).registers.HL = value
      rw [storeByte_registers]
      exact mmuReadByte_storeByte_of_alias m value hHL (.inl rfl)
  · cases x with
    | reg ptr => rfl
    | mHL => exact mmuReadByte_storeByte_of_not_alias m value hHL (ha rfl)

/-- An instruction on another operand than `H` and `L` keeps the address in `HL`. -/
theorem Operand.Updated.HL {x : Operand} {m m' : Machine} {value F : Byte}
    (h : x.Updated m m' value F) (hH : x ≠ .reg .H) (hL : x ≠ .reg .L) :
    m'.registers.HL = m.registers.HL :=
  congrArg₂ (· ++ ·) (h.others .H hH) (h.others .L hL)

/-! ## Flags -/

/-- `F` with some of its bits set or cleared.  It is `writeFlag` on the flag register alone, with
the test as a Boolean. -/
def flagged (F flag : Byte) (c : Bool) : Byte := if c then F ||| flag else F &&& ~~~flag

theorem writeFlag_eq (r : Registers) (flag : Byte) (c : Prop) [Decidable c] :
    Cpu.writeFlag r flag c = { r with F := flagged r.F flag (decide c) } := by
  by_cases h : c
  · rw [Cpu.writeFlag, if_pos h, decide_eq_true h]; rfl
  · rw [Cpu.writeFlag, if_neg h, decide_eq_false h]; rfl

theorem getElem_flagged (F flag : Byte) (c : Bool) {i : ℕ} (hi : i < 8) :
    (flagged F flag c)[i] = if flag[i] then c else F[i] := by
  cases c with
  | true => simp [flagged, Bool.or_comm]
  | false => cases h : flag[i] <;> simp [flagged, h]

/-- A flag reads back as it was set or cleared. -/
theorem flagged_and_self_ne_zero_iff {flag : Byte} (h : flag ≠ 0) (F : Byte) (c : Bool) :
    flagged F flag c &&& flag ≠ 0 ↔ c = true := by
  have hself : flagged F flag c &&& flag = if c then flag else 0 := by
    refine BitVec.eq_of_getElem_eq fun i hi ↦ ?_
    rw [BitVec.getElem_and, getElem_flagged F flag c hi]
    cases hflag : flag[i] <;> cases c <;> simp [hflag]
  rw [hself]
  cases c with
  | true => exact iff_of_true h rfl
  | false => exact iff_of_false (fun h ↦ h rfl) Bool.noConfusion

/-- The other bits of the flags stay as they are. -/
theorem flagged_and_of_disjoint {flag mask : Byte} (h : flag &&& mask = 0) (F : Byte) (c : Bool) :
    flagged F flag c &&& mask = F &&& mask := by
  refine BitVec.eq_of_getElem_eq fun i hi ↦ ?_
  have hbit : (flag &&& mask)[i] = (0 : Byte)[i] := by rw [h]
  rw [BitVec.getElem_and] at hbit
  rw [BitVec.getElem_and, BitVec.getElem_and, getElem_flagged F flag c hi]
  cases hflag : flag[i] <;> simp_all

/-- What a flag was before it is set or cleared makes no difference. -/
theorem flagged_and_not_self (F flag : Byte) (c : Bool) :
    flagged (F &&& ~~~flag) flag c = flagged F flag c := by
  refine BitVec.eq_of_getElem_eq fun i hi ↦ ?_
  rw [getElem_flagged _ flag c hi, getElem_flagged F flag c hi]
  cases hflag : flag[i] <;> simp [hflag]

/-- Two flags are set or cleared in either order. -/
theorem flagged_and_not_of_disjoint {flag other : Byte} (h : flag &&& other = 0) (F : Byte)
    (c : Bool) : flagged (F &&& ~~~other) flag c = flagged F flag c &&& ~~~other := by
  refine BitVec.eq_of_getElem_eq fun i hi ↦ ?_
  have hbit : (flag &&& other)[i] = (0 : Byte)[i] := by rw [h]
  rw [BitVec.getElem_and] at hbit
  rw [BitVec.getElem_and, getElem_flagged _ flag c hi, getElem_flagged F flag c hi]
  cases hflag : flag[i] <;> simp_all

/-! ## Tables -/

/-- A stretch of an opcode table that a formula gives.  The hypothesis is an equation of closed
lists, checked once; the conclusion is for each opcode of the stretch. -/
theorem get_of_take_drop {table : Vector Opcode 256} {start count : ℕ} {f : Byte → Opcode}
    (h : (table.toList.drop start).take count =
      (List.range' start count).map fun op ↦ f (BitVec.ofNat 8 op))
    {op : Byte} (hlo : start ≤ op.toNat) (hhi : op.toNat < start + count) :
    table.get op.toFin = f op := by
  have hlt : op.toNat - start < count := by omega
  have hentry := congrArg (·[op.toNat - start]?) h
  simp only [List.getElem?_take_of_lt hlt, List.getElem?_drop, List.getElem?_map,
    List.getElem?_range' hlt, Option.map_some, Nat.one_mul, Nat.add_sub_cancel' hlo,
    BitVec.ofNat_toNat, BitVec.setWidth_eq] at hentry
  have hget : table.toList[op.toNat]? = some (table.get op.toFin) := by
    rw [List.getElem?_eq_getElem (by simpa using op.isLt)]
    rfl
  exact Option.some.inj (hget.symm.trans hentry)

end GameBloat
