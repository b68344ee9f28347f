import GameBloat.Memory.Law
import GameBloat.Programs.Code

/-!
# A block-copy routine

The usual loop that copies `BC` bytes from `HL` to `DE`, run from ROM by `cpuStep` from its first
instruction to the one behind it.  Everything the routine changes is in three fields of the
machine (`Machine.copying`); `copy_round` follows one round through its seven instructions, and
the loop rule does the rest, with `Copying` as its invariant.

The routine is a test of the whole processor model: it fetches from the cartridge through the
memory map, reads and writes work RAM by three different instructions, counts in a register pair,
and branches on a flag that an `OR` has left.  What is proved is total: the number of instructions
and of ticks is exact, the loop ends for every count from 1 to 65535, and nothing else has
changed.

* `copy_step` is one instruction of the routine that has no operand, with its place in the code,
  its entry in the table and its ticks as hypotheses; the six instructions of the body are six
  uses of it, chained by transitivity.
* `copy_jump` is the jump, with the two outcomes and their ticks.
* `CopiedBytes` says what work RAM is after `i` bytes.  That the next byte read is still the
  original one is where the ranges must not overlap (`CopiedBytes.succ`).
* `Copying.rounds` is the induction on the number of bytes, by the loop rule.

Work RAM is the only range considered, so that every store is one to a cell and every load reads
it back; the echo of work RAM shows the copied bytes too, and is not mentioned.
-/

set_option autoImplicit false

namespace GameBloat

open Function (update)
open BaseOpcode (baseOpcodeTable baseOpcodeTicks)

/-- `LDI A,(HL); LD (DE),A; INC DE; DEC BC; LD A,B; OR C; JR NZ` back to the start. -/
def blockCopy : List Byte := [0x2A, 0x12, 0x13, 0x0B, 0x78, 0xB1, 0x20, 0xF8]

/-- The machine while it copies: other registers, another work RAM, another time.  That nothing
else changes is then part of the form of the state. -/
def Machine.copying (m : Machine) (registers : Registers) (wRAM : ℕ → Byte)
    (tickCounter : BitVec 64) : Machine := { m with registers, wRAM, tickCounter }

/-- `registers.PC++`. -/
def Registers.incPC (r : Registers) : Registers := { r with PC := r.PC + 1 }

/-! ## Work RAM -/

/-- An address of work RAM. -/
def InWRAM (a : Word) : Prop := 0xC000 ≤ a.toNat ∧ a.toNat < 0xE000

theorem InWRAM.cellOf {a : Word} (h : InWRAM a) :
    ∃ hi, cellOf a = some ⟨.wRAM, a.toNat - 0xC000, hi⟩ := ⟨_, dif_pos h⟩

theorem mmuReadByte_copying {a : Word} (h : InWRAM a) (m : Machine) (r : Registers)
    (wRAM : ℕ → Byte) (tc : BitVec 64) :
    mmuReadByte (m.copying r wRAM tc) a = wRAM (a.toNat - 0xC000) := by
  obtain ⟨hi, hc⟩ := h.cellOf
  rw [mmuReadByte_of_cell hc]
  rfl

theorem storeByte_copying {a : Word} (h : InWRAM a) (m : Machine) (r : Registers)
    (wRAM : ℕ → Byte) (tc : BitVec 64) (value : Byte) :
    storeByte (m.copying r wRAM tc) a value =
      m.copying r (update wRAM (a.toNat - 0xC000) value) tc := by
  obtain ⟨hi, hc⟩ := h.cellOf
  rw [storeByte_of_cell hc]
  rfl

/-! ## One instruction of the routine -/

/-- Copying does not overwrite the routine. -/
theorem CodeAt.copying {m : Machine} {L : Word} (h : CodeAt m L blockCopy)
    (hL : L.toNat + 8 ≤ 0x4000) {r : Registers} {w : ℕ → Byte} {tc : BitVec 64} :
    CodeAt (m.copying r w tc) L blockCopy := h.congr ⟨rfl, rfl, rfl, rfl⟩ hL

/-- The routine is over. -/
def CopyDone (L : Word) (m : Machine) : Prop := m.registers.PC = L + 8

section

variable {m : Machine} {L : Word} {r r' : Registers} {w w' : ℕ → Byte} {tc : BitVec 64}

/-- One instruction without an operand. -/
theorem copy_step (hcode : CodeAt m L blockCopy) (hL : L.toNat + 8 ≤ 0x4000) {opcode : Byte}
    {f : Machine → Machine} {t i : ℕ} (hi : i < 8) (hpc : r.PC = L + BitVec.ofNat 16 i)
    (hopcode : blockCopy.get ⟨i, hi⟩ = opcode) (hcb : opcode ≠ 0xCB)
    (hentry : baseOpcodeTable.get opcode.toFin = .noOperands f)
    (hticks : baseOpcodeTicks.get opcode.toFin = t) (ht : t ≤ 24)
    (hf : f (m.copying r.incPC w (tc + BitVec.ofNat 64 t)) =
      m.copying r' w' (tc + BitVec.ofNat 64 t)) :
    cpuMachine.Reaches (CopyDone L) (m.copying r w tc) (m.copying r' w' (tc + BitVec.ofNat 64 t))
      1 t := by
  have hstop : ¬CopyDone L (m.copying r w tc) := by
    show ¬r.PC = L + 8
    rw [hpc]
    bv_omega
  have hread : mmuReadByte (m.copying r w tc) r.PC = opcode := by
    rw [hpc, hcode.copying hL i hi, hopcode]
  have hstep : (cpuStep (m.copying r w tc)).1 = m.copying r' w' (tc + BitVec.ofNat 64 t) :=
    (cpuStep_noOperands hread hcb hentry hticks).trans hf
  exact .single hstop hstep (cpuStep_toInt ht (hstep ▸ rfl))

end

/-! ## One round -/

theorem or_eq_zero_iff_BC (r : Registers) : r.B ||| r.C = 0 ↔ r.BC = 0 := by
  rw [BitVec.ofNat_eq_ofNat, BitVec.or_eq_zero_iff]
  constructor
  · rintro ⟨hB, hC⟩
    rw [Registers.BC, hB, hC]
    rfl
  · intro h
    have hB := highByte_append r.B r.C
    have hC := lowByte_append r.B r.C
    rw [show r.B ++ r.C = (0 : Word) from h] at hB hC
    exact ⟨hB.symm, hC.symm⟩

/-- `or_s` leaves the zero flag behind. -/
theorem orS_eq (r : Registers) (s : Byte) :
    ∃ F, Cpu.orS r s = { r with A := r.A ||| s, F } ∧
      Cpu.checkFlag (Cpu.orS r s) Cpu.flagZero = if r.A ||| s = 0 then 1 else 0 := by
  obtain ⟨F, hF⟩ := exists_writeFlag
    ({ Cpu.removeFlag r (Cpu.flagNegative ||| Cpu.flagHalfCarry ||| Cpu.flagCarry) with
      A := r.A ||| s }) Cpu.flagZero (r.A ||| s = 0)
  exact ⟨F, hF, checkFlag_writeFlag_zero _ _⟩

section

variable {m : Machine} {L : Word} {r : Registers} (w : ℕ → Byte) (tc : BitVec 64)

/-- The six instructions before the jump: a byte is copied, both pointers are moved on, the
counter is decremented, and the zero flag says whether it has run out. -/
theorem copy_body (hcode : CodeAt m L blockCopy) (hL : L.toNat + 8 ≤ 0x4000) (hpc : r.PC = L)
    (hHL : InWRAM r.HL) (hDE : InWRAM r.DE) :
    ∃ r', r'.PC = L + 6 ∧ r'.HL = r.HL + 1 ∧ r'.DE = r.DE + 1 ∧ r'.BC = r.BC - 1 ∧
      Cpu.checkFlag r' Cpu.flagZero = (if r.BC - 1 = 0 then 1 else 0) ∧
      cpuMachine.Reaches (CopyDone L) (m.copying r w tc)
        (m.copying r' (update w (r.DE.toNat - 0xC000) (w (r.HL.toNat - 0xC000)))
          (tc + 8 + 8 + 8 + 8 + 4 + 4)) 6 40 := by
  let value := w (r.HL.toNat - 0xC000)
  let w' := update w (r.DE.toNat - 0xC000) value
  let r₁ := (r.incPC.set8 .A value).setHL (r.HL + 1)
  let r₂ := r₁.incPC
  let r₃ := r₂.incPC.setDE (r.DE + 1)
  let r₄ := r₃.incPC.setBC (r.BC - 1)
  let r₅ := r₄.incPC.set8 .A r₄.incPC.B
  let r₆ := Cpu.orS r₅.incPC r₅.incPC.C
  have next {r : Registers} {i : ℕ} (h : r.PC = L + BitVec.ofNat 16 i) :
      r.incPC.PC = L + BitVec.ofNat 16 (i + 1) := by
    rw [Registers.incPC, h, BitVec.ofNat_add, BitVec.add_assoc]
    rfl
  have hpc₀ : r.PC = L + BitVec.ofNat 16 0 := hpc.trans (BitVec.add_zero L).symm
  have hpc₁ : r₁.PC = L + BitVec.ofNat 16 1 := next hpc₀
  have hpc₂ : r₂.PC = L + BitVec.ofNat 16 2 := next hpc₁
  have hpc₃ : r₃.PC = L + BitVec.ofNat 16 3 := next hpc₂
  have hpc₄ : r₄.PC = L + BitVec.ofNat 16 4 := next hpc₃
  have hpc₅ : r₅.PC = L + BitVec.ofNat 16 5 := next hpc₄
  have hldi : Cpu.ldiAMHL (m.copying r.incPC w (tc + 8)) = m.copying r₁ w (tc + 8) :=
    congrArg (fun value ↦ m.copying ((r.incPC.set8 .A value).setHL (r.HL + 1)) w (tc + 8))
      (mmuReadByte_copying hHL m r.incPC w (tc + 8))
  have h₁ : cpuMachine.Reaches (CopyDone L) (m.copying r w tc) (m.copying r₁ w (tc + 8)) 1 8 :=
    copy_step (t := 8) hcode hL (i := 0) (by decide) hpc₀ rfl (by decide) rfl rfl (by decide) hldi
  have h₂ : cpuMachine.Reaches (CopyDone L) (m.copying r₁ w (tc + 8))
      (m.copying r₂ w' (tc + 8 + 8)) 1 8 :=
    copy_step (t := 8) hcode hL (i := 1) (by decide) hpc₁ rfl (by decide) rfl rfl (by decide)
      (storeByte_copying hDE m r₂ w (tc + 8 + 8) value)
  have h₃ : cpuMachine.Reaches (CopyDone L) (m.copying r₂ w' (tc + 8 + 8))
      (m.copying r₃ w' (tc + 8 + 8 + 8)) 1 8 :=
    copy_step (t := 8) hcode hL (i := 2) (by decide) hpc₂ rfl (by decide) rfl rfl (by decide) rfl
  have h₄ : cpuMachine.Reaches (CopyDone L) (m.copying r₃ w' (tc + 8 + 8 + 8))
      (m.copying r₄ w' (tc + 8 + 8 + 8 + 8)) 1 8 :=
    copy_step (t := 8) hcode hL (i := 3) (by decide) hpc₃ rfl (by decide) rfl rfl (by decide) rfl
  have h₅ : cpuMachine.Reaches (CopyDone L) (m.copying r₄ w' (tc + 8 + 8 + 8 + 8))
      (m.copying r₅ w' (tc + 8 + 8 + 8 + 8 + 4)) 1 4 :=
    copy_step (t := 4) hcode hL (i := 4) (by decide) hpc₄ rfl (by decide) rfl rfl (by decide) rfl
  have h₆ : cpuMachine.Reaches (CopyDone L) (m.copying r₅ w' (tc + 8 + 8 + 8 + 8 + 4))
      (m.copying r₆ w' (tc + 8 + 8 + 8 + 8 + 4 + 4)) 1 4 :=
    copy_step (t := 4) hcode hL (i := 5) (by decide) hpc₅ rfl (by decide) rfl rfl (by decide) rfl
  obtain ⟨F, hor, hflag⟩ := orS_eq r₅.incPC r₅.incPC.C
  have hBC : r₅.BC = r.BC - 1 := Registers.BC_setBC r₃.incPC _
  refine ⟨r₆, ?_, ?_, ?_, ?_, ?_, h₁.trans (h₂.trans (h₃.trans (h₄.trans (h₅.trans h₆))))⟩
  · exact (congrArg Registers.PC hor).trans (next hpc₅)
  · exact (congrArg Registers.HL hor).trans (Registers.HL_setHL (r.incPC.set8 .A value) _)
  · exact (congrArg Registers.DE hor).trans (Registers.DE_setDE r₂.incPC _)
  · exact (congrArg Registers.BC hor).trans hBC
  · rw [← hBC]
    exact hflag.trans (if_congr (or_eq_zero_iff_BC r₅) rfl rfl)

/-- The jump: back to the start until the zero flag is set. -/
theorem copy_jump (hcode : CodeAt m L blockCopy) (hL : L.toNat + 8 ≤ 0x4000)
    (hpc : r.PC = L + 6) {c : Prop} [Decidable c]
    (hflag : Cpu.checkFlag r Cpu.flagZero = if c then 1 else 0) :
    ∃ tc', cpuMachine.Reaches (CopyDone L) (m.copying r w tc)
      (m.copying { r with PC := if c then L + 8 else L } w tc') 1 (if c then 8 else 12) := by
  have hstop : ¬CopyDone L (m.copying r w tc) := by
    show ¬r.PC = L + 8
    rw [hpc]
    bv_omega
  have hread {a : Word} {i : ℕ} (hi : i < 8) (ha : a = L + BitVec.ofNat 16 i) :
      mmuReadByte (m.copying r w tc) a = blockCopy.get ⟨i, hi⟩ := ha ▸ hcode.copying hL i hi
  have hoperand : r.PC + 1 = L + 7 := by rw [hpc]; bv_omega
  have hstep := cpuStep_jrNZN (m := m.copying r w tc) (hread (i := 6) (by decide) hpc)
    (hread (i := 7) (by decide) hoperand) hflag
  have htarget : (if c then r.PC + 2 else r.PC + 2 + (0xF8 : Byte).signExtend 16) =
      if c then L + 8 else L := by
    rw [hpc, show (0xF8 : Byte).signExtend 16 = (0xFFF8 : Word) by decide]
    split <;> bv_omega
  have hstep : (cpuStep (m.copying r w tc)).1 = m.copying
      { r with PC := if c then L + 8 else L } w (tc + BitVec.ofNat 64 (if c then 8 else 12)) := by
    rw [hstep, ← htarget]
    rfl
  have hticks := cpuStep_toInt (m := m.copying r w tc) (t := if c then 8 else 12)
    (by split <;> decide) (hstep ▸ rfl)
  refine ⟨_, .single hstop hstep (hticks.trans ?_)⟩
  split <;> rfl

/-- **One round** copies a byte, and is the last one when the counter runs out. -/
theorem copy_round (hcode : CodeAt m L blockCopy) (hL : L.toNat + 8 ≤ 0x4000) (hpc : r.PC = L)
    (hHL : InWRAM r.HL) (hDE : InWRAM r.DE) :
    ∃ r' tc', r'.PC = (if r.BC - 1 = 0 then L + 8 else L) ∧ r'.HL = r.HL + 1 ∧
      r'.DE = r.DE + 1 ∧ r'.BC = r.BC - 1 ∧
      cpuMachine.Reaches (CopyDone L) (m.copying r w tc)
        (m.copying r' (update w (r.DE.toNat - 0xC000) (w (r.HL.toNat - 0xC000))) tc') 7
        (if r.BC - 1 = 0 then 48 else 52) := by
  obtain ⟨r', hpc', hHL', hDE', hBC', hflag, hbody⟩ := copy_body w tc hcode hL hpc hHL hDE
  obtain ⟨tc', hjump⟩ := copy_jump _ _ hcode hL hpc' hflag
  have hrun := hbody.trans hjump
  have hcost : (40 : ℤ) + (if r.BC - 1 = 0 then 8 else 12) = if r.BC - 1 = 0 then 48 else 52 := by
    split <;> rfl
  rw [hcost] at hrun
  exact ⟨{ r' with PC := if r.BC - 1 = 0 then L + 8 else L }, tc', rfl, hHL', hDE', hBC', hrun⟩

end

/-! ## The whole routine -/

/-- `w` is `w₀` with `i` bytes copied from `src` to `dst`. -/
def CopiedBytes (w₀ w : ℕ → Byte) (src dst i : ℕ) : Prop :=
  ∀ j, w j = if dst ≤ j ∧ j < dst + i then w₀ (src + (j - dst)) else w₀ j

theorem CopiedBytes.refl (w₀ : ℕ → Byte) (src dst : ℕ) : CopiedBytes w₀ w₀ src dst 0 :=
  fun j ↦ (if_neg (by omega)).symm

/-- The next byte is still the original one, since the ranges do not overlap. -/
theorem CopiedBytes.succ {w₀ w : ℕ → Byte} {src dst i n : ℕ} (h : CopiedBytes w₀ w src dst i)
    (hi : i < n) (hdisjoint : src + n ≤ dst ∨ dst + n ≤ src) :
    CopiedBytes w₀ (update w (dst + i) (w (src + i))) src dst (i + 1) := by
  intro j
  have hsource : w (src + i) = w₀ (src + i) := (h _).trans (if_neg (by omega))
  by_cases hj : j = dst + i
  · rw [hj, Function.update_self, hsource, if_pos (by omega), Nat.add_sub_cancel_left]
  · rw [Function.update_of_ne hj, h j]
    by_cases hold : dst ≤ j ∧ j < dst + i
    · rw [if_pos hold, if_pos (by omega)]
    · rw [if_neg hold, if_neg (by omega)]

/-- The loop invariant: `i` bytes have been copied, and `left` bytes are left.  The pointers and
the counter are determined by these two numbers.  At the top of the loop it holds for some number
of bytes, and a round brings it to the next. -/
structure Copying (m : Machine) (src dst : Word) (PC : Word) (i left : ℕ) (s : Machine) :
    Prop where
  form : s = m.copying s.registers s.wRAM s.tickCounter
  pc : s.registers.PC = PC
  hl : s.registers.HL = src + BitVec.ofNat 16 i
  de : s.registers.DE = dst + BitVec.ofNat 16 i
  bc : s.registers.BC = BitVec.ofNat 16 left
  bytes : CopiedBytes m.wRAM s.wRAM (src.toNat - 0xC000) (dst.toNat - 0xC000) i

section

variable {m : Machine} {L src dst : Word} {n : ℕ} (hcode : CodeAt m L blockCopy)
  (hL : L.toNat + 8 ≤ 0x4000) (hsrc : 0xC000 ≤ src.toNat ∧ src.toNat + n ≤ 0xE000)
  (hdst : 0xC000 ≤ dst.toNat ∧ dst.toNat + n ≤ 0xE000)
  (hdisjoint : src.toNat + n ≤ dst.toNat ∨ dst.toNat + n ≤ src.toNat)

include hcode hL hsrc hdst hdisjoint

/-- One round takes the invariant from `i` to `i + 1`, and leaves the loop if nothing is left. -/
theorem Copying.round {i left : ℕ} (hn : i + (left + 1) = n) {s : Machine}
    (hs : Copying m src dst L i (left + 1) s) :
    ∃ s', cpuMachine.Reaches (CopyDone L) s s' 7 (if left = 0 then 48 else 52) ∧
      Copying m src dst (if left = 0 then L + 8 else L) (i + 1) left s' := by
  have hHL : s.registers.HL.toNat = src.toNat + i := by rw [hs.hl]; bv_omega
  have hDE : s.registers.DE.toNat = dst.toNat + i := by rw [hs.de]; bv_omega
  have hBC : s.registers.BC - 1 = BitVec.ofNat 16 left := by rw [hs.bc]; bv_omega
  have hlast : s.registers.BC - 1 = 0 ↔ left = 0 := by rw [hBC]; bv_omega
  obtain ⟨r', tc', hpc', hHL', hDE', hBC', hrun⟩ := copy_round s.wRAM s.tickCounter
    hcode hL hs.pc (by rw [InWRAM, hHL]; omega) (by rw [InWRAM, hDE]; omega)
  rw [← hs.form, if_congr hlast rfl rfl] at hrun
  refine ⟨_, hrun, rfl, hpc'.trans (if_congr hlast rfl rfl), ?_, ?_, hBC'.trans hBC, ?_⟩
  · refine hHL'.trans ?_
    rw [hs.hl, BitVec.ofNat_add, BitVec.add_assoc]
    rfl
  · refine hDE'.trans ?_
    rw [hs.de, BitVec.ofNat_add, BitVec.add_assoc]
    rfl
  · have h := hs.bytes.succ (n := n) (by omega) (by omega)
    have hsource : s.registers.HL.toNat - 0xC000 = src.toNat - 0xC000 + i := by
      rw [hHL, Nat.sub_add_comm hsrc.1]
    have htarget : s.registers.DE.toNat - 0xC000 = dst.toNat - 0xC000 + i := by
      rw [hDE, Nat.sub_add_comm hdst.1]
    rw [← hsource, ← htarget] at h
    exact h

/-- The rounds before the last, by the loop rule, and the last one, which is 4 ticks shorter since
its jump is not taken. -/
theorem Copying.rounds (hn : 1 ≤ n) (hs : Copying m src dst L 0 n m) :
    ∃ s', cpuMachine.Reaches (CopyDone L) m s' (7 * n) (52 * n - 4) ∧
      Copying m src dst (L + 8) n 0 s' := by
  have hbody (k : ℕ) (s : Machine)
      (h : k + 1 < n ∧ Copying m src dst L (n - (k + 2)) (k + 2) s) :
      ∃ s', cpuMachine.Reaches (CopyDone L) s s' 7 52 ∧
        k < n ∧ Copying m src dst L (n - (k + 1)) (k + 1) s' := by
    obtain ⟨s', hrun, hs'⟩ := h.2.round hcode hL hsrc hdst hdisjoint (by omega)
    rw [if_neg (by omega)] at hrun hs'
    have hi : n - (k + 2) + 1 = n - (k + 1) := by omega
    exact ⟨s', hrun, by omega, hi ▸ hs'⟩
  have hstart : n - 1 < n ∧ Copying m src dst L (n - (n - 1 + 1)) (n - 1 + 1) m := by
    have hi : n - (n - 1 + 1) = 0 := by omega
    have hleft : n - 1 + 1 = n := by omega
    rw [hi, hleft]
    exact ⟨by omega, hs⟩
  obtain ⟨s, hrounds, hlt, hs'⟩ := TimedMachine.Reaches.loop
    (I := fun k s ↦ k < n ∧ Copying m src dst L (n - (k + 1)) (k + 1) s) hbody (n - 1) hstart
  obtain ⟨s', hlast, hs''⟩ := hs'.round hcode hL hsrc hdst hdisjoint (by omega)
  have hrun := hrounds.trans hlast
  have hk : (n - 1) * 7 + 7 = 7 * n := by omega
  have ht : ((n - 1 : ℕ) : ℤ) * 52 + 48 = 52 * n - 4 := by omega
  have hi : n - (0 + 1) + 1 = n := by omega
  rw [if_pos rfl, hk, ht] at hrun
  rw [if_pos rfl, hi] at hs''
  exact ⟨s', hrun, hs''⟩

end

/-- **The block-copy routine.**  From ROM bank 0, with `n` bytes to copy between two ranges of work
RAM that do not overlap, it is done after `7 * n` instructions and `52 * n - 4` ticks, and not
before; the bytes have been copied and nothing else in memory has changed. -/
theorem blockCopy_correct {m : Machine} {c : Controller} {L src dst : Word} {n : ℕ}
    (hc : m.controller = some c) (himpl : c = .mbcNone ∨ c = .mbc1 ∨ c = .mbc3)
    (hL : L.toNat + 7 ≤ 0x3FFF)
    (hrom : ∀ i (h : i < blockCopy.length),
      m.cartridge.rom (L.toNat + i) = blockCopy.get ⟨i, h⟩)
    (hn : 1 ≤ n) (hsrc : 0xC000 ≤ src.toNat ∧ src.toNat + n ≤ 0xE000)
    (hdst : 0xC000 ≤ dst.toNat ∧ dst.toNat + n ≤ 0xE000)
    (hdisjoint : src.toNat + n ≤ dst.toNat ∨ dst.toNat + n ≤ src.toNat)
    (hPC : m.registers.PC = L) (hHL : m.registers.HL = src) (hDE : m.registers.DE = dst)
    (hBC : m.registers.BC = BitVec.ofNat 16 n) :
    let m' := cpuMachine.run (7 * n) m
    m'.registers.PC = L + 8 ∧ (∀ k < 7 * n, (cpuMachine.run k m).registers.PC ≠ L + 8) ∧
      (∀ i < n, m'.wRAM (dst.toNat - 0xC000 + i) = m.wRAM (src.toNat - 0xC000 + i)) ∧
      (∀ j, j < dst.toNat - 0xC000 ∨ dst.toNat - 0xC000 + n ≤ j → m'.wRAM j = m.wRAM j) ∧
      (m'.OAM = m.OAM ∧ m'.hRAM = m.hRAM ∧ m'.ioPorts = m.ioPorts ∧ m'.gpu = m.gpu ∧
        m'.cartridge = m.cartridge) ∧
      m'.registers.BC = 0 ∧ m'.registers.HL = src + BitVec.ofNat 16 n ∧
      m'.registers.DE = dst + BitVec.ofNat 16 n ∧ cpuMachine.total (7 * n) m = 52 * n - 4 := by
  have hcode : CodeAt m L blockCopy := codeAt_of_rom hc himpl (by simp [blockCopy]; omega) hrom
  have hstart : Copying m src dst L 0 n m :=
    ⟨rfl, hPC, hHL.trans (BitVec.add_zero _).symm, hDE.trans (BitVec.add_zero _).symm, hBC,
      .refl _ _ _⟩
  obtain ⟨s', hrun, hs'⟩ := hstart.rounds hcode (by omega) hsrc hdst hdisjoint hn
  have hs : cpuMachine.run (7 * n) m = s' := hrun.run
  simp only [hs]
  refine ⟨hs'.pc, hrun.before, fun i hi ↦ ?_, fun j hj ↦ ?_, ?_, hs'.bc, hs'.hl, hs'.de,
    hrun.total⟩
  · rw [hs'.bytes, if_pos (by omega), Nat.add_sub_cancel_left]
  · rw [hs'.bytes, if_neg (by omega)]
  · rw [hs'.form]
    exact ⟨rfl, rfl, rfl, rfl, rfl⟩

/-- A machine about to copy two bytes, with the routine at 0x150 of a plain cartridge. -/
def aboutToCopy : Machine :=
  { Machine.powerOn with
    registers := { A := 0, F := 0, B := 0, C := 2, D := 0xC1, E := 0, H := 0xC0, L := 0, SP := 0,
                   PC := 0x150 }
    cartridge := { Machine.powerOn.cartridge with
      rom := fun i ↦ blockCopy.getD (i - 0x150) 0, mbc := true }
    MBC := some .mbcNone
    wRAM := fun i ↦ BitVec.ofNat 8 (i + 7) }

/-- Two bytes take fourteen instructions and a hundred ticks. -/
theorem blockCopy_correct_two :
    (cpuMachine.run (7 * 2) aboutToCopy).registers.PC = 0x150 + 8 ∧
      (cpuMachine.run (7 * 2) aboutToCopy).wRAM 0x101 = 8 ∧
      cpuMachine.total (7 * 2) aboutToCopy = 52 * 2 - 4 := by
  have hHL : aboutToCopy.registers.HL = 0xC000 := rfl
  have hDE : aboutToCopy.registers.DE = 0xC100 := rfl
  obtain ⟨hpc, -, hbytes, -, -, -, -, -, hticks⟩ := blockCopy_correct (c := .mbcNone) (L := 0x150)
    (n := 2) rfl (.inl rfl) (by decide) (by decide) (by decide) (by decide) (by decide) (by decide)
    rfl hHL hDE rfl
  have hsecond := hbytes 1 (by decide)
  rw [show (0xC100 : Word).toNat - 0xC000 + 1 = 0x101 by decide] at hsecond
  exact ⟨hpc, hsecond.trans (by decide), hticks⟩

end GameBloat
