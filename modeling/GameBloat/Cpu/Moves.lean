import GameBloat.Cpu.Step
import GameBloat.Interrupt.Step
import Mathlib.Data.List.Forall2

/-!
# What an instruction can do

Every instruction, and every interrupt, is a sequence of small moves: it rewrites the register
file, stores a byte through the memory map, charges ticks, or touches the interrupt registers or
the stop flag.  `Charges f s` says that of a function of `cpu.c`, together with the surcharge `s`
it may add to the ticks of its opcode; `cpuStep_moves` collects the two opcode tables and says it
of `cpuStep`.  What the moves keep, `cpuStep` and `interruptStep` keep.

This is the lemma that says once what a step of the CPU can do.  Invariants of the GPU, of the
cartridge and of memory are then proved for one store, and `CpuMoves.preserves` carries them over
512 entries of two tables; no proof outside this module has to go through the opcodes for them.
The moves are coarse on purpose.  They say nothing of which registers are written or what is
stored where; a proof that depends on this uses `GameBloat.Cpu.Calls` instead.

The ticks are counted along, because they are what the GPU gets to hear about.

* `Fits o t` relates an opcode to its entry in the tick table: both it and the surcharge are
  multiples of 4, and together they are at most 24.
* `baseOpcodeTable_fits` and `cbOpcodeTable_fits` say it of the tables, with one rule for each way
  an entry is written.
* `ticksUsed_eq` is the arithmetic of `cpuStep`, which subtracts an `int` from an `unsigned long`:
  the narrowing cancels, so the ticks reported are those charged however long the machine has run.
* `cpuStep_moves` puts them together.
* `handleInterrupt_moves` says the same of serving an interrupt, which charges 20 ticks that
  `cpuStep` does not report.
-/

set_option autoImplicit false

namespace GameBloat

/-- One move, and the ticks it charges.  A move may rewrite the whole register file or all
interrupt registers; what it cannot do is to reach the GPU, the cartridge or memory other than by
a store. -/
inductive CpuMove : Machine → ℕ → Machine → Prop
  | registers (m : Machine) (f : Registers → Registers) : CpuMove m 0 (m.onRegisters f)
  | write (m : Machine) (address : Word) (value : Byte) : CpuMove m 0 (storeByte m address value)
  | ticks (m : Machine) (n : ℕ) : CpuMove m n (Cpu.addTicks m n)
  | interrupts (m : Machine) (interruptRegisters : InterruptRegisters) :
      CpuMove m 0 { m with interruptRegisters }
  | stop (m : Machine) (stopped : Byte) : CpuMove m 0 { m with stopped }

/-- Any number of moves, and the ticks they charge together. -/
inductive CpuMoves (m : Machine) : ℕ → Machine → Prop
  | refl : CpuMoves m 0 m
  | tail {t n : ℕ} {m' m'' : Machine} (h : CpuMoves m t m') (h' : CpuMove m' n m'') :
      CpuMoves m (t + n) m''

namespace CpuMoves

variable {m m' m'' : Machine} {t t' : ℕ}

theorem single (h : CpuMove m t m') : CpuMoves m t m' := by
  have := CpuMoves.refl.tail h
  rwa [Nat.zero_add] at this

theorem trans (h : CpuMoves m t m') (h' : CpuMoves m' t' m'') : CpuMoves m (t + t') m'' := by
  induction h' with
  | refl => exact h
  | tail _ h' ih => exact Nat.add_assoc t _ _ ▸ ih.tail h'

/-- What every move keeps, a sequence of moves keeps: the induction that every invariant under
`cpuStep` goes through. -/
theorem preserves {P : Machine → Prop} (hP : ∀ m n m', CpuMove m n m' → P m → P m')
    (h : CpuMoves m t m') (hm : P m) : P m' := by
  induction h with
  | refl => exact hm
  | tail _ h' ih => exact hP _ _ _ h' ih

/-- The tick counter counts the ticks charged.  It is 64 bits wide and may wrap around, so this is
an equation between bit vectors. -/
theorem tickCounter (h : CpuMoves m t m') :
    m'.tickCounter = m.tickCounter + BitVec.ofNat 64 t := by
  induction h with
  | refl => simp
  | tail _ h' ih =>
    cases h' with
    | registers f => exact ih
    | write address value => rw [storeByte_tickCounter]; exact ih
    | ticks n => rw [Cpu.addTicks, ih, BitVec.ofNat_add, BitVec.add_assoc]
    | interrupts => exact ih
    | stop => exact ih

end CpuMoves

/-! ## The functions of cpu.c -/

/-- `f` is a sequence of moves that charges nothing or the surcharge `s`.  For a conditional
transfer both happen, and which of them depends on the flags. -/
def Charges (f : Machine → Machine) (s : ℕ) : Prop :=
  ∀ m, CpuMoves m 0 (f m) ∨ CpuMoves m s (f m)

namespace Charges

variable {f : Machine → Machine}

/-- Nothing but the register file. -/
theorem registers (h : ∀ m, ∃ g, f m = m.onRegisters g) : Charges f 0 := by
  intro m
  obtain ⟨g, hg⟩ := h m
  exact .inl (hg ▸ .single (.registers m g))

/-- A branch that is taken under some condition, with its surcharge. -/
theorem branch (h : ∀ m, CpuMoves m 0 (f m)) (c : Machine → Prop) [DecidablePred c] (s : ℕ) :
    Charges (fun m ↦ if c m then Cpu.addTicks (f m) s else m) s := by
  intro m
  by_cases hc : c m
  · right
    simp only [hc, if_true]
    have := (h m).tail (.ticks _ s)
    rwa [Nat.zero_add] at this
  · left
    simp only [hc, if_false]
    exact .refl

end Charges

namespace CpuMoves

variable (m : Machine)

theorem write (address : Word) (value : Byte) : CpuMoves m 0 (storeByte m address value) :=
  .single (.write m address value)

theorem writeRegisters (address : Word) (value : Byte) (f : Registers → Registers) :
    CpuMoves m 0 ((storeByte m address value).onRegisters f) :=
  (write m address value).tail (.registers _ f)

theorem registersWriteRegisters (f g : Registers → Registers) (address : Word) (value : Byte) :
    CpuMoves m 0 ((storeByte (m.onRegisters f) address value).onRegisters g) :=
  (single (.registers m f)).trans (writeRegisters _ address value g)

theorem mmuWriteShort (address value : Word) : CpuMoves m 0 (mmuWriteShort m address value).1 :=
  (write m address _).trans (write _ (address + 1) _)

theorem ldASs (memLocation : Word) : CpuMoves m 0 (Cpu.ldASs m memLocation) :=
  .single (.registers m _)

theorem lddMHLA : CpuMoves m 0 (Cpu.lddMHLA m) := by
  rw [Cpu.lddMHLA]
  exact writeRegisters m _ _ _

theorem ldiMHLA : CpuMoves m 0 (Cpu.ldiMHLA m) := by
  rw [Cpu.ldiMHLA]
  exact writeRegisters m _ _ _

theorem lddAMHL : CpuMoves m 0 (Cpu.lddAMHL m) := by
  rw [Cpu.lddAMHL, Machine.onRegisters_onRegisters]
  exact .single (.registers m _)

theorem ldiAMHL : CpuMoves m 0 (Cpu.ldiAMHL m) := by
  rw [Cpu.ldiAMHL, Machine.onRegisters_onRegisters]
  exact .single (.registers m _)

theorem pushSs (ss : Word) : CpuMoves m 0 (Cpu.pushSs m ss) :=
  (registersWriteRegisters m _ _ _ _).trans (write _ _ _)

theorem popDd (ptrDD : Reg16) : CpuMoves m 0 (Cpu.popDd m ptrDD) := by
  simp only [Cpu.popDd, Machine.onRegisters_onRegisters]
  exact .single (.registers m _)

theorem incSHL : CpuMoves m 0 (Cpu.incSHL m) := by
  simp only [Cpu.incSHL, Machine.onRegisters_onRegisters]
  exact registersWriteRegisters m _ _ _ _

theorem decSHL : CpuMoves m 0 (Cpu.decSHL m) := by
  simp only [Cpu.decSHL, Machine.onRegisters_onRegisters]
  exact registersWriteRegisters m _ _ _ _

theorem swapSHL : CpuMoves m 0 (Cpu.swapSHL m) := by
  rw [Cpu.swapSHL]
  exact registersWriteRegisters m _ _ _ _

theorem shiftSHL (carry : Byte → Bool) (move : Registers → Byte → Byte) :
    CpuMoves m 0 (Cpu.shiftSHL carry move m) := by
  simp only [Cpu.shiftSHL, Machine.onRegisters_onRegisters]
  exact registersWriteRegisters m _ _ _ _

theorem bitBSHL (bitPosition : ℕ) : CpuMoves m 0 (Cpu.bitBSHL m bitPosition) := by
  simp only [Cpu.bitBSHL, Machine.onRegisters_onRegisters]
  exact .single (.registers m _)

theorem halt : CpuMoves m 0 (Cpu.halt m) := by
  rw [Cpu.halt]
  split
  · exact .refl
  · exact .single (.registers m _)

theorem callNn (nn : Word) : CpuMoves m 0 (Cpu.callNn m nn) := by
  rw [Cpu.callNn]
  exact (write m _ _).trans (writeRegisters _ _ _ _)

theorem rstF (f : Byte) : CpuMoves m 0 (Cpu.rstF m f) := by
  rw [Cpu.rstF]
  exact (write m _ _).trans (writeRegisters _ _ _ _)

theorem ret : CpuMoves m 0 (Cpu.ret m) := by
  simp only [Cpu.ret, Machine.onRegisters_onRegisters]
  exact .single (.registers m _)

theorem reti : CpuMoves m 0 (Cpu.reti m) := (ret m).tail (.interrupts _ _)

end CpuMoves

/-! ## The opcode tables -/

/-- The opcode charges nothing or the surcharge `s`, whatever its operand. -/
def Opcode.Charges : Opcode → ℕ → Prop
  | .noOperands f, s => GameBloat.Charges f s
  | .operandChar f, s => ∀ n, GameBloat.Charges (f · n) s
  | .operandShort f, s => ∀ nn, GameBloat.Charges (f · nn) s

/-- An opcode and its entry in the tick table go together: with or without the surcharge, the
instruction takes a multiple of 4 ticks and at most 24.  Both are properties of numbers in a
table, and are decided entry by entry. -/
def Fits (o : Opcode) (t : ℕ) : Prop := ∃ s, o.Charges s ∧ 4 ∣ t ∧ 4 ∣ s ∧ t + s ≤ 24

namespace Fits

section

variable {f : Machine → Machine} {g : Machine → Byte → Machine} {k : Machine → Word → Machine}
  {t : ℕ} (ht : 4 ∣ t ∧ t ≤ 24)

include ht

theorem registers (h : ∀ m, ∃ r, f m = m.onRegisters r) : Fits (.noOperands f) t :=
  ⟨0, .registers h, ht.1, by decide, ht.2⟩

theorem registersChar (h : ∀ m n, ∃ r, g m n = m.onRegisters r) : Fits (.operandChar g) t :=
  ⟨0, fun n ↦ .registers fun m ↦ h m n, ht.1, by decide, ht.2⟩

theorem registersShort (h : ∀ m nn, ∃ r, k m nn = m.onRegisters r) : Fits (.operandShort k) t :=
  ⟨0, fun nn ↦ .registers fun m ↦ h m nn, ht.1, by decide, ht.2⟩

theorem moves (h : ∀ m, CpuMoves m 0 (f m)) : Fits (.noOperands f) t :=
  ⟨0, fun m ↦ .inl (h m), ht.1, by decide, ht.2⟩

theorem movesChar (h : ∀ m n, CpuMoves m 0 (g m n)) : Fits (.operandChar g) t :=
  ⟨0, fun n m ↦ .inl (h m n), ht.1, by decide, ht.2⟩

theorem movesShort (h : ∀ m nn, CpuMoves m 0 (k m nn)) : Fits (.operandShort k) t :=
  ⟨0, fun nn m ↦ .inl (h m nn), ht.1, by decide, ht.2⟩

end

/-! The four conditional instructions, with the ticks of their opcodes. -/

variable (flag condition : Byte)

/-- The four conditional instructions are the only entries with a surcharge; the ticks are those
of the branch not taken, which the tick table has. -/
theorem jrCcE : Fits (.operandChar (Cpu.jrCcE · · flag condition)) 8 :=
  ⟨4, fun e ↦ .branch (fun m ↦ .single (.registers m (Cpu.jrE · e))) _ 4, by decide, by decide,
    by decide⟩

theorem jpCcNn : Fits (.operandShort (Cpu.jpCcNn · · flag condition)) 12 :=
  ⟨4, fun nn ↦ .branch (fun m ↦ .single (.registers m (Cpu.jpNn · nn))) _ 4, by decide, by decide,
    by decide⟩

theorem callCcNn : Fits (.operandShort (Cpu.callCcNn · · flag condition)) 12 :=
  ⟨12, fun nn ↦ .branch (fun m ↦ .callNn m nn) _ 12, by decide, by decide, by decide⟩

theorem retCc : Fits (.noOperands (Cpu.retCc · flag condition)) 8 :=
  ⟨12, .branch (fun m ↦ .ret m) _ 12, by decide, by decide, by decide⟩

end Fits

open BaseOpcode (baseOpcodeTable baseOpcodeTicks)
open CBOpcode (cbOpcodeTable cbOpcodeTicks)

-- the walk along a table recognises each entry by the function of `cpu.c` it calls, so the
-- functions below it stay closed
seal storeByte mmuReadByte mmuWriteByte Cpu.checkFlag in
set_option maxRecDepth 4000 in
/-- Every entry of the base table fits its ticks.  The two tables are compared entry by entry, so
an entry that is in the wrong place in one of them would be noticed. -/
theorem baseOpcodeTable_fits :
    List.Forall₂ Fits baseOpcodeTable.toList baseOpcodeTicks.toList := by
  rw [baseOpcodeTable, baseOpcodeTicks, Vector.toList_mk, Vector.toList_mk]
  repeat (refine List.Forall₂.cons ?_ ?_; swap)
  · exact .nil
  all_goals first
    | exact .registers (by decide) fun _ ↦ ⟨_, rfl⟩
    | exact .registersChar (by decide) fun _ _ ↦ ⟨_, rfl⟩
    | exact .registersShort (by decide) fun _ _ ↦ ⟨_, rfl⟩
    | exact .moves (by decide) fun _ ↦ .refl
    | exact .moves (by decide) fun m ↦ .write m _ _
    | exact .moves (by decide) fun m ↦ .pushSs m _
    | exact .moves (by decide) fun m ↦ .popDd m _
    | exact .moves (by decide) fun m ↦ .rstF m _
    | exact .retCc _ _
    | exact .jrCcE _ _
    | exact .jpCcNn _ _
    | exact .callCcNn _ _
    | exact .moves (by decide) .incSHL
    | exact .moves (by decide) .decSHL
    | exact .moves (by decide) .lddAMHL
    | exact .moves (by decide) .ldiAMHL
    | exact .moves (by decide) .lddMHLA
    | exact .moves (by decide) .ldiMHLA
    | exact .moves (by decide) .halt
    | exact .moves (by decide) .ret
    | exact .moves (by decide) .reti
    | exact .moves (by decide) fun m ↦ .ldASs m _
    | exact .moves (by decide) fun m ↦ .single (.interrupts m _)
    | exact .moves (by decide) fun m ↦ .single (.stop m _)
    | exact .movesChar (by decide) fun _ _ ↦ .refl
    | exact .movesChar (by decide) fun m _ ↦ .write m _ _
    | exact .movesChar (by decide) fun m _ ↦ .ldASs m _
    | exact .movesShort (by decide) fun m _ ↦ .write m _ _
    | exact .movesShort (by decide) fun m _ ↦ .ldASs m _
    | exact .movesShort (by decide) fun m _ ↦ .mmuWriteShort m _ _
    | exact .movesShort (by decide) .callNn

seal storeByte mmuReadByte mmuWriteByte Cpu.shiftSHL in
set_option maxRecDepth 4000 in
/-- Every entry of the CB table fits its ticks. -/
theorem cbOpcodeTable_fits :
    List.Forall₂ Fits cbOpcodeTable.toList cbOpcodeTicks.toList := by
  rw [cbOpcodeTable, cbOpcodeTicks, Vector.toList_mk, Vector.toList_mk]
  repeat (refine List.Forall₂.cons ?_ ?_; swap)
  · exact .nil
  all_goals first
    | exact .registers (by decide) fun _ ↦ ⟨_, rfl⟩
    | exact .moves (by decide) fun m ↦ .shiftSHL m _ _
    | exact .moves (by decide) .swapSHL
    | exact .moves (by decide) fun m ↦ .bitBSHL m _
    | exact .moves (by decide) fun m ↦ .write m _ _

/-- The same, opcode byte by opcode byte. -/
theorem fits_get {table : Vector Opcode 256} {ticks : Vector ℕ 256}
    (h : List.Forall₂ Fits table.toList ticks.toList) (i : Fin 256) :
    Fits (table.get i) (ticks.get i) := by
  have := h.get (i := i) (by simp) (by simp)
  simpa [Vector.get] using this

/-! ## cpuStep and interruptStep -/

/-- An opcode that fits its ticks leaves the machine a legal number of ticks later. -/
theorem Fits.executeOpcode {o : Opcode} {t : ℕ} (h : Fits o t) (m : Machine) (operand : Word) :
    ∃ s, CpuMoves m s (executeOpcode m o operand) ∧ 4 ∣ t + s ∧ t + s ≤ 24 := by
  obtain ⟨s, ho, ht, hs, hts⟩ := h
  have : CpuMoves m 0 (GameBloat.executeOpcode m o operand) ∨
      CpuMoves m s (GameBloat.executeOpcode m o operand) := by
    cases o with
    | noOperands f => exact ho m
    | operandChar f => exact ho _ m
    | operandShort f => exact ho _ m
  rcases this with h | h
  · exact ⟨0, h, ht, by omega⟩
  · exact ⟨s, h, Nat.dvd_add ht hs, hts⟩

/-- What `determineOpcode` fetches fits the ticks it has charged. -/
theorem determineOpcode_fits (m : Machine) :
    ∃ t, Fits (determineOpcode m).1 t ∧ CpuMoves m t (determineOpcode m).2 := by
  have next (m : Machine) : CpuMoves m 0 m.incPC := .single (.registers m _)
  have charge (m : Machine) (n : ℕ) : CpuMoves m n (Cpu.addTicks m n) := .single (.ticks m n)
  rw [determineOpcode]
  split
  · refine ⟨_, fits_get cbOpcodeTable_fits _, ?_⟩
    have := ((next m).trans (next _)).trans (charge m.incPC.incPC
      (cbOpcodeTicks.get (mmuReadByte m.incPC m.incPC.registers.PC).toFin))
    rwa [Nat.zero_add] at this
  · refine ⟨_, fits_get baseOpcodeTable_fits _, ?_⟩
    have := (next m).trans (charge m.incPC
      (baseOpcodeTicks.get (mmuReadByte m m.registers.PC).toFin))
    rwa [Nat.zero_add] at this

/-- The narrowed start value cancels: the difference is right modulo 2³².  `tickStart` is an `int`
and gets its sign back when it is subtracted from the 64-bit counter, so the upper half of the
difference is wrong when bit 31 is set, but it is narrowed once more. -/
theorem ticksUsed_eq (tickCounter : BitVec 64) (t : ℕ) :
    (tickCounter + BitVec.ofNat 64 t - (tickCounter.setWidth 32).signExtend 64).setWidth 32 =
      BitVec.ofNat 32 t := by
  have hle : (32 : ℕ) ≤ 64 := by decide
  have hsign : ((tickCounter.setWidth 32).signExtend 64).setWidth 32 =
      tickCounter.setWidth 32 := by
    apply BitVec.eq_of_getLsbD_eq
    intro i hi
    simp [BitVec.getLsbD_signExtend, hi]
    omega
  rw [BitVec.sub_eq_add_neg, BitVec.setWidth_add _ _ hle, BitVec.setWidth_add _ _ hle,
    BitVec.setWidth_neg_of_le hle, hsign, BitVec.setWidth_ofNat_of_le hle]
  bv_omega

/-- **One instruction** is a sequence of moves that charges a multiple of 4 ticks, at most 24, and
`cpuStep` reports exactly these. -/
theorem cpuStep_moves (m : Machine) :
    ∃ t, 4 ∣ t ∧ t ≤ 24 ∧ CpuMoves m t (cpuStep m).1 ∧ (cpuStep m).2 = BitVec.ofNat 32 t := by
  obtain ⟨t, hfits, hfetch⟩ := determineOpcode_fits m
  have hdecode (m : Machine) (o : Opcode) : CpuMoves m 0 (determineOperand m o).2 := by
    simp only [determineOperand]
    exact .single (.registers m _)
  obtain ⟨s, hexecute, hdvd, hle⟩ := hfits.executeOpcode
    (determineOperand (determineOpcode m).2 (determineOpcode m).1).2
    (determineOperand (determineOpcode m).2 (determineOpcode m).1).1
  have h : CpuMoves m (t + s) (cpuStep m).1 := by
    have := (hfetch.trans (hdecode _ _)).trans hexecute
    rwa [Nat.add_zero] at this
  refine ⟨t + s, hdvd, hle, h, ?_⟩
  have hticks : (cpuStep m).2 =
      ((cpuStep m).1.tickCounter - (m.tickCounter.setWidth 32).signExtend 64).setWidth 32 := rfl
  rw [hticks, h.tickCounter, ticksUsed_eq]

/-- Serving an interrupt charges 20 ticks, which nobody reports: `interruptStep` returns nothing,
and the next `cpuStep` counts from its own start. -/
theorem handleInterrupt_moves (m : Machine) (inInterrupt : Byte) (address : Word) :
    CpuMoves m 20 (handleInterrupt m inInterrupt address) := by
  have := ((CpuMoves.callNn m (inInterrupt.setWidth 16)).tail
    (.interrupts _ { (Cpu.callNn m (inInterrupt.setWidth 16)).interruptRegisters with
      request := (Cpu.callNn m (inInterrupt.setWidth 16)).interruptRegisters.request &&&
        ~~~inInterrupt })).tail (.ticks _ 20)
  rwa [Nat.zero_add] at this

/-- `serveInterrupt` is a sequence of moves. -/
theorem serveInterrupt_moves (m : Machine) (flags : Byte) :
    ∃ t, CpuMoves m t (serveInterrupt m flags) := by
  rw [serveInterrupt]
  repeat' split
  case isFalse.isFalse.isTrue =>
    -- the timer branch moves `PC` and clears its bit before the call
    have hpc := CpuMove.registers m fun r ↦ { r with PC := timerOverflowIntr }
    have hclear := CpuMove.interrupts (m.onRegisters fun r ↦ { r with PC := timerOverflowIntr })
      { m.interruptRegisters with
        request := m.interruptRegisters.request &&& ~~~timerInterrupt }
    exact ⟨_, ((CpuMoves.single hpc).tail hclear).trans (handleInterrupt_moves _ _ _)⟩
  all_goals first
    | exact ⟨20, handleInterrupt_moves m _ _⟩
    | exact ⟨0, .refl⟩

/-- `interruptStep` is a sequence of moves. -/
theorem interruptStep_moves (m : Machine) : ∃ t, CpuMoves m t (interruptStep m) := by
  simp only [interruptStep]
  split
  · split
    · obtain ⟨t, h⟩ := serveInterrupt_moves { m with interruptRegisters.masterEnable := 0 }
        (m.interruptRegisters.enable &&& m.interruptRegisters.request)
      exact ⟨_, (CpuMoves.single (.interrupts m _)).trans h⟩
    · exact ⟨0, .refl⟩
  · exact ⟨0, .refl⟩

end GameBloat
