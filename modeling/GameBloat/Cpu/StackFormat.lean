import GameBloat.Cpu.PushPop
import GameBloat.Cpu.Step

/-!
# Two stack formats

`push_ss` stores the low byte of a word at the higher address, and `call_nn`, `rst_f` and `ret`
have it at the lower one; `pop_dd` reads only the byte at the higher address.  Each family is
consistent in itself, but used together they work by accident only: a word that has been pushed is
a target for `RET` if its two bytes are equal, and a return address can be popped if it is 0.

Programs do mix the two.  Pushing an address and returning to it is the usual way to jump through
a table, and popping a return address is how a routine finds the data behind its call.  The
statement is about the instructions of the table, with the register pairs by their numbers in the
opcode, so that `AF` is among them.

Both accidents are exact, and follow from the rewriting of `GameBloat.Cpu.Stack`: a pushed word
lies on the stack with its bytes exchanged, and the word that `pop_dd` makes of what lies there is
its high byte with a zero above.

* `ret_push_PC` and `pop_call_get16` say what arrives.
* `swapBytes_eq_iff` and `setWidth_highByte_eq_iff` say when that is what was sent.
* `stackFormat_iff` is the law, for every pair, and for calls and restarts to everywhere.
-/

set_option autoImplicit false

namespace GameBloat

open BaseOpcode (baseOpcodeTable)

/-! ## The instructions -/

/-- The register pairs in the order of their numbers in `PUSH` and `POP`. -/
def stackPairs : Vector Reg16 4 := #v[.BC, .DE, .HL, .AF]

/-- `PUSH qq`, `qq` given by its number. -/
def executePush (m : Machine) (q : Fin 4) : Machine :=
  executeOpcode m (baseOpcodeTable.get (0xC5 + 16 * BitVec.ofNat 8 q).toFin) 0

/-- `POP qq`. -/
def executePop (m : Machine) (q : Fin 4) : Machine :=
  executeOpcode m (baseOpcodeTable.get (0xC1 + 16 * BitVec.ofNat 8 q).toFin) 0

/-- The instructions that push a return address. -/
inductive Caller
  | call (nn : Word)
  | rst (f : Fin 8)
  deriving DecidableEq

/-- `CALL nn` or `RST f`. -/
def Caller.execute (m : Machine) : Caller → Machine
  | call nn => executeOpcode m (baseOpcodeTable.get 0xCD) nn
  | rst f => executeOpcode m (baseOpcodeTable.get (0xC7 + 8 * BitVec.ofNat 8 f).toFin) 0

/-- `RET`. -/
def executeRet (m : Machine) : Machine := executeOpcode m (baseOpcodeTable.get 0xC9) 0

theorem executePush_eq (m : Machine) (q : Fin 4) :
    executePush m q = Cpu.pushSs m (m.registers.get16 (stackPairs.get q)) := by
  match q with
  | 0 | 1 | 2 | 3 => rfl

theorem executePop_eq (m : Machine) (q : Fin 4) :
    executePop m q = Cpu.popDd m (stackPairs.get q) := by
  match q with
  | 0 | 1 | 2 | 3 => rfl

/-- Calls and restarts push `PC` and go elsewhere; where to does not matter for what lies on the
stack. -/
theorem Caller.execute_eq (m : Machine) (c : Caller) :
    ∃ target, c.execute m =
      (pushWord m m.registers.PC).onRegisters fun r ↦ { r with PC := target } := by
  cases c with
  | call nn => exact ⟨nn, Cpu.callNn_eq m nn⟩
  | rst f =>
    have hentry : ∃ b, executeOpcode m
        (baseOpcodeTable.get (0xC7 + 8 * BitVec.ofNat 8 f).toFin) 0 = Cpu.rstF m b := by
      match f with
      | 0 | 1 | 2 | 3 | 4 | 5 | 6 | 7 => exact ⟨_, rfl⟩
    obtain ⟨b, hb⟩ := hentry
    exact ⟨b.setWidth 16, hb.trans (Cpu.rstF_eq m b)⟩

/-! ## What comes back -/

/-- A register pair that has been loaded holds the value; for `AF` too, since nothing masks its
low byte. -/
theorem get16_set16_stackPairs (r : Registers) (q : Fin 4) (w : Word) :
    (r.set16 (stackPairs.get q) w).get16 (stackPairs.get q) = w := by
  match q with
  | 0 => exact r.BC_setBC w
  | 1 => exact r.DE_setDE w
  | 2 => exact r.HL_setHL w
  | 3 => exact r.AF_setAF w

theorem swapBytes_eq_iff {w : Word} : swapBytes w = w ↔ lowByte w = highByte w := by
  constructor
  · intro h
    have hlow := congrArg lowByte h
    rw [swapBytes, lowByte_append] at hlow
    exact hlow.symm
  · intro h
    have hw := highByte_append_lowByte w
    rw [h] at hw
    rw [swapBytes, h]
    exact hw

theorem setWidth_highByte_eq_iff {w : Word} : (highByte w).setWidth 16 = w ↔ w = 0 := by
  have hhigh : ∀ b : Byte, highByte (b.setWidth 16) = 0 := by decide
  constructor
  · intro h
    have hzero := hhigh (highByte w)
    rw [h] at hzero
    rw [← h, hzero]
    rfl
  · rintro rfl
    rfl

section

variable {m : Machine} (h : StackArea m.registers.SP 2)

include h

/-- With room for it, a pushed word is what lies on top of the stack. -/
theorem mmuReadShort_pushWord (w : Word) :
    mmuReadShort (pushWord m w) (pushWord m w).registers.SP = w :=
  ((OnStack.init m 1).push h (by decide) w).top

/-- A pushed word is read back by `RET` with its bytes exchanged. -/
theorem ret_push_PC (q : Fin 4) :
    (executeRet (executePush m q)).registers.PC =
      swapBytes (m.registers.get16 (stackPairs.get q)) := by
  have hplain := (OnStack.init m 1).plain h (by decide)
  rw [executePush_eq, Cpu.pushSs_eq m _ hplain.1 hplain.2]
  show (Cpu.ret (pushWord m _)).registers.PC = _
  rw [Cpu.ret_eq]
  exact mmuReadShort_pushWord h _

/-- Of a return address `POP` gets the high byte, as a low one. -/
theorem pop_call_get16 (c : Caller) (q : Fin 4) :
    (executePop (c.execute m) q).registers.get16 (stackPairs.get q) =
      (highByte m.registers.PC).setWidth 16 := by
  obtain ⟨target, hcall⟩ := c.execute_eq m
  have htop : mmuReadShort (c.execute m) (c.execute m).registers.SP = m.registers.PC := by
    rw [hcall]
    exact mmuReadShort_pushWord h _
  rw [executePop_eq, Cpu.popDd_eq, htop]
  exact get16_set16_stackPairs _ q _

end

/-! ## The two formats -/

/-- `RET` after `PUSH qq` goes to the value of `qq`. -/
def PushesTarget (m : Machine) (q : Fin 4) : Prop :=
  (executeRet (executePush m q)).registers.PC = m.registers.get16 (stackPairs.get q)

/-- `POP qq` after a call loads `qq` with the return address. -/
def PopsReturn (m : Machine) (c : Caller) (q : Fin 4) : Prop :=
  (executePop (c.execute m) q).registers.get16 (stackPairs.get q) = m.registers.PC

/-- A target pushed for `RET` arrives with its bytes exchanged, and of a return address `POP` sees
the high byte alone. -/
theorem formats_differ :
    let m := Machine.powerOn.onRegisters fun r ↦ { r with B := 0x12, C := 0x34, SP := 0xD000 }
    let m' := Machine.powerOn.onRegisters fun r ↦ { r with PC := 0x0150, SP := 0xD000 }
    StackArea (m.registers.SP + 2) 4 ∧ ¬PushesTarget m 0 ∧
      StackArea (m'.registers.SP + 2) 4 ∧ ¬PopsReturn m' (.call 0x4000) 1 := by
  refine ⟨by decide, fun h ↦ ?_, by decide, fun h ↦ ?_⟩
  · rw [PushesTarget, ret_push_PC (by decide)] at h
    exact absurd h (by decide)
  · rw [PopsReturn, pop_call_get16 (by decide)] at h
    exact absurd h (by decide)

/-- **When there is one stack format.**  `RET` goes to a value that has been pushed exactly when
its two bytes are equal, and `POP` loads a return address exactly when it is 0.  The area is that
of the two bytes stored, with the two above them: `SP` must not be at its edge. -/
theorem stackFormat_iff (m : Machine) (h : StackArea (m.registers.SP + 2) 4) :
    (∀ q, PushesTarget m q ↔
      lowByte (m.registers.get16 (stackPairs.get q)) =
        highByte (m.registers.get16 (stackPairs.get q))) ∧
    ∀ c q, PopsReturn m c q ↔ m.registers.PC = 0 := by
  have harea : StackArea m.registers.SP 2 := by
    rw [stackArea_iff] at h ⊢
    bv_omega
  refine ⟨fun q ↦ ?_, fun c q ↦ ?_⟩
  · rw [PushesTarget, ret_push_PC harea, swapBytes_eq_iff]
  · rw [PopsReturn, pop_call_get16 harea, setWidth_highByte_eq_iff]

/-- A target with equal bytes. -/
theorem stackFormat_iff_1212 :
    PushesTarget
      (Machine.powerOn.onRegisters fun r ↦ { r with B := 0x12, C := 0x12, SP := 0xD000 }) 0 :=
  ((stackFormat_iff
    (Machine.powerOn.onRegisters fun r ↦ { r with B := 0x12, C := 0x12, SP := 0xD000 })
    (by decide)).1 0).2 rfl

end GameBloat
