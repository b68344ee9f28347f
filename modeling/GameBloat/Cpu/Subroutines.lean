import GameBloat.Cpu.Stack
import GameBloat.Library.StackMachine

/-!
# Subroutine discipline

What calls and returns are for: an abstract machine with a program counter and a stack of return
addresses (`callStack`).  `call_nn`, `rst_f`, `ret` and the two unconditional jumps, working on
memory, simulate it as long as the stack stays inside its area (`calls_step`), and so every `ret`
goes back to where its call was made.

The abstract machine is an instance of the stack machine of `GameBloat.Library.StackMachine`,
which knows about matching brackets and nothing about memory.  There it is proved that in a
well-nested sequence a closing operation restores what the matching opening one saved; here
remains to show that the code is such a machine.  The relation between the two, `Calls`, is
`OnStack` together with the program counter, so the frame comes for free: what lies outside the
stack area is untouched.

* `calls_step` is the simulation of one operation, with room in the area for what it opens and
  something on the stack for what it closes.
* `calls_run` extends it to sequences that stay within the depth.
* `subroutine_discipline` draws the conclusion for the code: `PC` and `SP` after a return are
  those with which its call was made, `SP` comes back at the end, and no cell outside the area
  changes.

The operations are the functions of `cpu.c`, with any operands and in any order, and the sequence
may be of any length.
-/

set_option autoImplicit false

namespace GameBloat

open BracketKind (WellNested Balanced)

/-- The operations of a subroutine's body: the two that call, the one that returns, and jumps,
which move `PC` without touching the stack. -/
inductive CallOp
  | callNn (nn : Word)
  | rstF (f : Byte)
  | ret
  | jpNn (nn : Word)
  | jrE (e : Byte)
  deriving DecidableEq

namespace CallOp

/-- Calls and restarts open, returns close. -/
def bracket : CallOp → BracketKind
  | callNn _ | rstF _ => .opening
  | ret => .closing
  | jpNn _ | jrE _ => .neutral

/-- The operation on the machine. -/
def exec (m : Machine) : CallOp → Machine
  | callNn nn => Cpu.callNn m nn
  | rstF f => Cpu.rstF m f
  | ret => Cpu.ret m
  | jpNn nn => m.onRegisters (Cpu.jpNn · nn)
  | jrE e => m.onRegisters (Cpu.jrE · e)

/-- A sequence of operations. -/
def run (m : Machine) (ops : List CallOp) : Machine := ops.foldl exec m

end CallOp

/-- The abstract machine: a program counter and a stack of return addresses.  A call saves the
program counter and a return restores it; nothing is said about memory.  It is an instance of the
stack machine of the library, and the refinement is what connects it to memory. -/
def callStack : StackMachine Word CallOp Word where
  kind := CallOp.bracket
  save _ pc := pc
  move op pc :=
    match op with
    | .callNn nn | .jpNn nn => nn
    | .rstF f => f.setWidth 16
    | .jrE e => pc + e.signExtend 16
    | .ret => pc
  restore _ _ pc := pc

/-- The machine stands for the abstract state `t`: the program counters agree, and the return
addresses lie on the stack in memory. -/
def Calls (m₀ : Machine) (s : Word) (d : ℕ) (m : Machine) (t : Word × List Word) : Prop :=
  m.registers.PC = t.1 ∧ OnStack m₀ s d m t.2

variable {m₀ m : Machine} {s : Word} {d : ℕ}

/-- **Each operation simulates the abstract one**, given room in the stack area. -/
theorem calls_step (harea : StackArea s (2 * d)) (m : Machine) (pc : Word) (stack : List Word)
    (op : CallOp) (h : Calls m₀ s d m (pc, stack))
    (hopen : callStack.kind op = .opening → stack.length < d)
    (hclose : callStack.kind op = .closing → stack ≠ []) :
    Calls m₀ s d (op.exec m) (callStack.step (pc, stack) op) := by
  obtain ⟨rfl, hstack⟩ := h
  cases op with
  | callNn nn =>
    rw [StackMachine.step_opening rfl, CallOp.exec, Cpu.callNn_eq]
    exact ⟨rfl, (hstack.push harea (hopen rfl) _).onRegisters rfl⟩
  | rstF f =>
    rw [StackMachine.step_opening rfl, CallOp.exec, Cpu.rstF_eq]
    exact ⟨rfl, (hstack.push harea (hopen rfl) _).onRegisters rfl⟩
  | ret =>
    obtain ⟨v, rest, rfl⟩ := List.exists_cons_of_ne_nil (hclose rfl)
    rw [StackMachine.step_closing rfl, CallOp.exec, Cpu.ret_eq]
    exact ⟨hstack.top, hstack.pop rfl⟩
  | jpNn nn =>
    rw [StackMachine.step_neutral rfl, CallOp.exec]
    exact ⟨rfl, hstack.onRegisters rfl⟩
  | jrE e =>
    rw [StackMachine.step_neutral rfl, CallOp.exec]
    exact ⟨rfl, hstack.onRegisters rfl⟩

/-- A sequence that stays within the area simulates the abstract machine. -/
theorem calls_run (m : Machine) (harea : StackArea m.registers.SP (2 * d)) {ops : List CallOp}
    {n : ℕ} (hops : BracketKind.height CallOp.bracket d 0 ops = some n) :
    Calls m m.registers.SP d (CallOp.run m ops) (callStack.run (m.registers.PC, []) ops) :=
  StackMachine.simulates (calls_step harea) hops rfl ⟨rfl, OnStack.init m d⟩

/-- **Subroutine discipline.**  In a well-nested sequence of calls, restarts, returns and jumps,
every return has a matching call and goes back to the `PC` and `SP` that call was made with; the
sequence as a whole restores `SP` and touches internal RAM only in the stack area. -/
theorem subroutine_discipline (m : Machine) (d : ℕ) (ops : List CallOp)
    (hops : WellNested CallOp.bracket d ops) (harea : StackArea m.registers.SP (2 * d)) :
    (∀ pre post, ops = pre ++ .ret :: post →
      ∃ before call body, pre = before ++ call :: body ∧ call.bracket = .opening ∧
        Balanced CallOp.bracket body ∧
        (CallOp.run m (pre ++ [.ret])).registers.PC = (CallOp.run m before).registers.PC ∧
        (CallOp.run m (pre ++ [.ret])).registers.SP = (CallOp.run m before).registers.SP) ∧
    (CallOp.run m ops).registers.SP = m.registers.SP ∧
    ∀ c : Cell, (∀ k, 1 ≤ k → k ≤ 2 * d → cellOf (m.registers.SP - BitVec.ofNat 16 k) ≠ some c) →
      (CallOp.run m ops).load c = m.load c := by
  have hend := (calls_run m harea hops).2
  rw [StackMachine.run_balanced ⟨d, hops⟩] at hend
  refine ⟨?_, hend.sp.trans (by simp), hend.frame⟩
  rintro pre post rfl
  rw [List.append_cons] at hops
  obtain ⟨_, hpre', -⟩ := BracketKind.exists_height_prefix hops
  obtain ⟨_, hpre, hret⟩ := BracketKind.exists_height_prefix hpre'
  obtain ⟨n, hn, -⟩ := BracketKind.exists_height_cons hret
  rcases BracketKind.next_eq_some hn with ⟨h, -⟩ | ⟨-, rfl⟩ | ⟨h, -⟩
  · cases h
  · obtain ⟨before, call, body, rfl, hcall, hbody, hbefore⟩ := BracketKind.exists_opening hpre
    refine ⟨before, call, body, rfl, hcall, hbody, ?_⟩
    -- both states simulate the abstract one, and there the call and its return cancel
    have hcalls := calls_run m harea hbefore
    have hrets := calls_run m harea hpre'
    obtain ⟨_, hmatch⟩ := StackMachine.run_matched (M := callStack) (r := .ret) hcall rfl hbody
      (callStack.run (m.registers.PC, []) before)
    rw [List.append_assoc, List.cons_append, StackMachine.run_append, hmatch] at hrets
    rw [List.append_assoc, List.cons_append]
    exact ⟨hrets.1.trans hcalls.1.symm, hrets.2.sp.trans hcalls.2.sp.symm⟩
  · cases h

/-- A restart inside a called routine.  The area has room for the two words that are on the stack
at the deepest point. -/
theorem subroutine_discipline_nested :
    let m := Machine.powerOn.onRegisters fun r ↦ { r with PC := 0x150, SP := 0xE000 }
    (CallOp.run m [.callNn 0x200, .jrE 5, .rstF 8, .ret, .ret]).registers.SP = 0xE000 :=
  (subroutine_discipline (Machine.powerOn.onRegisters fun r ↦ { r with PC := 0x150, SP := 0xE000 })
    2 [.callNn 0x200, .jrE 5, .rstF 8, .ret, .ret] (by decide) (by decide)).2.1

end GameBloat
