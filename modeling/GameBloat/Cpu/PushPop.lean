import GameBloat.Cpu.BaseOpcodeTable
import GameBloat.Cpu.Stack
import GameBloat.Library.StackMachine
import Mathlib.Data.List.Induction

/-!
# Pushing and popping register pairs

`pop_dd` reads the two bytes `push_ss` stored, but assigns the second over the first: the register
pair gets the low byte of the value pushed, and a high byte of zero.  So the code simulates a
stack machine all right (`pairs_step`), only not the one the instructions are meant to be; it
restores what was pushed exactly when there was nothing in the high byte to lose
(`push_pop_round_trip_iff`).

The abstract machine `pairStack` is an instance of `GameBloat.Library.StackMachine` whose
`restore` loses the high byte.  That is how the defect enters the abstract level: as the meaning
of one operation, with everything else about stacks unchanged.  The simulation is then proved as
for subroutines, and what the matching push of a pop is, is again the library's business.

The condition for the round trip needs a thought.  Whether a push finds a two-byte value depends
on the sequence before it, but only in a simple way: a pair that has been popped into holds a
single byte from then on, and one that has not holds what it held at the start (`pair_run`).  So
the condition is on the initial values of those pairs that are pushed before anything is popped
into them, and it is exact.

* `pairs_step` and `pairs_run` are the simulation.
* `pair_run_pop` says what a pop gets, in terms of the matching push.
* `sp_run` says that `SP` comes back.
* `push_pop_round_trip_iff` is the result.
-/

set_option autoImplicit false

namespace GameBloat

open BracketKind (WellNested Balanced)
open Function (update)

/-- The register pairs `PUSH` and `POP` are considered over.  `AF` is left to the modules about
the flag register, since its low byte is not free. -/
inductive Pair
  | BC | DE | HL
  deriving DecidableEq

/-- The pointer `pop_dd` gets. -/
def Pair.toReg16 : Pair → Reg16
  | BC => .BC
  | DE => .DE
  | HL => .HL

/-- The contents of a register pair. -/
def Machine.pair (m : Machine) (q : Pair) : Word := m.registers.get16 q.toReg16

/-- The instructions. -/
inductive PairOp
  | push (q : Pair)
  | pop (q : Pair)
  deriving DecidableEq

namespace PairOp

/-- `PUSH` opens and `POP` closes. -/
def bracket : PairOp → BracketKind
  | push _ => .opening
  | pop _ => .closing

/-- The instruction, as the base table has it. -/
def exec (m : Machine) : PairOp → Machine
  | push .BC => BaseOpcode.pushBC m
  | push .DE => BaseOpcode.pushDE m
  | push .HL => BaseOpcode.pushHL m
  | pop .BC => BaseOpcode.popBC m
  | pop .DE => BaseOpcode.popDE m
  | pop .HL => BaseOpcode.popHL m

/-- A sequence of instructions. -/
def run (m : Machine) (ops : List PairOp) : Machine := ops.foldl exec m

theorem exec_push (m : Machine) (q : Pair) : exec m (push q) = Cpu.pushSs m (m.pair q) := by
  cases q <;> rfl

theorem exec_pop (m : Machine) (q : Pair) : exec m (pop q) = Cpu.popDd m q.toReg16 := by
  cases q <;> rfl

end PairOp

/-! ## The stack machine the code is -/

/-- The register pairs with a stack of values, where restoring a value loses its high byte.  This
is the machine the code is, and not the one it should be: `restore` would be the identity there.
It is an abstract machine all the same, to which the general lemmas about words of brackets
apply. -/
def pairStack : StackMachine (Pair → Word) PairOp Word where
  kind := PairOp.bracket
  save op r :=
    match op with
    | .push q | .pop q => r q
  move _ r := r
  restore op r v :=
    match op with
    | .push _ => r
    | .pop q => update r q ((lowByte v).setWidth 16)

/-- A pushed value as it lies in memory: `push_ss` stores its low byte at the higher address. -/
def swapBytes (w : Word) : Word := lowByte w ++ highByte w

/-- The machine stands for the abstract state `t`: the register pairs agree, and the stack lies in
memory with the bytes of every word exchanged. -/
def Pairs (m₀ : Machine) (s : Word) (d : ℕ) (m : Machine) (t : (Pair → Word) × List Word) : Prop :=
  m.pair = t.1 ∧ OnStack m₀ s d m (t.2.map swapBytes)

theorem pair_set16 (m : Machine) (q : Pair) (w : Word) (f : Registers → Registers)
    (hf : ∀ q : Pair, (f m.registers).get16 q.toReg16 = m.pair q) :
    (m.onRegisters fun r ↦ (f r).set16 q.toReg16 w).pair = update m.pair q w := by
  funext q'
  rw [Machine.pair, Machine.onRegisters_registers, Function.update_apply, ← hf q']
  cases q <;> cases q' <;> simp [Pair.toReg16, Registers.set16, Registers.get16] <;> rfl

variable {m₀ m : Machine} {s : Word} {d : ℕ}

theorem pair_pushWord (m : Machine) (w : Word) : (pushWord m w).pair = m.pair := by
  funext q
  rw [Machine.pair, pushWord, Machine.onRegisters_registers, storeByte_registers,
    storeByte_registers]
  cases q <;> rfl

/-- **Each instruction simulates the abstract one**, given room in the stack area. -/
theorem pairs_step (harea : StackArea s (2 * d)) (m : Machine) (r : Pair → Word)
    (stack : List Word) (op : PairOp) (h : Pairs m₀ s d m (r, stack))
    (hopen : pairStack.kind op = .opening → stack.length < d)
    (hclose : pairStack.kind op = .closing → stack ≠ []) :
    Pairs m₀ s d (op.exec m) (pairStack.step (r, stack) op) := by
  obtain ⟨rfl, hstack⟩ := h
  cases op with
  | push q =>
    have hd : stack.length < d := hopen rfl
    have hlen : (stack.map swapBytes).length < d := by rwa [List.length_map]
    have hp := hstack.plain harea hlen
    rw [StackMachine.step_opening rfl, PairOp.exec_push, Cpu.pushSs_eq m _ hp.1 hp.2]
    exact ⟨pair_pushWord m _, hstack.push harea hlen _⟩
  | pop q =>
    obtain ⟨v, rest, rfl⟩ := List.exists_cons_of_ne_nil (hclose rfl)
    have htop : highByte (mmuReadShort m m.registers.SP) = lowByte v := by
      rw [hstack.top, swapBytes, highByte_append]
    rw [StackMachine.step_closing rfl, PairOp.exec_pop, Cpu.popDd_eq, htop]
    refine ⟨pair_set16 m q _ _ fun q ↦ ?_, hstack.pop ?_⟩
    · cases q <;> rfl
    · cases q <;> rfl

/-- A sequence that stays within the area simulates the abstract machine. -/
theorem pairs_run (m : Machine) (harea : StackArea m.registers.SP (2 * d)) {ops : List PairOp}
    {n : ℕ} (hops : BracketKind.height PairOp.bracket d 0 ops = some n) :
    Pairs m m.registers.SP d (PairOp.run m ops) (pairStack.run (m.pair, []) ops) :=
  StackMachine.simulates (pairs_step harea) hops rfl ⟨rfl, OnStack.init m d⟩

/-- What `POP` gets is the low byte of what the matching `PUSH` stored. -/
theorem pair_run_pop (m : Machine) (harea : StackArea m.registers.SP (2 * d))
    {before body post : List PairOp} {q q' : Pair}
    (hops : WellNested PairOp.bracket d (before ++ .push q :: (body ++ .pop q' :: post)))
    (hbody : Balanced PairOp.bracket body) :
    (PairOp.run m (before ++ .push q :: (body ++ [.pop q']))).pair q' =
      (lowByte ((PairOp.run m before).pair q)).setWidth 16 := by
  obtain ⟨_, hbefore, -⟩ := BracketKind.exists_height_prefix hops
  rw [List.append_cons body, ← List.cons_append, ← List.append_assoc] at hops
  obtain ⟨_, hpop, -⟩ := BracketKind.exists_height_prefix hops
  have hpushed := pairs_run m harea hbefore
  have hpopped := pairs_run m harea hpop
  obtain ⟨y, hmatch⟩ := StackMachine.run_matched (M := pairStack) (c := .push q) (r := .pop q') rfl
    rfl hbody (pairStack.run (m.pair, []) before)
  rw [StackMachine.run_append, hmatch] at hpopped
  rw [hpopped.1, hpushed.1]
  exact Function.update_self _ _ _

/-! ## The values a push can find -/

theorem pair_exec_push (m : Machine) (q : Pair) : ((PairOp.push q).exec m).pair = m.pair := by
  funext q'
  rw [PairOp.exec_push, Machine.pair, Cpu.pushSs]
  simp only [storeByte_registers, Machine.onRegisters_registers]
  cases q' <;> rfl

theorem pair_exec_pop (m : Machine) (q : Pair) :
    ∃ b : Byte, ((PairOp.pop q).exec m).pair = update m.pair q (b.setWidth 16) := by
  rw [PairOp.exec_pop, Cpu.popDd_eq]
  exact ⟨_, pair_set16 m q _ _ fun q ↦ by cases q <;> rfl⟩

/-- A register pair that has been popped into holds a single byte, and any other pair what it held
at the start.  By induction on the sequence, from its end. -/
theorem pair_run (m : Machine) (ops : List PairOp) (q : Pair) :
    (.pop q ∈ ops → ((PairOp.run m ops).pair q).toNat < 256) ∧
      (.pop q ∉ ops → (PairOp.run m ops).pair q = m.pair q) := by
  induction ops using List.reverseRecOn with
  | nil => exact ⟨fun h ↦ absurd h (List.not_mem_nil), fun _ ↦ rfl⟩
  | append_singleton ops op ih =>
    rw [PairOp.run, List.foldl_append, ← PairOp.run, List.mem_append, List.mem_singleton]
    change (_ → ((op.exec (PairOp.run m ops)).pair q).toNat < 256) ∧
      (_ → (op.exec (PairOp.run m ops)).pair q = m.pair q)
    cases op with
    | push q' => simpa only [pair_exec_push, reduceCtorEq, or_false] using ih
    | pop q' =>
      obtain ⟨b, hb⟩ := pair_exec_pop (PairOp.run m ops) q'
      rw [hb, PairOp.pop.injEq]
      by_cases hq : q = q'
      · subst hq
        refine ⟨fun _ ↦ ?_, fun h ↦ absurd (.inr rfl) h⟩
        rw [Function.update_self, BitVec.toNat_setWidth_of_le (by omega)]
        exact b.isLt
      · simpa only [Function.update_of_ne hq, hq, or_false] using ih

theorem setWidth_lowByte_eq_iff {w : Word} : (lowByte w).setWidth 16 = w ↔ w.toNat < 256 := by
  rw [← BitVec.toNat_inj, BitVec.toNat_setWidth_of_le (by omega), toNat_lowByte]
  omega

/-! ## When the round trip works -/

/-- What the instructions are for: each `POP` loads what the matching `PUSH` stored, and `SP`
comes back to where it was.  A `POP` matches the `PUSH` before it if what lies between them is
balanced, whatever the two register pairs are. -/
def RoundTrips (m : Machine) (ops : List PairOp) : Prop :=
  (∀ before q body q' post, ops = before ++ .push q :: (body ++ .pop q' :: post) →
    Balanced PairOp.bracket body →
    (PairOp.run m (before ++ .push q :: (body ++ [.pop q']))).pair q' =
      (PairOp.run m before).pair q) ∧
  (PairOp.run m ops).registers.SP = m.registers.SP

/-- In a well-nested sequence every push is undone, so `SP` comes back to where it was. -/
theorem sp_run (m : Machine) (harea : StackArea m.registers.SP (2 * d)) {ops : List PairOp}
    (hops : WellNested PairOp.bracket d ops) :
    (PairOp.run m ops).registers.SP = m.registers.SP := by
  have hend := (pairs_run m harea hops).2
  rw [StackMachine.run_balanced ⟨d, hops⟩] at hend
  exact hend.sp.trans (by simp)

/-- Pushing a two-byte value and popping it loses the high byte: 0x1234 comes back as 0x34. -/
theorem push_pop_loses_high_byte :
    let m := Machine.powerOn.onRegisters fun r ↦ { r with B := 0x12, C := 0x34, SP := 0xFFFE }
    let ops : List PairOp := [.push .BC, .pop .DE]
    WellNested PairOp.bracket 1 ops ∧ StackArea m.registers.SP (2 * 1) ∧ ¬RoundTrips m ops := by
  refine ⟨by decide, by decide, fun h ↦ ?_⟩
  have hops : WellNested PairOp.bracket 1 ([] ++ .push .BC :: ([] ++ .pop .DE :: [])) := by decide
  have hpop := pair_run_pop
    (Machine.powerOn.onRegisters fun r ↦ { r with B := 0x12, C := 0x34, SP := 0xFFFE })
    (by decide) hops BracketKind.balanced_nil
  have htrip := h.1 [] .BC [] .DE [] rfl BracketKind.balanced_nil
  exact absurd (hpop.symm.trans htrip) (by decide)

/-- **When `PUSH` and `POP` round-trip.**  A well-nested sequence restores every value exactly when
each register pair that is pushed before anything has been popped into it starts out below
0x100. -/
theorem push_pop_round_trip_iff (m : Machine) (d : ℕ) (ops : List PairOp)
    (hops : WellNested PairOp.bracket d ops) (harea : StackArea m.registers.SP (2 * d)) :
    RoundTrips m ops ↔
      ∀ before q after, ops = before ++ .push q :: after → .pop q ∉ before →
        (m.pair q).toNat < 256 := by
  constructor
  · rintro ⟨h, -⟩ before q after rfl hq
    -- the push has a matching pop, and the round trip works for that pair of instructions
    obtain ⟨k, -, hk⟩ := BracketKind.exists_height_prefix hops
    obtain ⟨j, hj, hafter⟩ := BracketKind.exists_height_cons hk
    obtain ⟨-, -, rfl⟩ | ⟨h', -⟩ | ⟨h', -⟩ := BracketKind.next_eq_some hj
    · obtain ⟨body, r, post, rfl, hr, hbody, -⟩ := BracketKind.exists_closing (Nat.zero_le k) hafter
      cases r with
      | push q' => cases hr
      | pop q' =>
        have htrip := h before q body q' post rfl hbody
        rw [pair_run_pop m harea hops hbody, setWidth_lowByte_eq_iff,
          (pair_run m before q).2 hq] at htrip
        exact htrip
    · cases h'
    · cases h'
  · intro h
    refine ⟨?_, sp_run m harea hops⟩
    rintro before q body q' post rfl hbody
    rw [pair_run_pop m harea hops hbody, setWidth_lowByte_eq_iff]
    by_cases hq : .pop q ∈ before
    · exact (pair_run m before q).1 hq
    · rw [(pair_run m before q).2 hq]
      exact h before q _ rfl hq

/-- A one-byte value comes back, into whichever pair. -/
theorem push_pop_round_trip_of_byte :
    RoundTrips (Machine.powerOn.onRegisters fun r ↦ { r with C := 0x34, SP := 0xE000 })
      [.push .BC, .pop .DE] := by
  refine (push_pop_round_trip_iff _ 1 _ (by decide) (by decide)).2 fun before q after h _ ↦ ?_
  cases q <;> decide

end GameBloat
