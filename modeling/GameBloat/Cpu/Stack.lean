import GameBloat.Cpu.Instructions
import GameBloat.Memory.Law

/-!
# The stack in memory

`call_nn`, `rst_f` and `push_ss` each store two bytes below `SP`; `ret` and `pop_dd` read two
bytes at `SP`.  Written as words in memory order they all do one of two things: `pushWord` and a
read of `mmuReadShort` at `SP`.

`OnStack` is the invariant that carries a sequence of them: the words still on the stack lie in
memory between `SP` and the start of the area, and nothing outside the area has changed.

The difficulty is the memory map.  A store below `SP` is a store to whatever is mapped there: the
registers of the GPU, the cartridge's controller, the echo of work RAM.  Between 0xC000 and
0xDFFF, and between 0xFF80 and 0xFFFE, an address is memory and nothing else, and `StackArea` asks
that all of the stack lies in one of these two.  Then two addresses of the area are never the same
cell, and the words do not run into each other.  Work RAM is also reachable through its echo, but
the area does not extend into it.

* `stackArea_iff` replaces the quantifier over the bytes of the area by bounds on its ends, and
  makes it decidable.
* `callNn_eq`, `rstF_eq`, `ret_eq`, `pushSs_eq` and `popDd_eq` rewrite the functions of `cpu.c`
  into the two operations.  `push_ss` stores the halves in the other order than `call_nn`, so its
  word has its bytes exchanged; and `pop_dd` drops one of the bytes it reads.
* `OnStack.push`, `OnStack.top` and `OnStack.pop` are the step lemmas.

The modules about subroutines and about register pairs build on these and never look into memory
again.
-/

set_option autoImplicit false

namespace GameBloat

/-! ## The stack area -/

/-- The `n` addresses below `s` all lie in work RAM, or all in high RAM.  An empty area is one
whatever `s` is.  The addresses are counted down from `s` modulo 2 ^ 16, as the stack pointer is,
so an area may not wrap round. -/
def StackArea (s : Word) (n : ℕ) : Prop :=
  (∀ k, 1 ≤ k → k ≤ n → 0xC000 ≤ (s - BitVec.ofNat 16 k).toNat ∧
    (s - BitVec.ofNat 16 k).toNat ≤ 0xDFFF) ∨
  (∀ k, 1 ≤ k → k ≤ n → 0xFF80 ≤ (s - BitVec.ofNat 16 k).toNat ∧
    (s - BitVec.ofNat 16 k).toNat ≤ 0xFFFE)

/-- A block of addresses that does not wrap around lies between its ends.  The bounds keep away
from 0 and 0xFFFF, so that subtracting in 16 bits is subtracting. -/
theorem forall_sub_iff {s : Word} {n lo hi : ℕ} (hn : 0 < n) (hlo : 0 < lo) (hhi : hi < 0xFFFF) :
    (∀ k, 1 ≤ k → k ≤ n → lo ≤ (s - BitVec.ofNat 16 k).toNat ∧
      (s - BitVec.ofNat 16 k).toNat ≤ hi) ↔ lo + n ≤ s.toNat ∧ s.toNat ≤ hi + 1 := by
  constructor
  · intro h
    induction n with
    | zero => omega
    | succ n ih =>
      have hlast := h (n + 1) (by omega) (Nat.le_refl _)
      rcases Nat.eq_zero_or_pos n with rfl | hn'
      · bv_omega
      · have := ih hn' fun k h₁ h₂ ↦ h k h₁ (by omega)
        bv_omega
  · intro h k h₁ h₂
    bv_omega

theorem stackArea_iff {s : Word} {n : ℕ} :
    StackArea s n ↔ n = 0 ∨ (0xC000 + n ≤ s.toNat ∧ s.toNat ≤ 0xE000) ∨
      (0xFF80 + n ≤ s.toNat ∧ s.toNat ≤ 0xFFFF) := by
  rcases Nat.eq_zero_or_pos n with rfl | hn
  · exact ⟨fun _ ↦ .inl rfl, fun _ ↦ .inl fun k h₁ h₂ ↦ by omega⟩
  · rw [StackArea, forall_sub_iff hn (by omega) (by omega),
      forall_sub_iff hn (by omega) (by omega)]
    omega

instance (s : Word) (n : ℕ) : Decidable (StackArea s n) := decidable_of_iff' _ stackArea_iff

namespace StackArea

variable {s : Word} {n j k : ℕ} (h : StackArea s n)

include h

theorem toNat_sub (hk : 1 ≤ k) (hn : k ≤ n) : (s - BitVec.ofNat 16 k).toNat = s.toNat - k := by
  have := stackArea_iff.1 h
  bv_omega

theorem plain (hk : 1 ≤ k) (hn : k ≤ n) : Plain (s - BitVec.ofNat 16 k) := by
  have := stackArea_iff.1 h
  rw [Plain, h.toNat_sub hk hn]
  omega

/-- Two different addresses of the area are different cells. -/
theorem not_alias (hj : 1 ≤ j) (hjn : j ≤ n) (hk : 1 ≤ k) (hkn : k ≤ n) (hne : j ≠ k) :
    ¬Alias (s - BitVec.ofNat 16 j) (s - BitVec.ofNat 16 k) := by
  have := stackArea_iff.1 h
  rw [Alias, Echo, Echo, ← BitVec.toNat_inj, h.toNat_sub hj hjn, h.toNat_sub hk hkn]
  omega

end StackArea

/-! ## Pushing a word -/

/-- Store a word below `SP`, its high byte first, and lower `SP` past it.  The order of the two
stores is that of `call_nn`; inside a stack area it makes no difference. -/
def pushWord (m : Machine) (w : Word) : Machine :=
  (storeByte (storeByte m (m.registers.SP - 1) (highByte w)) (m.registers.SP - 1 - 1)
    (lowByte w)).onRegisters fun r ↦ { r with SP := r.SP - 1 - 1 }

theorem pushWord_registers (m : Machine) (w : Word) :
    (pushWord m w).registers = { m.registers with SP := m.registers.SP - 1 - 1 } := by
  rw [pushWord, Machine.onRegisters_registers, storeByte_registers, storeByte_registers]

/-- The stores go through `mmuWriteByte`, so a stack at the interrupt registers would write to
them. -/
theorem pushWord_interruptRegisters (m : Machine) (w : Word) :
    (pushWord m w).interruptRegisters =
      writeInterrupt (writeInterrupt m.interruptRegisters (m.registers.SP - 1) (highByte w))
        (m.registers.SP - 1 - 1) (lowByte w) := by
  rw [← storeByte_interruptRegisters, ← storeByte_interruptRegisters]
  rfl

@[simp] theorem mmuReadByte_onRegisters (m : Machine) (f : Registers → Registers) (a : Word) :
    mmuReadByte (m.onRegisters f) a = mmuReadByte m a := rfl

@[simp] theorem mmuReadShort_onRegisters (m : Machine) (f : Registers → Registers) (a : Word) :
    mmuReadShort (m.onRegisters f) a = mmuReadShort m a := rfl

@[simp] theorem load_onRegisters (m : Machine) (f : Registers → Registers) (c : Cell) :
    (m.onRegisters f).load c = m.load c := by
  rw [Machine.load, Machine.load]
  cases c.backing <;> rfl

/-- A store into a memory cell and a change of the register file can change places. -/
theorem store_onRegisters (m : Machine) (f : Registers → Registers) (c : Cell) (v : Byte) :
    (m.onRegisters f).store c v = (m.store c v).onRegisters f := by
  rw [Machine.store, Machine.store]
  cases c.backing <;> rfl

/-- On plain addresses, memory and the register file do not meet. -/
theorem storeByte_onRegisters (m : Machine) (f : Registers → Registers) {a : Word} (ha : Plain a)
    (v : Byte) : storeByte (m.onRegisters f) a v = (storeByte m a v).onRegisters f := by
  obtain ⟨c, hc⟩ := ha.cell
  rw [storeByte_of_cell hc, storeByte_of_cell hc, store_onRegisters]

namespace Cpu

theorem callNn_eq (m : Machine) (nn : Word) :
    callNn m nn = (pushWord m m.registers.PC).onRegisters fun r ↦ { r with PC := nn } := by
  simp only [callNn, highByteMask, lowByteMask, setWidth_and_highByte, setWidth_and_lowByte,
    storeByte_registers]
  rw [pushWord, Machine.onRegisters_onRegisters]
  exact Machine.onRegisters_congr (by simp only [storeByte_registers])

theorem rstF_eq (m : Machine) (f : Byte) :
    rstF m f =
      (pushWord m m.registers.PC).onRegisters fun r ↦ { r with PC := f.setWidth 16 } := by
  simp only [rstF, highByteMask, lowByteMask, setWidth_and_highByte, setWidth_and_lowByte,
    setWidth_and_mask, storeByte_registers]
  rw [pushWord, Machine.onRegisters_onRegisters]
  exact Machine.onRegisters_congr (by simp only [storeByte_registers])

theorem ret_eq (m : Machine) :
    ret m = m.onRegisters fun r ↦
      { r with PC := mmuReadShort m m.registers.SP, SP := r.SP + 1 + 1 } := by
  simp only [ret, lowByteMask, setWidth_and_mask]
  rfl

/-- `push_ss` stores the halves the other way round from `call_nn`. -/
theorem pushSs_eq (m : Machine) (ss : Word) (h₁ : Plain (m.registers.SP - 1))
    (h₂ : Plain (m.registers.SP - 1 - 1)) :
    pushSs m ss = pushWord m (lowByte ss ++ highByte ss) := by
  rw [pushSs, setWidth_and_highByte, setWidth_and_lowByte]
  simp only [Machine.onRegisters_registers]
  rw [storeByte_onRegisters _ _ h₁, Machine.onRegisters_onRegisters, Machine.onRegisters_registers,
    storeByte_registers, storeByte_onRegisters _ _ h₂, pushWord, highByte_append, lowByte_append]

theorem popDd_eq (m : Machine) (ptrDD : Reg16) :
    popDd m ptrDD = m.onRegisters fun r ↦
      { r with SP := r.SP + 1 + 1 }.set16 ptrDD
        ((highByte (mmuReadShort m m.registers.SP)).setWidth 16) := by
  simp only [popDd, mmuReadShort_eq, highByte_append, mmuReadByte_onRegisters,
    Machine.onRegisters_registers, Machine.onRegisters_onRegisters]

end Cpu

/-! ## The words on the stack -/

/-- The words `stack`, top first, lie below `s`: the top one lowest.  The list grows downwards in
memory, so the position of a word is counted from the start of the area and does not change when
more is pushed. -/
def Holds (m : Machine) (s : Word) : List Word → Prop
  | [] => True
  | w :: rest =>
    mmuReadShort m (s - BitVec.ofNat 16 (2 * rest.length + 2)) = w ∧ Holds m s rest

/-- **The stack invariant**, for an area of `2 * d` bytes below `s`: `stack` is what lies on the
stack, and nothing in internal RAM outside the area differs from `m₀`.  With the depth as a
parameter it is kept by a call and by a return, and bounds how far down either may go. -/
structure OnStack (m₀ : Machine) (s : Word) (d : ℕ) (m : Machine) (stack : List Word) : Prop where
  sp : m.registers.SP = s - BitVec.ofNat 16 (2 * stack.length)
  holds : Holds m s stack
  frame : ∀ c : Cell, (∀ k, 1 ≤ k → k ≤ 2 * d → cellOf (s - BitVec.ofNat 16 k) ≠ some c) →
    m.load c = m₀.load c

/-- What the words are depends on the bytes of the area only. -/
theorem Holds.congr {m m' : Machine} {s : Word} {stack : List Word} (h : Holds m s stack)
    (heq : ∀ k, 1 ≤ k → k ≤ 2 * stack.length →
      mmuReadByte m' (s - BitVec.ofNat 16 k) = mmuReadByte m (s - BitVec.ofNat 16 k)) :
    Holds m' s stack := by
  induction stack with
  | nil => trivial
  | cons w rest ih =>
    rw [List.length_cons] at heq
    refine ⟨?_, ih h.2 fun k h₁ h₂ ↦ heq k h₁ (by omega)⟩
    have hsucc : s - BitVec.ofNat 16 (2 * rest.length + 2) + 1 =
        s - BitVec.ofNat 16 (2 * rest.length + 1) := by bv_omega
    rw [← h.1, mmuReadShort_eq, mmuReadShort_eq, hsucc, heq _ (by omega) (by omega),
      heq _ (by omega) (by omega)]

namespace OnStack

variable {m₀ m : Machine} {s : Word} {d : ℕ} {stack : List Word}

theorem init (m : Machine) (d : ℕ) : OnStack m m.registers.SP d m [] :=
  ⟨by simp, trivial, fun _ _ ↦ rfl⟩

/-- Registers other than `SP` do not matter. -/
theorem onRegisters (h : OnStack m₀ s d m stack) {f : Registers → Registers}
    (hf : (f m.registers).SP = m.registers.SP) : OnStack m₀ s d (m.onRegisters f) stack :=
  ⟨hf.trans h.sp, h.holds.congr fun _ _ _ ↦ rfl,
    fun c hc ↦ (load_onRegisters m f c).trans (h.frame c hc)⟩

theorem sp_sub_one (h : OnStack m₀ s d m stack) :
    m.registers.SP - 1 = s - BitVec.ofNat 16 (2 * stack.length + 1) := by
  rw [h.sp]; bv_omega

theorem sp_sub_two (h : OnStack m₀ s d m stack) :
    m.registers.SP - 1 - 1 = s - BitVec.ofNat 16 (2 * stack.length + 2) := by
  rw [h.sp]; bv_omega

/-- With room for a word, the two bytes below `SP` are plain. -/
theorem plain (h : OnStack m₀ s d m stack) (harea : StackArea s (2 * d)) (hd : stack.length < d) :
    Plain (m.registers.SP - 1) ∧ Plain (m.registers.SP - 1 - 1) := by
  rw [h.sp_sub_two, h.sp_sub_one]
  exact ⟨harea.plain (by omega) (by omega), harea.plain (by omega) (by omega)⟩

/-- With room for it, a pushed word comes on top and the words below it stay. -/
theorem push (h : OnStack m₀ s d m stack) (harea : StackArea s (2 * d)) (hd : stack.length < d)
    (w : Word) : OnStack m₀ s d (pushWord m w) (w :: stack) := by
  have h₁ := h.sp_sub_one
  have h₂ := h.sp_sub_two
  have hp₁ := harea.plain (k := 2 * stack.length + 1) (by omega) (by omega)
  have hp₂ := harea.plain (k := 2 * stack.length + 2) (by omega) (by omega)
  rw [pushWord, h₂, h₁]
  refine ⟨?_, ⟨?_, ?_⟩, fun c hc ↦ ?_⟩
  · rw [Machine.onRegisters_registers, List.length_cons, storeByte_registers, storeByte_registers,
      h₂, Nat.mul_add_one]
  · have hsucc : s - BitVec.ofNat 16 (2 * stack.length + 2) + 1 =
        s - BitVec.ofNat 16 (2 * stack.length + 1) := by bv_omega
    rw [mmuReadShort_onRegisters, mmuReadShort_eq, hsucc,
      mmuReadByte_storeByte_of_alias _ _ hp₂ (.inl rfl),
      mmuReadByte_storeByte_of_not_alias _ _ hp₂
        (harea.not_alias (by omega) (by omega) (by omega) (by omega) (by omega)),
      mmuReadByte_storeByte_of_alias _ _ hp₁ (.inl rfl), highByte_append_lowByte]
  · -- the words below are out of reach of the two stores
    refine h.holds.congr fun k hk₁ hk₂ ↦ ?_
    rw [mmuReadByte_onRegisters,
      mmuReadByte_storeByte_of_not_alias _ _ hp₂
        (harea.not_alias (by omega) (by omega) hk₁ (by omega) (by omega)),
      mmuReadByte_storeByte_of_not_alias _ _ hp₁
        (harea.not_alias (by omega) (by omega) hk₁ (by omega) (by omega))]
  · rw [load_onRegisters, load_storeByte_of_ne hp₂ (hc _ (by omega) (by omega)),
      load_storeByte_of_ne hp₁ (hc _ (by omega) (by omega)), h.frame c hc]

/-- What `RET` and `POP` read at `SP` is the word on top. -/
theorem top {w : Word} (h : OnStack m₀ s d m (w :: stack)) :
    mmuReadShort m m.registers.SP = w := by
  rw [h.sp]
  exact h.holds.1

/-- Moving `SP` past a word takes it off; memory is not touched. -/
theorem pop {w : Word} (h : OnStack m₀ s d m (w :: stack)) {f : Registers → Registers}
    (hf : (f m.registers).SP = m.registers.SP + 1 + 1) :
    OnStack m₀ s d (m.onRegisters f) stack := by
  refine ⟨?_, h.holds.2.congr fun _ _ _ ↦ rfl,
    fun c hc ↦ (load_onRegisters m f c).trans (h.frame c hc)⟩
  rw [Machine.onRegisters_registers, hf, h.sp, List.length_cons]
  bv_omega

end OnStack

end GameBloat
