import GameBloat.Cpu.Arithmetic
import GameBloat.Cpu.RotateFamily

/-!
# Bytes in registers and in memory

A program keeps the bytes of a long number where it likes: in registers, or in internal RAM, where
an instruction reaches them through `HL`.  A `Layout` is such an arrangement, with no two bytes in
the same place, in the order in which the instructions go through it.

The shifts are the same in all places (`ShiftsAt.of_moves`), so what a sequence of them does is
said of the bytes alone (`bytes_shiftEach`).

That the places are separate is a field of the layout and not a hypothesis of each theorem.  Two
registers are separate if they are different; two addresses, if they are not the same cell, which
in work RAM leaves out its echo; and a register is separate from a byte in memory unless it is `H`
or `L`, because reaching that byte loads the two of them.  A number with one byte in `L` and
another in memory is not a layout, and could not be shifted by such a program.

* `Place.apply` runs a function of `cpu.c` on a register, or loads `HL` and runs its counterpart.
* `ShiftsAt` is the specification of a shift at a place, with its frame: other places keep their
  bytes.
* `get_foldl` and `get_foldl_of_separate` follow a place through a sequence of shifts, by
  induction on the places.
* `bytes_shiftEach` and `hasFlag_shiftEach` are the outcome: each byte is shifted by itself, and
  the carry is that of the last.
-/

set_option autoImplicit false

namespace GameBloat

open Cpu (flagZero flagNegative flagHalfCarry flagCarry)

/-! ## Places -/

/-- Where a byte is kept.  An address comes with a proof that it is internal RAM, so a place
cannot be a register of the hardware.  Two places are separate if no store to the one changes the
other, which is a condition on their names and addresses alone. -/
inductive Place
  | reg (ptr : Reg8)
  | ram (address : Word) (plain : Plain address)

namespace Place

/-- The byte in a place. -/
def get (p : Place) (m : Machine) : Byte :=
  match p with
  | reg ptr => m.registers.get8 ptr
  | ram address _ => mmuReadByte m address

/-- Run a function of `cpu.c` on a register, or load `HL` and run its counterpart on memory. -/
def apply (onRegister : Registers → Reg8 → Registers) (onHL : Machine → Machine) (p : Place)
    (m : Machine) : Machine :=
  match p with
  | reg ptr => m.onRegisters (onRegister · ptr)
  | ram address _ => onHL (m.onRegisters (Cpu.ldDdNn · .HL address))

/-- Two places that do not overlap.  `H` and `L` cannot hold a byte next to one in memory. -/
def Separate : Place → Place → Prop
  | reg ptr, reg ptr' => ptr ≠ ptr'
  | reg ptr, ram _ _ | ram _ _, reg ptr => ptr ≠ .H ∧ ptr ≠ .L
  | ram a _, ram b _ => ¬Alias a b

instance : ∀ p q : Place, Decidable (Separate p q)
  | reg ptr, reg ptr' => inferInstanceAs (Decidable (ptr ≠ ptr'))
  | reg _, ram _ _ | ram _ _, reg _ => inferInstanceAs (Decidable (_ ∧ _))
  | ram a _, ram b _ => inferInstanceAs (Decidable (¬Alias a b))

theorem Separate.symm {p q : Place} (h : Separate p q) : Separate q p := by
  cases p with
  | reg ptr =>
    cases q with
    | reg ptr' => exact Ne.symm h
    | ram b _ => exact h
  | ram a _ =>
    cases q with
    | reg ptr => exact h
    | ram b _ =>
      refine fun hab ↦ h ?_
      rcases hab with rfl | hab | hab
      · exact .inl rfl
      · exact .inr (.inr hab)
      · exact .inr (.inl hab)

end Place

/-- Places for the bytes of a number, one at least, and no two of them overlap. -/
structure Layout where
  first : Place
  rest : List Place
  separate : (first :: rest).Pairwise Place.Separate

/-- The bytes of a number, in the order of its places. -/
def Layout.bytes (l : Layout) (m : Machine) : List Byte := (l.first :: l.rest).map (·.get m)

/-! ## Shifts -/

/-- `shift` replaces the byte in a place by its `value`, puts its `carry` into C, and leaves what
is in other places.  The registers in which no byte is kept may change: in memory `HL` does.  With
this, a shift over several bytes is treated once for registers and memory together. -/
structure ShiftsAt (shift : Place → Machine → Machine) (value : Byte → Byte) (carry : Byte → Bool) :
    Prop where
  value : ∀ (p : Place) m, p.get (shift p m) = value (p.get m)
  carry : ∀ (p : Place) m, (shift p m).registers.HasFlag flagCarry ↔ carry (p.get m) = true
  others : ∀ (p q : Place) m, Place.Separate p q → q.get (shift p m) = q.get m

theorem hasFlag_carry_shifted (carry : Byte → Bool) (value : Byte → Byte) (s F : Byte) :
    (shifted carry value s F).2 &&& flagCarry ≠ 0 ↔ carry s = true := by
  rw [shifted, flagged_and_of_disjoint (by decide)]
  exact flagged_and_self_ne_zero_iff (by decide) _ (carry s)

section

variable {carry : Byte → Bool} {move : Registers → Byte → Byte} {value : Byte → Byte}
  (hmove : Moves carry move value)

include hmove

/-- A shift in memory, at an address that has been loaded into `HL`. -/
theorem updated_ram (m : Machine) {a : Word} (ha : Plain a) :
    Operand.mHL.Updated (m.onRegisters (Cpu.ldDdNn · .HL a))
      (Cpu.shiftSHL carry move (m.onRegisters (Cpu.ldDdNn · .HL a))) (value (mmuReadByte m a))
      (shifted carry value (mmuReadByte m a) m.registers.F).2 := by
  have hHL : (m.onRegisters (Cpu.ldDdNn · .HL a)).registers.HL = a := Registers.HL_setHL _ _
  have hplain : Plain (m.onRegisters (Cpu.ldDdNn · .HL a)).registers.HL := hHL.symm ▸ ha
  have hget : Operand.mHL.get (m.onRegisters (Cpu.ldDdNn · .HL a)) = mmuReadByte m a :=
    congrArg (mmuReadByte m) hHL
  have hshift : Cpu.shiftSHL carry move (m.onRegisters (Cpu.ldDdNn · .HL a)) = _ :=
    shiftOn_eq hmove hplain .mHL
  rw [hshift, Operand.modify, hget]
  exact Operand.mHL.updated hplain _ _

/-- **The shifts of `cpu.c`** do that, each with its function on a register and its counterpart in
memory, which differ in the order of the flag writes only. -/
theorem ShiftsAt.of_moves :
    ShiftsAt (Place.apply (Cpu.shiftS carry move) (Cpu.shiftSHL carry move)) value carry := by
  have hHL (r : Registers) (a : Word) {ptr : Reg8} (h : ptr ≠ .H ∧ ptr ≠ .L) :
      (Cpu.ldDdNn r .HL a).get8 ptr = r.get8 ptr := by
    cases ptr with
    | H => exact absurd rfl h.1
    | L => exact absurd rfl h.2
    | A | B | C | D | E => rfl
  refine ⟨fun p m ↦ ?_, fun p m ↦ ?_, fun p q m hpq ↦ ?_⟩
  · cases p with
    | reg ptr =>
      show (Cpu.shiftS carry move m.registers ptr).get8 ptr = _
      rw [shiftS_eq hmove, get8_with_F, get8_set8_self]
      rfl
    | ram a ha =>
      have h := updated_ram hmove m ha
      have hsame :
          (Cpu.shiftSHL carry move (m.onRegisters (Cpu.ldDdNn · .HL a))).registers.HL = a :=
        (h.HL (by simp) (by simp)).trans (Registers.HL_setHL _ _)
      have hvalue := h.value
      rw [Operand.get, hsame] at hvalue
      exact hvalue
  · cases p with
    | reg ptr =>
      show (Cpu.shiftS carry move m.registers ptr).F &&& flagCarry ≠ 0 ↔ _
      rw [shiftS_eq hmove]
      exact hasFlag_carry_shifted carry value _ _
    | ram a ha =>
      have hflags := (updated_ram hmove m ha).flags
      show (Cpu.shiftSHL carry move _).registers.F &&& flagCarry ≠ 0 ↔ _
      rw [hflags]
      exact hasFlag_carry_shifted carry value _ _
  · cases p with
    | reg ptr =>
      cases q with
      | reg ptr' =>
        show (Cpu.shiftS carry move m.registers ptr).get8 ptr' = _
        rw [shiftS_eq hmove, get8_with_F, get8_set8_of_ne _ (Ne.symm hpq)]
        rfl
      | ram b _ => rfl
    | ram a ha =>
      cases q with
      | reg ptr' =>
        exact ((updated_ram hmove m ha).others ptr' (by simp)).trans (hHL m.registers a hpq)
      | ram b _ =>
        refine (updated_ram hmove m ha).memory b fun _ ↦ ?_
        rw [show (m.onRegisters (Cpu.ldDdNn · .HL a)).registers.HL = a from Registers.HL_setHL _ _]
        exact hpq

end

/-! ## A sequence of shifts -/

/-- One shift on the first byte, and another on each of the rest. -/
def shiftEach (first next : Place → Machine → Machine) (l : Layout) (m : Machine) : Machine :=
  l.rest.foldl (fun m p ↦ next p m) (first l.first m)

section

variable {shift : Place → Machine → Machine} {value : Byte → Byte} {carry : Byte → Bool}
  (h : ShiftsAt shift value carry)

include h

/-- A place that none of the shifts is on. -/
theorem get_foldl_of_separate (q : Place) {places : List Place}
    (hq : ∀ p ∈ places, Place.Separate p q) (m : Machine) :
    q.get (places.foldl (fun m p ↦ shift p m) m) = q.get m := by
  induction places generalizing m with
  | nil => rfl
  | cons p places ih =>
    rw [List.forall_mem_cons] at hq
    exact (ih hq.2 _).trans (h.others p q m hq.1)

/-- A place that one of them is on. -/
theorem get_foldl {places : List Place} (hplaces : places.Pairwise Place.Separate) (m : Machine) :
    ∀ p ∈ places, p.get (places.foldl (fun m p ↦ shift p m) m) = value (p.get m) := by
  induction places generalizing m with
  | nil => exact fun _ hp ↦ absurd hp List.not_mem_nil
  | cons p places ih =>
    obtain ⟨hfirst, hrest⟩ := List.pairwise_cons.1 hplaces
    refine List.forall_mem_cons.2 ⟨?_, fun q hq ↦ ?_⟩
    · exact (get_foldl_of_separate h p (fun q hq ↦ (hfirst q hq).symm) _).trans (h.value p m)
    · rw [List.foldl_cons, ih hrest _ q hq, h.others p q m (hfirst q hq)]

end

section

variable {first next : Place → Machine → Machine} {value value' : Byte → Byte}
  {carry carry' : Byte → Bool} (hfirst : ShiftsAt first value carry)
  (hnext : ShiftsAt next value' carry') (l : Layout) (m : Machine)

include hfirst hnext

/-- **Each byte is shifted by itself.** -/
theorem bytes_shiftEach : l.bytes (shiftEach first next l m) =
    value (l.first.get m) :: l.rest.map fun p ↦ value' (p.get m) := by
  obtain ⟨hseparate, hrest⟩ := List.pairwise_cons.1 l.separate
  refine congrArg₂ List.cons ?_ (List.map_congr_left fun p hp ↦ ?_)
  · exact (get_foldl_of_separate hnext l.first (fun p hp ↦ (hseparate p hp).symm) _).trans
      (hfirst.value l.first m)
  · rw [shiftEach, get_foldl hnext hrest _ p hp, hfirst.others l.first p m (hseparate p hp)]

/-- The carry at the end is that of the last byte. -/
theorem hasFlag_shiftEach : (shiftEach first next l m).registers.HasFlag flagCarry ↔
    (l.rest.map fun p ↦ carry' (p.get m)).getLastD (carry (l.first.get m)) = true := by
  rcases List.eq_nil_or_concat l.rest with hnil | ⟨init, last, hsplit⟩
  · rw [shiftEach, hnil]
    exact hfirst.carry l.first m
  · rw [List.concat_eq_append] at hsplit
    have hseparate := l.separate
    rw [hsplit, ← List.cons_append] at hseparate
    obtain ⟨-, -, hlast⟩ := List.pairwise_append.1 hseparate
    have hlast (p : Place) (hp : p ∈ l.first :: init) : Place.Separate p last :=
      hlast p hp last List.mem_cons_self
    rw [List.forall_mem_cons] at hlast
    rw [shiftEach, hsplit, List.foldl_append, List.map_append, List.map_singleton,
      List.getLastD_concat]
    refine (hnext.carry last _).trans ?_
    rw [get_foldl_of_separate hnext last hlast.2, hfirst.others l.first last m hlast.1]

end

end GameBloat
