import GameBloat.Memory.Map

/-!
# Internal RAM is a memory

The two cascades of `memory.c` decode the plain addresses — work RAM, its echo, OAM and high RAM —
the same way.  The common decoding is `cellOf`, which sends an address to the cell of the backing
array it stands for; a `Cell` cannot leave its array.  Against it, `mmuReadByte` is a load and
`mmuWriteByte` a store (`mmuReadByte_of_cell`, `mmuWriteByte_of_cell`), two addresses alias
exactly when they share a cell (`alias_iff`), and the law of internal RAM is the law of
`Function.update`.

That the index is in bounds is a field of `Cell`, proved where the cell is made, in the four
branches of `cellOf`.  So "no plain address is decoded outside its array" needs no theorem of its
own: it is the type of `cellOf`.

The law speaks of the whole address space on the reading side.  A write to a plain address must
not be seen at any address that is not an alias, and this includes addresses at which something
else is read: the cartridge, video RAM, registers.  None of these looks into the backing arrays
(`mmuReadByte_store_of_not_plain`), and that completes the frame.

* `cellOf_cases` and `cellOf_eq_none_iff` have the four ranges, for the proofs of the rest.
* `mmuReadByte_storeByte_of_alias` and `mmuReadByte_storeByte_of_not_alias` are the law for one
  byte.
* `mmuReadShort_mmuWriteShort` is the round trip of a word, whose two halves are different cells.
* `internalRam_law` is all of it, for every machine, address and value.
-/

set_option autoImplicit false

namespace GameBloat

open Function (update)

/-! ## Cells -/

/-- The arrays of memory.c behind the plain addresses. -/
inductive Backing
  | wRAM | OAM | hRAM
  deriving DecidableEq

/-- The number of bytes the array is declared with. -/
def Backing.size : Backing → ℕ
  | .wRAM => wRAMSize
  | .OAM => oamSize
  | .hRAM => hRAMSize

/-- A byte of internal RAM.  The index lies inside the array, so a cell is never out of bounds,
and two cells are the same if their arrays and their indices are; an address has one cell or none
(`cellOf`). -/
@[ext] structure Cell where
  backing : Backing
  index : ℕ
  inBounds : index < backing.size

/-- The contents of a backing array. -/
def Machine.array (m : Machine) : Backing → ℕ → Byte
  | .wRAM => m.wRAM
  | .OAM => m.OAM
  | .hRAM => m.hRAM

/-- The byte in a cell. -/
def Machine.load (m : Machine) (c : Cell) : Byte := m.array c.backing c.index

/-- Change the byte in a cell, and nothing else. -/
def Machine.store (m : Machine) (c : Cell) (value : Byte) : Machine :=
  match c.backing with
  | .wRAM => { m with wRAM := update m.wRAM c.index value }
  | .OAM => { m with OAM := update m.OAM c.index value }
  | .hRAM => { m with hRAM := update m.hRAM c.index value }

/-- A store as an assignment to the arrays: the one cell, and nothing else in any of them. -/
theorem Machine.array_store (m : Machine) (c : Cell) (value : Byte) (backing : Backing) (i : ℕ) :
    (m.store c value).array backing i =
      if backing = c.backing ∧ i = c.index then value else m.array backing i := by
  obtain ⟨cb, ci, hci⟩ := c
  cases cb <;> cases backing <;>
    simp [Machine.store, Machine.array, Function.update_apply]

@[simp] theorem Machine.load_store_self (m : Machine) (c : Cell) (value : Byte) :
    (m.store c value).load c = value := by
  rw [Machine.load, Machine.array_store, if_pos ⟨rfl, rfl⟩]

theorem Machine.load_store_of_ne (m : Machine) {c d : Cell} (value : Byte) (h : d ≠ c) :
    (m.store c value).load d = m.load d := by
  rw [Machine.load, Machine.array_store, if_neg fun h' ↦ h (Cell.ext h'.1 h'.2), Machine.load]

/-- The cell a plain address stands for.  Work RAM has two ranges of addresses, the second its
echo; where the echo ends, OAM begins.  Two plain addresses have the same cell exactly if they are
equal or one is the echo of the other (`alias_iff`). -/
def cellOf (address : Word) : Option Cell :=
  if h : 0xC000 ≤ address.toNat ∧ address.toNat < 0xE000 then
    some ⟨.wRAM, address.toNat - 0xC000, by simp only [Backing.size, wRAMSize]; omega⟩
  else if h : 0xE000 ≤ address.toNat ∧ address.toNat < 0xFE00 then
    some ⟨.wRAM, address.toNat - 0xE000, by simp only [Backing.size, wRAMSize]; omega⟩
  else if h : 0xFE00 ≤ address.toNat ∧ address.toNat < 0xFEA0 then
    some ⟨.OAM, address.toNat - 0xFE00, by simp only [Backing.size, oamSize]; omega⟩
  else if h : 0xFF80 ≤ address.toNat ∧ address.toNat < 0xFFFF then
    some ⟨.hRAM, address.toNat - 0xFF80, by simp only [Backing.size, hRAMSize]; omega⟩
  else none

/-! ## Plain addresses and aliases -/

/-- Addresses of internal RAM: work RAM, its echo and OAM in one range, high RAM in another. -/
def Plain (a : Word) : Prop :=
  (0xC000 ≤ a.toNat ∧ a.toNat ≤ 0xFE9F) ∨ (0xFF80 ≤ a.toNat ∧ a.toNat ≤ 0xFFFE)

/-- `b` is the echo of `a`, 0x2000 higher. -/
def Echo (a b : Word) : Prop :=
  0xC000 ≤ a.toNat ∧ a.toNat ≤ 0xDDFF ∧ b.toNat = a.toNat + 0x2000

/-- Two addresses that stand for the same byte. -/
def Alias (a b : Word) : Prop := a = b ∨ Echo a b ∨ Echo b a

instance (a : Word) : Decidable (Plain a) := inferInstanceAs (Decidable (_ ∨ _))

instance (a b : Word) : Decidable (Echo a b) := inferInstanceAs (Decidable (_ ∧ _))

instance (a b : Word) : Decidable (Alias a b) := inferInstanceAs (Decidable (_ ∨ _))

/-- The four ranges of `cellOf`, with the cell each gives. -/
theorem cellOf_cases {a : Word} {c : Cell} (h : cellOf a = some c) :
    (0xC000 ≤ a.toNat ∧ a.toNat < 0xE000 ∧ c.backing = .wRAM ∧ c.index = a.toNat - 0xC000) ∨
    (0xE000 ≤ a.toNat ∧ a.toNat < 0xFE00 ∧ c.backing = .wRAM ∧ c.index = a.toNat - 0xE000) ∨
    (0xFE00 ≤ a.toNat ∧ a.toNat < 0xFEA0 ∧ c.backing = .OAM ∧ c.index = a.toNat - 0xFE00) ∨
    (0xFF80 ≤ a.toNat ∧ a.toNat < 0xFFFF ∧ c.backing = .hRAM ∧ c.index = a.toNat - 0xFF80) := by
  rw [cellOf] at h
  split at h
  · obtain rfl := Option.some.inj h; exact .inl ⟨by omega, by omega, rfl, rfl⟩
  split at h
  · obtain rfl := Option.some.inj h; exact .inr (.inl ⟨by omega, by omega, rfl, rfl⟩)
  split at h
  · obtain rfl := Option.some.inj h; exact .inr (.inr (.inl ⟨by omega, by omega, rfl, rfl⟩))
  split at h
  · obtain rfl := Option.some.inj h; exact .inr (.inr (.inr ⟨by omega, by omega, rfl, rfl⟩))
  · cases h

theorem cellOf_eq_none_iff {a : Word} : cellOf a = none ↔ ¬Plain a := by
  rw [cellOf, Plain]
  split_ifs <;> simp <;> omega

theorem Plain.cell {a : Word} (h : Plain a) : ∃ c, cellOf a = some c :=
  Option.ne_none_iff_exists'.1 fun h' ↦ cellOf_eq_none_iff.1 h' h

/-- Plain addresses alias exactly when they share a cell.  `Alias` is defined by arithmetic on the
addresses, so this is what connects it to the arrays. -/
theorem alias_iff {a b : Word} {c d : Cell} (ha : cellOf a = some c) (hb : cellOf b = some d) :
    Alias a b ↔ d = c := by
  rw [Cell.ext_iff, Alias, Echo, Echo, ← BitVec.toNat_inj]
  rcases cellOf_cases ha with h | h | h | h <;> rcases cellOf_cases hb with h' | h' | h' | h' <;>
    simp only [h.2.2.1, h'.2.2.1, h.2.2.2, h'.2.2.2, reduceCtorEq, false_and, true_and,
      iff_false] <;>
    omega

theorem Alias.plain {a b : Word} (h : Alias a b) (ha : Plain a) : Plain b := by
  rcases h with rfl | h | h
  · exact ha
  all_goals simp only [Plain, Echo] at *; omega

/-! ## The two cascades against the cells -/

theorem mmuReadByte_of_cell {a : Word} {c : Cell} (h : cellOf a = some c) (m : Machine) :
    mmuReadByte m a = m.load c := by
  rw [Machine.load, mmuReadByte]
  rcases cellOf_cases h with ⟨h₁, h₂, hb, hi⟩ | ⟨h₁, h₂, hb, hi⟩ | ⟨h₁, h₂, hb, hi⟩ |
    ⟨h₁, h₂, hb, hi⟩ <;> rw [hb, hi]
  · rw [if_neg (by omega), if_neg (by omega), if_neg (by omega), if_pos h₂]; rfl
  · rw [if_neg (by omega), if_neg (by omega), if_neg (by omega), if_neg (by omega), if_pos h₂]; rfl
  · rw [if_neg (by omega), if_neg (by omega), if_neg (by omega), if_neg (by omega),
      if_neg (by omega), if_pos h₂]
    rfl
  · rw [if_neg (by omega), if_neg (by omega), if_neg (by omega), if_neg (by omega),
      if_neg (by omega), if_neg (by omega), if_neg (by omega), if_neg (by omega), if_pos h₂]
    rfl

theorem mmuWriteByte_of_cell {a : Word} {c : Cell} (h : cellOf a = some c) (m : Machine)
    (value : Byte) : mmuWriteByte m a value = (m.store c value, 1) := by
  rw [Machine.store, mmuWriteByte]
  rcases cellOf_cases h with ⟨h₁, h₂, hb, hi⟩ | ⟨h₁, h₂, hb, hi⟩ | ⟨h₁, h₂, hb, hi⟩ |
    ⟨h₁, h₂, hb, hi⟩ <;> rw [hb, hi]
  · rw [if_neg (by omega), if_neg (by omega), if_neg (by omega), if_pos h₂]
  · rw [if_neg (by omega), if_neg (by omega), if_neg (by omega), if_neg (by omega), if_pos h₂]
  · rw [if_neg (by omega), if_neg (by omega), if_neg (by omega), if_neg (by omega),
      if_neg (by omega), if_pos h₂]
  · rw [if_neg (by omega), if_neg (by omega), if_neg (by omega), if_neg (by omega),
      if_neg (by omega), if_neg (by omega), if_neg (by omega), if_neg (by omega), if_pos h₂]

theorem storeByte_of_cell {a : Word} {c : Cell} (h : cellOf a = some c) (m : Machine)
    (value : Byte) : storeByte m a value = m.store c value :=
  congrArg Prod.fst (mmuWriteByte_of_cell h m value)

theorem load_storeByte_of_ne {a : Word} {c : Cell} (ha : Plain a) (hc : cellOf a ≠ some c)
    (m : Machine) (value : Byte) : (storeByte m a value).load c = m.load c := by
  obtain ⟨d, hd⟩ := ha.cell
  have hne : c ≠ d := fun h ↦ hc (hd.trans (congrArg some h.symm))
  rw [storeByte_of_cell hd, Machine.load_store_of_ne m value hne]

/-- Outside the plain addresses, nothing that is read lives in the backing arrays. -/
theorem mmuReadByte_store_of_not_plain {b : Word} (h : ¬Plain b) (m : Machine) (c : Cell)
    (value : Byte) : mmuReadByte (m.store c value) b = mmuReadByte m b := by
  have hm : ∃ wRAM OAM hRAM, m.store c value = { m with wRAM, OAM, hRAM } := by
    rw [Machine.store]
    split <;> exact ⟨_, _, _, rfl⟩
  obtain ⟨wRAM, OAM, hRAM, hm⟩ := hm
  rw [Plain] at h
  rw [hm, mmuReadByte, mmuReadByte]
  by_cases h₁ : b.toNat < 0x8000
  · rw [if_pos h₁, if_pos h₁]; rfl
  by_cases h₂ : b.toNat < 0xA000
  · rw [if_neg h₁, if_neg h₁, if_pos h₂, if_pos h₂]
  by_cases h₃ : b.toNat < 0xC000
  · rw [if_neg h₁, if_neg h₁, if_neg h₂, if_neg h₂, if_pos h₃, if_pos h₃]; rfl
  -- past the plain ranges, only the unusable area, the I/O registers and 0xFFFF are left
  have h₄ : ¬b.toNat < 0xE000 := by omega
  have h₅ : ¬b.toNat < 0xFE00 := by omega
  have h₆ : ¬b.toNat < 0xFEA0 := by omega
  simp only [h₁, h₂, h₃, h₄, h₅, h₆, if_false]
  by_cases h₇ : b.toNat < 0xFF80
  · simp only [h₇, if_true]
  · have h₈ : ¬b.toNat < 0xFFFF := by omega
    simp only [h₇, h₈, if_false]

/-! ## The law -/

section

variable {a b : Word} (m : Machine) (value : Byte)

theorem mmuReadByte_storeByte_of_alias (ha : Plain a) (h : Alias a b) :
    mmuReadByte (storeByte m a value) b = value := by
  obtain ⟨c, hc⟩ := ha.cell
  obtain ⟨d, hd⟩ := (h.plain ha).cell
  obtain rfl := (alias_iff hc hd).1 h
  rw [storeByte_of_cell hc, mmuReadByte_of_cell hd, Machine.load_store_self]

theorem mmuReadByte_storeByte_of_not_alias (ha : Plain a) (h : ¬Alias a b) :
    mmuReadByte (storeByte m a value) b = mmuReadByte m b := by
  obtain ⟨c, hc⟩ := ha.cell
  rw [storeByte_of_cell hc]
  by_cases hb : Plain b
  · obtain ⟨d, hd⟩ := hb.cell
    rw [mmuReadByte_of_cell hd, mmuReadByte_of_cell hd,
      Machine.load_store_of_ne m value fun h' ↦ h ((alias_iff hc hd).2 h')]
  · exact mmuReadByte_store_of_not_plain hb m c value

end

theorem mmuReadShort_eq (m : Machine) (a : Word) :
    mmuReadShort m a = mmuReadByte m (a + 1) ++ mmuReadByte m a :=
  setWidth_or_shiftLeft _ _

theorem mmuWriteShort_eq (m : Machine) (a w : Word) :
    mmuWriteShort m a w = mmuWriteByte (storeByte m a (lowByte w)) (a + 1) (highByte w) := by
  rw [mmuWriteShort, setWidth_and_lowByte, setWidth_and_highByte]

theorem mmuReadShort_mmuWriteShort (m : Machine) {a : Word} (w : Word) (ha : Plain a)
    (ha' : Plain (a + 1)) : mmuReadShort (mmuWriteShort m a w).1 a = w := by
  have hne : ¬Alias (a + 1) a := by
    rw [Plain] at ha
    rw [Alias, Echo, Echo]
    bv_omega
  rw [mmuWriteShort_eq, mmuReadShort_eq]
  change mmuReadByte (storeByte _ (a + 1) _) (a + 1) ++ mmuReadByte (storeByte _ (a + 1) _) a = w
  rw [mmuReadByte_storeByte_of_alias _ _ ha' (.inl rfl),
    mmuReadByte_storeByte_of_not_alias _ _ ha' hne,
    mmuReadByte_storeByte_of_alias _ _ ha (.inl rfl), highByte_append_lowByte]

/-- **The law of internal RAM.**  A write to a plain address is one store into its backing array,
inside its bounds; it is seen at the address and its aliases and nowhere else in the address
space; and a 16-bit value comes back as it was written. -/
theorem internalRam_law (m : Machine) :
    (∀ (a : Word) (v : Byte), Plain a →
      (∃ c : Cell, c.index < c.backing.size ∧ mmuWriteByte m a v = (m.store c v, 1)) ∧
      (∀ b, Alias a b → mmuReadByte (mmuWriteByte m a v).1 b = v) ∧
      ∀ b, ¬Alias a b → mmuReadByte (mmuWriteByte m a v).1 b = mmuReadByte m b) ∧
    ∀ a w : Word, Plain a → Plain (a + 1) → mmuReadShort (mmuWriteShort m a w).1 a = w := by
  refine ⟨fun a v ha ↦ ⟨?_, ?_, ?_⟩, fun a w ha ha' ↦ mmuReadShort_mmuWriteShort m w ha ha'⟩
  · obtain ⟨c, hc⟩ := ha.cell
    exact ⟨c, c.inBounds, mmuWriteByte_of_cell hc m v⟩
  · exact fun b h ↦ mmuReadByte_storeByte_of_alias m v ha h
  · exact fun b h ↦ mmuReadByte_storeByte_of_not_alias m v ha h

/-- The law at the last byte below the echo's mirror image of OAM. -/
theorem internalRam_law_ddff :
    mmuReadByte (mmuWriteByte Machine.powerOn 0xDDFF 7).1 0xFDFF = 7 ∧
      mmuReadShort (mmuWriteShort Machine.powerOn 0xFDFF 0x1234).1 0xFDFF = 0x1234 :=
  ⟨((internalRam_law Machine.powerOn).1 0xDDFF 7 (by decide)).2.1 0xFDFF (by decide),
    (internalRam_law Machine.powerOn).2 0xFDFF 0x1234 (by decide) (by decide)⟩

end GameBloat
