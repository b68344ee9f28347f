import Mathlib.Algebra.Group.Nat.Defs
import Mathlib.Data.Nat.Notation
import Mathlib.Logic.Function.Basic
import Mathlib.Logic.Nontrivial.Defs
import Mathlib.Tactic.ByContra

/-!
# Banks in a linear memory

A memory larger than the window through which it is seen is cut into banks.  `bankIndex` lays the
banks one after the other.  `shiftIndex` is what comes out when the offset is shifted left by the
bank number instead, in a machine word of so many bits.  The two never agree on a bank other than
0 (`shiftIndex_ne_bankIndex`), and shifted offsets fit into a memory exactly when the last of the
window does (`forall_shiftIndex_lt_iff`).

A `BankedMemory` is anything with a bank to select and addresses to store to and load from.  Where
it goes through a map of banks and addresses to cells, it keeps two of them apart exactly where
the map does (`BankedMemory.Maps.isolated_iff`).

The two halves of the module answer two questions about a controller with banks.  One is about the
map: which cells does it use, are they inside the memory, are they those that the layout of the
banks prescribes?  These are facts about natural numbers, with the width of the window and of the
machine word as parameters.  The other is about the protocol: a bank is selected, a byte is
stored, another bank is selected, and a byte is loaded.  Whether what has been stored in one bank
can be seen in another depends on nothing but whether the map sends the two places to one cell,
provided that selecting does not touch the contents and that storing and loading go through the
map.  `Maps` lists these conditions, for the states in an invariant, so that a concrete controller
has to be taken apart once and no more.

The direction from isolation to injectivity needs a memory in which there are two different values
to store, hence the `Nontrivial` in `Maps.isolated_iff`.
-/

set_option autoImplicit false

/-- The cell of an offset in a bank, with banks of `size` cells laid one after the other.  This is
where the offset should be looked for. -/
def bankIndex (size bank offset : ℕ) : ℕ := bank * size + offset

/-- An offset shifted left by the bank number, in a word of `bits` bits.  For bank 0 it is the
offset itself; for larger numbers the bits at the top fall out of the word. -/
def shiftIndex (bits bank offset : ℕ) : ℕ := offset * 2 ^ bank % 2 ^ bits

/-- A shift that stays in the word is a multiplication. -/
theorem shiftIndex_of_lt {bits bank offset : ℕ} (h : offset * 2 ^ bank < 2 ^ bits) :
    shiftIndex bits bank offset = offset * 2 ^ bank := Nat.mod_eq_of_lt h

/-- A window of less than half the word's bits, shifted by less than its own width, stays in the
word. -/
theorem mul_two_pow_lt {bits width bank offset : ℕ} (hbits : bank + width ≤ bits)
    (h : offset < 2 ^ width) : offset * 2 ^ bank < 2 ^ bits := by
  calc offset * 2 ^ bank < 2 ^ width * 2 ^ bank := Nat.mul_lt_mul_of_pos_right h (Nat.two_pow_pos _)
    _ = 2 ^ (bank + width) := by rw [Nat.pow_add, Nat.mul_comm]
    _ ≤ 2 ^ bits := Nat.pow_le_pow_right (by decide) hbits

/-- **A shift is not a bank**: whatever the amount, no shifted offset is the cell of that offset in
a bank other than 0. -/
theorem shiftIndex_ne_bankIndex {bits width bank shift offset : ℕ} (hbits : 2 * width ≤ bits)
    (hbank : bank ≠ 0) (hoffset : offset < 2 ^ width) :
    shiftIndex bits shift offset ≠ bankIndex (2 ^ width) bank offset := by
  intro heq
  rcases Nat.lt_or_ge shift width with hshift | hshift
  · -- nothing is shifted out, so `offset * (2 ^ shift - 1)` is a multiple of the window's size;
    -- the odd factor has to divide the bank, and then the offset is too large
    have hlt : offset * 2 ^ shift < 2 ^ bits := mul_two_pow_lt (by omega) hoffset
    rw [shiftIndex_of_lt hlt, bankIndex] at heq
    have hmul : offset * (2 ^ shift - 1) = bank * 2 ^ width := by
      rw [Nat.mul_sub, heq, Nat.mul_one, Nat.add_sub_cancel]
    have hcoprime : Nat.Coprime (2 ^ shift - 1) (2 ^ width) := by
      rcases Nat.eq_zero_or_pos shift with rfl | hpos
      · -- a shift by nothing would make the bank 0
        simp only [Nat.pow_zero, Nat.sub_self, Nat.mul_zero] at hmul
        exact absurd hmul.symm (Nat.mul_ne_zero hbank (Nat.ne_of_gt (Nat.two_pow_pos _)))
      · -- next to each other, the two powers' predecessor and the power have no common factor
        have hnext : 2 ^ shift - 1 + 1 = 2 ^ shift := Nat.sub_add_cancel Nat.one_le_two_pow
        have hself : Nat.Coprime (2 ^ shift - 1) (2 ^ shift) := by
          rw [← hnext, Nat.add_sub_cancel, Nat.Coprime, Nat.gcd_self_add_right, Nat.gcd_one_right]
        exact (hself.coprime_dvd_right (Nat.pow_dvd_pow 2 hpos)).pow_right width
    have hdvd : 2 ^ shift - 1 ∣ bank :=
      hcoprime.dvd_of_dvd_mul_right (hmul ▸ Nat.dvd_mul_left _ _)
    obtain ⟨k, rfl⟩ := hdvd
    have hk : offset = k * 2 ^ width := by
      have hpos : 0 < 2 ^ shift - 1 := Nat.pos_of_ne_zero fun h ↦ hbank (by rw [h, Nat.zero_mul])
      refine Nat.eq_of_mul_eq_mul_right hpos ?_
      rw [hmul, Nat.mul_comm, Nat.mul_comm (2 ^ shift - 1), Nat.mul_left_comm, Nat.mul_assoc]
    have hk0 : k ≠ 0 := fun h ↦ hbank (by rw [h, Nat.mul_zero])
    have : 2 ^ width ≤ k * 2 ^ width := Nat.le_mul_of_pos_left _ (Nat.pos_of_ne_zero hk0)
    omega
  · -- the window's bits are shifted out at the bottom, so the offset is a multiple of its size
    have hdvd : 2 ^ width ∣ shiftIndex bits shift offset :=
      (Nat.dvd_mod_iff (Nat.pow_dvd_pow 2 (by omega))).2
        (Nat.dvd_mul_left_of_dvd (Nat.pow_dvd_pow 2 hshift) _)
    rw [heq, bankIndex, Nat.dvd_add_right (Nat.dvd_mul_left _ _)] at hdvd
    obtain rfl := Nat.eq_zero_of_dvd_of_lt hdvd hoffset
    rw [shiftIndex, Nat.zero_mul, Nat.zero_mod, bankIndex, Nat.add_zero] at heq
    exact absurd heq.symm (Nat.mul_ne_zero hbank (Nat.ne_of_gt (Nat.two_pow_pos _)))

/-- **Shifted offsets fit** into a memory exactly when the last offset of the window does, shifted
without loss. -/
theorem forall_shiftIndex_lt_iff {bits width bank size : ℕ} (hwidth : 0 < width)
    (hbits : width < bits) (hsize : size ≤ 2 ^ (bits - 1)) :
    (∀ offset < 2 ^ width, bank < bits ∧ shiftIndex bits bank offset < size) ↔
      (2 ^ width - 1) * 2 ^ bank < size := by
  have hpos : 0 < 2 ^ width := Nat.two_pow_pos width
  constructor
  · intro h
    by_contra hlast
    obtain ⟨hbank, -⟩ := h 0 hpos
    rcases Nat.lt_or_ge ((2 ^ width - 1) * 2 ^ bank) (2 ^ bits) with hlt | hge
    · have := (h (2 ^ width - 1) (by omega)).2
      rw [shiftIndex_of_lt hlt] at this
      omega
    · -- some offset with a single bit is shifted to the top of the word
      have hover : bits - 1 - bank < width := by
        by_contra hcon
        have : (2 ^ width - 1) * 2 ^ bank < 2 ^ bits :=
          mul_two_pow_lt (by omega) (Nat.sub_lt hpos Nat.one_pos)
        omega
      have htop : 2 ^ (bits - 1 - bank) * 2 ^ bank = 2 ^ (bits - 1) := by
        rw [← Nat.pow_add]
        congr 1
        omega
      have := (h _ (Nat.pow_lt_pow_right (by decide) hover)).2
      rw [shiftIndex_of_lt (by rw [htop]; exact Nat.pow_lt_pow_right (by decide) (by omega)),
        htop] at this
      omega
  · intro hlast offset hoffset
    have hle : offset * 2 ^ bank ≤ (2 ^ width - 1) * 2 ^ bank :=
      Nat.mul_le_mul_right _ (by omega)
    have hword : 2 ^ (bits - 1) < 2 ^ bits := Nat.pow_lt_pow_right (by decide) (by omega)
    have hone : 1 ≤ 2 ^ width - 1 := by
      have : 2 ^ 1 ≤ 2 ^ width := Nat.pow_le_pow_right (by decide) hwidth
      omega
    have hbank : 2 ^ bank < 2 ^ bits := by
      have := Nat.mul_le_mul_right (2 ^ bank) hone
      omega
    refine ⟨(Nat.pow_lt_pow_iff_right (by decide)).1 hbank, ?_⟩
    rw [shiftIndex_of_lt (by omega)]
    omega

/-- Storing through a map of addresses `index` is seen at the address and nowhere else, whatever is
stored, exactly where the map tells the two addresses apart. -/
theorem forall_update_apply_iff {α ι κ : Type*} [DecidableEq κ] [DecidableEq ι] [Nontrivial α]
    (memory : κ → α) (index : ι → κ) (x y : ι) :
    (∀ v, Function.update memory (index x) v (index y) = if y = x then v else memory (index y)) ↔
      y = x ∨ index y ≠ index x := by
  constructor
  · intro h
    by_contra hcon
    obtain ⟨hne, heq⟩ := not_or.1 hcon
    rw [not_not] at heq
    obtain ⟨v, hv⟩ := exists_ne (memory (index y))
    have := h v
    rw [if_neg hne, heq, Function.update_self] at this
    rw [heq] at hv
    exact hv this
  · rintro (rfl | hne) v
    · rw [if_pos rfl, Function.update_self]
    · rw [Function.update_of_ne hne, if_neg fun h ↦ hne (congrArg index h)]

/-! ## Memories with banks -/

/-- A memory seen through a window: first a bank is selected, then addresses are used. -/
structure BankedMemory (σ β α ω : Type*) where
  select : σ → β → σ
  store : σ → α → ω → σ
  load : σ → α → ω

namespace BankedMemory

variable {σ β α ω κ : Type*} {M : BankedMemory σ β α ω}

/-- What is stored at `x`, a bank and an address, is loaded from there, and at `y` elsewhere there
is what would have been there without the store.  The bank is selected anew before each access.
It is stated for two places at a time, so that a memory may be partly isolated. -/
def Isolated [DecidableEq β] [DecidableEq α] (M : BankedMemory σ β α ω) (s : σ)
    (x y : β × α) : Prop :=
  ∀ v, M.load (M.select (M.store (M.select s x.1) x.2 v) y.1) y.2 =
    if y = x then v else M.load (M.select (M.select s x.1) y.1) y.2

/-- In the states `I`, the banks and addresses `valid` are mapped to cells by `index`: selecting
changes the bank and not the contents, storing updates one cell, and loading reads one.  Selecting
and storing stay among the states `I`; loading changes no state, as its type says. -/
structure Maps [DecidableEq κ] (M : BankedMemory σ β α ω) (I : σ → Prop) (valid : β × α → Prop)
    (bank : σ → β) (contents : σ → κ → ω) (index : β × α → κ) : Prop where
  select : ∀ {s b a}, I s → valid (b, a) →
    I (M.select s b) ∧ bank (M.select s b) = b ∧ contents (M.select s b) = contents s
  store : ∀ {s a}, I s → valid (bank s, a) → ∀ v, I (M.store s a v) ∧
    contents (M.store s a v) = Function.update (contents s) (index (bank s, a)) v
  load : ∀ {s a}, I s → valid (bank s, a) → M.load s a = contents s (index (bank s, a))

/-- **Banks are isolated** exactly where the map is injective.  This is for two given places, so
that a map that is injective on some of them can be used there. -/
theorem Maps.isolated_iff [DecidableEq β] [DecidableEq α] [DecidableEq κ] [Nontrivial ω]
    {I : σ → Prop} {valid : β × α → Prop} {bank : σ → β} {contents : σ → κ → ω} {index : β × α → κ}
    (h : M.Maps I valid bank contents index) {s : σ} (hs : I s) {x y : β × α} (hx : valid x)
    (hy : valid y) : M.Isolated s x y ↔ y = x ∨ index y ≠ index x := by
  rw [← forall_update_apply_iff (contents s) index x y]
  obtain ⟨b, a⟩ := x
  obtain ⟨b', a'⟩ := y
  obtain ⟨hI, hbank, hcontents⟩ := h.select hs hx
  obtain ⟨hI', hbank', hcontents'⟩ := h.select hI hy
  refine forall_congr' fun v ↦ ?_
  obtain ⟨hstored, hupdate⟩ := h.store hI (hbank.symm ▸ hx) v
  obtain ⟨hIy, hbanky, hcontentsy⟩ := h.select hstored hy
  rw [h.load hIy (hbanky.symm ▸ hy), h.load hI' (hbank'.symm ▸ hy), hbanky, hbank', hcontentsy,
    hcontents', hupdate, hbank, hcontents]

end BankedMemory
