import GameBloat.Cartridge.Accesses
import GameBloat.Memory.Law

/-!
# Refused stores

`mmuWriteByte` answers 0 to a store that it refuses, and then nothing should have changed.
`Refused` lists these stores.  There is one among them that is carried out all the same: `MBC3.c`
stores to the RAM and falls through to its `return 0x00`.

`mmuWriteShort` answers for its second byte alone, so it hides that the first was refused.  That
happens where refused addresses end, and for the bank register of MBC3, which refuses by value.

The machine has one of the three controllers that are implemented (`Machine.HasController`); the
address, the value and the rest of the state are arbitrary.  `Answers` relates a result to what is
refused and to what a refusal leaves, and it goes through the tests of a function branch by
branch: one lemma for a branch that accepts, one for a branch that refuses, and one for the test.
The answers of the controllers, and then of the memory map, are assembled from these three.

For two bytes the second store is made in the state that the first has left, also where the first
was refused.  That such a state refuses the same stores (`refused_afterRefusal`) is what makes the
condition for the pair, `HidesRefusal`, one on the state before both.

`refusals_iff` has the two exact conditions side by side: a byte is unchanged by a refused store
unless it is stored anyway, and differs from what was there; and a short store is honest unless it
hides a refusal.
-/

set_option autoImplicit false

namespace GameBloat

open Function (update)

/-- The machine has one of the controllers that are implemented. -/
def Machine.HasController (m : Machine) : Prop :=
  m.controller = some .mbcNone ∨ m.controller = some .mbc1 ∨ m.controller = some .mbc3

/-- The clock of MBC3 takes what is stored to the window of the RAM. -/
def MBC3State.ClockSelected (s : MBC3State) : Prop :=
  s.RAM_TimerEnable ≠ 0 ∧ s.RTCAccessMode = mbc3RtcMode ∧ 0x08 ≤ s.RTCRegisterSelect.toNat ∧
    s.RTCRegisterSelect.toNat ≤ 0x0C

/-- The RAM of MBC3 takes it. -/
def MBC3State.RamSelected (s : MBC3State) : Prop :=
  s.RAM_TimerEnable ≠ 0 ∧ s.RTCAccessMode = mbc3RamMode

instance (s : MBC3State) : Decidable s.RamSelected := inferInstanceAs (Decidable (_ ∧ _))

/-- The byte of the RAM that MBC3 stores to. -/
def MBC3State.ramIndex (s : MBC3State) (address : Word) : ℕ :=
  ((address - 0xA000) <<< s.RAMBankNumber.toNat).toNat

/-! ## Answers -/

/-- A result `r` with its answer: it is 0 if the store is `refused`, and then what is left is
`kept`. -/
def Answers {α : Type} (r : α × ℕ) (refused : Prop) (kept : α) : Prop :=
  (r.2 = 0 ↔ refused) ∧ (refused → r.1 = kept)

namespace Answers

variable {α β : Type} {r r' : α × ℕ} {refused : Prop} {kept : α}

/-- A branch that accepts. -/
theorem accept {x : α} (h : ¬refused) : Answers (x, 1) refused kept :=
  ⟨iff_of_false Nat.one_ne_zero h, fun h' ↦ absurd h' h⟩

/-- A branch that refuses. -/
theorem refuse (h : refused) : Answers (kept, 0) refused kept :=
  ⟨iff_of_true rfl h, fun _ ↦ rfl⟩

/-- A test. -/
theorem ite {c : Prop} [Decidable c] (hc : c → Answers r refused kept)
    (hn : ¬c → Answers r' refused kept) : Answers (if c then r else r') refused kept :=
  iteInduction (motive := fun r : α × ℕ ↦ Answers r refused kept) hc hn

/-- The answer is passed on, and the result becomes part of a larger one. -/
theorem map (h : Answers r refused kept) (f : α → β) : Answers (f r.1, r.2) refused (f kept) :=
  ⟨h.1, fun h' ↦ congrArg f (h.2 h')⟩

/-- Another way to say what is refused. -/
theorem congr {refused' : Prop} (h : Answers r refused kept) (hiff : refused ↔ refused') :
    Answers r refused' kept := ⟨h.1.trans hiff, fun h' ↦ h.2 (hiff.2 h')⟩

end Answers

/-! ## The answers of the controllers -/

section

variable (c : Cartridge) {address : Word} (value : Byte)

/-- Without a controller nothing is refused. -/
theorem mbcNoneWriteByte_answers :
    Answers (mbcNoneWriteByte c address value) False c := by
  rw [mbcNoneWriteByte]
  exact .ite (fun _ ↦ .accept id) fun _ ↦ .accept id

/-- The clock refuses a number that no register has. -/
theorem writeToRTCRegister_answers (s : MBC3State) (time : ℤ) :
    Answers (writeToRTCRegister s time value)
      (¬(0x08 ≤ s.RTCRegisterSelect.toNat ∧ s.RTCRegisterSelect.toNat ≤ 0x0C)) s := by
  have hselect (register : Byte) (h : s.RTCRegisterSelect = register)
      (hregister : 0x08 ≤ register.toNat ∧ register.toNat ≤ 0x0C) {x : MBC3State} :
      Answers (x, 1) (¬(0x08 ≤ s.RTCRegisterSelect.toNat ∧ s.RTCRegisterSelect.toNat ≤ 0x0C)) s :=
    .accept (not_not.2 (h ▸ hregister))
  rw [writeToRTCRegister]
  refine .ite (fun h ↦ hselect _ h (by decide)) fun hseconds ↦ ?_
  refine .ite (fun h ↦ hselect _ h (by decide)) fun hminutes ↦ ?_
  refine .ite (fun h ↦ hselect _ h (by decide)) fun hhours ↦ ?_
  refine .ite (fun h ↦ hselect _ h (by decide)) fun hdayLower ↦ ?_
  refine .ite (fun h ↦ ?_) fun hdayUpper ↦ .refuse fun hrange ↦ ?_
  · exact .ite (fun _ ↦ .ite (fun _ ↦ hselect _ h (by decide)) fun _ ↦ hselect _ h (by decide))
      fun _ ↦ hselect _ h (by decide)
  · simp only [rtcSeconds, rtcMinutes, rtcHours, rtcDayLower, rtcDayUpper] at *
    bv_omega

variable (hcart : OnCartridge address)

include hcart

/-- MBC1 refuses a store to RAM that is locked. -/
theorem mbc1WriteByte_answers (s : MBC1State) :
    Answers (mbc1WriteByte c s address value)
      (0xA000 ≤ address.toNat ∧ s.RAMEnable = 0) (c, s) := by
  rw [OnCartridge] at hcart
  have below {x : Cartridge × MBC1State} (h : address.toNat < 0x8000) :
      Answers (x, 1) (0xA000 ≤ address.toNat ∧ s.RAMEnable = 0) (c, s) :=
    .accept fun h' ↦ by omega
  rw [mbc1WriteByte]
  refine .ite (fun h ↦ .ite (fun _ ↦ below (by omega)) fun _ ↦ below (by omega)) fun _ ↦ ?_
  refine .ite (fun h ↦ .ite (fun _ ↦ below (by omega)) fun _ ↦
    .ite (fun _ ↦ below (by omega)) fun _ ↦ below (by omega)) fun _ ↦ ?_
  refine .ite (fun h ↦ below (by omega)) fun _ ↦ ?_
  refine .ite (fun h ↦ below (by omega)) fun _ ↦ ?_
  refine .ite (fun h ↦ ?_) fun h ↦ by omega
  exact .ite (fun hunlocked ↦ .accept fun h' ↦ hunlocked h'.2) fun hlocked ↦
    .refuse ⟨h.1, not_not.1 hlocked⟩

/-- A store to the RAM of MBC3 is answered with 0, but carried out. -/
theorem mbc3WriteByte_answers (s : MBC3State) (time : ℤ) :
    Answers (mbc3WriteByte c s time address value)
      ((0x4000 ≤ address.toNat ∧ address.toNat < 0x6000 ∧ 0x0C < value.toNat) ∨
        (0xA000 ≤ address.toNat ∧ ¬s.ClockSelected))
      (if 0xA000 ≤ address.toNat ∧ s.RamSelected then
        { c with ram := update c.ram (s.ramIndex address) value } else c, s) := by
  rw [OnCartridge] at hcart
  have hkept (h : ¬(0xA000 ≤ address.toNat ∧ s.RamSelected)) :
      (if 0xA000 ≤ address.toNat ∧ s.RamSelected then
        { c with ram := update c.ram (s.ramIndex address) value } else c) = c := if_neg h
  rw [mbc3WriteByte]
  refine .ite (fun h ↦ ?_) fun _ ↦ ?_
  · exact .ite (fun _ ↦ .accept fun h' ↦ by omega) fun _ ↦ .accept fun h' ↦ by omega
  refine .ite (fun h ↦ ?_) fun _ ↦ ?_
  · exact .ite (fun _ ↦ .accept fun h' ↦ by omega) fun _ ↦ .accept fun h' ↦ by omega
  refine .ite (fun h ↦ ?_) fun _ ↦ ?_
  · refine .ite (fun _ ↦ .accept fun h' ↦ by omega) fun _ ↦ ?_
    refine .ite (fun _ ↦ .accept fun h' ↦ by omega) fun _ ↦ ?_
    rw [hkept fun h' ↦ by omega]
    exact .refuse (.inl ⟨by omega, by omega, by omega⟩)
  refine .ite (fun h ↦ ?_) fun _ ↦ ?_
  · exact .ite (fun _ ↦ .accept fun h' ↦ by omega) fun _ ↦ .accept fun h' ↦ by omega
  refine .ite (fun h ↦ ?_) fun h ↦ by omega
  refine .ite (fun hunlocked ↦ ?_) fun hlocked ↦ ?_
  · refine .ite (fun hram ↦ ?_) fun hram ↦ ?_
    · rw [if_pos ⟨h.1, hunlocked, hram⟩]
      exact .refuse (.inr ⟨h.1, fun hclock ↦ absurd (hram.symm.trans hclock.2.1) (by decide)⟩)
    · rw [hkept fun h' ↦ hram h'.2.2]
      refine .ite (fun hclock ↦ ?_) fun hclock ↦ .refuse (.inr ⟨h.1, fun h' ↦ hclock h'.2.1⟩)
      refine ((writeToRTCRegister_answers value s time).map fun s ↦ (c, s)).congr ?_
      rw [MBC3State.ClockSelected, and_iff_right hunlocked, and_iff_right hclock]
      exact ⟨fun h' ↦ .inr ⟨h.1, h'⟩, fun h' ↦ h'.elim (fun h' ↦ by omega) And.right⟩
  · rw [hkept fun h' ↦ hlocked h'.2.1]
    exact .refuse (.inr ⟨h.1, fun h' ↦ hlocked h'.1⟩)

end

/-! ## The answers of the memory map -/

/-- Neither RAM nor clock accept a store to the window of the RAM. -/
def Machine.WindowRefuses (m : Machine) : Prop :=
  (m.controller = some .mbc1 ∧ m.mbc1.RAMEnable = 0) ∨
    (m.controller = some .mbc3 ∧ ¬m.mbc3.ClockSelected)

/-- The stores that are answered with 0: to the unusable area; to the window of the RAM; and to
the bank register of MBC3, with a value that is neither a bank nor a register of the clock.  The
first of these is refused by the map itself, and the others by the controller. -/
def Refused (m : Machine) (address : Word) (value : Byte) : Prop :=
  (0xFEA0 ≤ address.toNat ∧ address.toNat < 0xFF00) ∨
  (0xA000 ≤ address.toNat ∧ address.toNat < 0xC000 ∧ m.WindowRefuses) ∨
  (m.controller = some .mbc3 ∧ 0x4000 ≤ address.toNat ∧ address.toNat < 0x6000 ∧
    0x0C < value.toNat)

/-- The store among them that is carried out. -/
def StoredAnyway (m : Machine) (address : Word) : Prop :=
  m.controller = some .mbc3 ∧ 0xA000 ≤ address.toNat ∧ address.toNat < 0xC000 ∧
    m.mbc3.RamSelected

instance (m : Machine) (address : Word) : Decidable (StoredAnyway m address) :=
  inferInstanceAs (Decidable (_ ∧ _))

/-- What a refused store leaves. -/
def afterRefusal (m : Machine) (address : Word) (value : Byte) : Machine :=
  if StoredAnyway m address then
    { m with cartridge.ram := update m.cartridge.ram (m.mbc3.ramIndex address) value }
  else m

/-- The answers through the pointer to the controller. -/
theorem mbcWrite_answers {m : Machine} (hm : m.HasController) {address : Word}
    (hcart : OnCartridge address) (value : Byte) :
    Answers (mbcWrite m address value) (Refused m address value)
      (afterRefusal m address value) := by
  have hrange := hcart
  rw [OnCartridge] at hrange
  have hkept (h : m.controller ≠ some .mbc3) : afterRefusal m address value = m :=
    if_neg fun h' ↦ h h'.1
  rw [Refused, Machine.WindowRefuses]
  rcases hm with hm | hm | hm
  · rw [mbcWrite, hkept (by simp [hm]), hm]
    refine ((mbcNoneWriteByte_answers m.cartridge value).map
      fun cartridge ↦ { m with cartridge }).congr ?_
    simp only [Option.some.injEq, reduceCtorEq, false_and, or_false, and_false]
    exact iff_of_false id fun h ↦ by omega
  · rw [mbcWrite, hkept (by simp [hm]), hm]
    refine ((mbc1WriteByte_answers m.cartridge value hcart m.mbc1).map
      fun s ↦ { m with cartridge := s.1, mbc1 := s.2 }).congr ?_
    simp only [Option.some.injEq, reduceCtorEq, false_and, or_false, true_and]
    constructor
    · exact fun h ↦ .inr ⟨h.1, by omega, h.2⟩
    · rintro (h | h)
      · omega
      · exact ⟨h.1, h.2.2⟩
  · have hanswers := ((mbc3WriteByte_answers m.cartridge value hcart m.mbc3 m.time).map
      fun s ↦ { m with cartridge := s.1, mbc3 := s.2 })
    have hafter : afterRefusal m address value =
        { m with cartridge := if 0xA000 ≤ address.toNat ∧ m.mbc3.RamSelected then
            { m.cartridge with
              ram := update m.cartridge.ram (m.mbc3.ramIndex address) value }
            else m.cartridge } := by
      rw [afterRefusal]
      by_cases h : 0xA000 ≤ address.toNat ∧ m.mbc3.RamSelected
      · rw [if_pos h, if_pos ⟨hm, h.1, by omega, h.2⟩]
      · rw [if_neg h, if_neg fun h' ↦ h ⟨h'.2.1, h'.2.2.2⟩]
    rw [mbcWrite, hafter, hm]
    refine hanswers.congr ?_
    simp only [Option.some.injEq, reduceCtorEq, false_and, false_or, true_and]
    constructor
    · rintro (h | h)
      · exact .inr (.inr h)
      · exact .inr (.inl ⟨h.1, by omega, h.2⟩)
    · rintro (h | h | h)
      · omega
      · exact .inr ⟨h.1, h.2.2⟩
      · exact .inl h

/-- Video RAM refuses nothing. -/
theorem gpuWriteByte_answers (g : Gpu) {address : Word} (hlo : 0x8000 ≤ address.toNat)
    (hhi : address.toNat < 0xA000) (value : Byte) :
    Answers (gpuWriteByte g address value) False g := by
  have hoffset : (address - 0x8000).toNat < 0x2000 := by bv_omega
  rw [gpuWriteByte]
  refine .ite (fun _ ↦ ?_) fun h ↦ absurd hoffset h
  exact .ite (fun _ ↦ .accept id) fun _ ↦ .accept id

/-- **The answers of `mmuWriteByte`.** -/
theorem mmuWriteByte_answers {m : Machine} (hm : m.HasController) (address : Word) (value : Byte) :
    Answers (mmuWriteByte m address value) (Refused m address value)
      (afterRefusal m address value) := by
  by_cases hcart : OnCartridge address
  · have hwrite : mmuWriteByte m address value = mbcWrite m address value := by
      rw [mmuWriteByte]
      rcases hcart with h | ⟨hlo, hhi⟩
      · rw [if_pos h]
      · rw [if_neg (by omega), if_neg (by omega), if_pos hhi]
    exact hwrite ▸ mbcWrite_answers hm hcart value
  have hrange := hcart
  rw [OnCartridge] at hrange
  have hkept : afterRefusal m address value = m := if_neg fun h ↦ hcart (.inr ⟨h.2.1, h.2.2.1⟩)
  have hrefused : 0xFEA0 ≤ address.toNat ∧ address.toNat < 0xFF00 ↔ Refused m address value := by
    rw [Refused]
    exact ⟨.inl, fun h ↦ by omega⟩
  rw [mmuWriteByte, hkept, if_neg (by omega)]
  refine Answers.congr ?_ hrefused
  refine .ite (fun h ↦ ?_) fun _ ↦ ?_
  · refine ((gpuWriteByte_answers m.gpu (by omega) h value).map fun gpu ↦ { m with gpu }).congr ?_
    exact iff_of_false id fun h' ↦ by omega
  refine .ite (fun h ↦ by omega) fun _ ↦ ?_
  refine .ite (fun _ ↦ .accept fun h ↦ by omega) fun _ ↦ ?_
  refine .ite (fun _ ↦ .accept fun h ↦ by omega) fun _ ↦ ?_
  refine .ite (fun _ ↦ .accept fun h ↦ by omega) fun _ ↦ ?_
  refine .ite (fun h ↦ .refuse ⟨by omega, h⟩) fun _ ↦ ?_
  refine .ite (fun _ ↦ ?_) fun _ ↦ ?_
  · refine .ite (fun _ ↦ .accept fun h ↦ by omega) fun _ ↦ ?_
    exact .ite (fun _ ↦ .accept fun h ↦ by omega) fun _ ↦ .accept fun h ↦ by omega
  · exact .ite (fun _ ↦ .accept fun h ↦ by omega) fun _ ↦ .accept fun h ↦ by omega

/-! ## What an answer of 0 says -/

/-- **A refused store changes nothing** exactly if it is none of those that are carried out, or
stores what is there already. -/
theorem unchanged_iff {m : Machine} (hm : m.HasController) (address : Word) (value : Byte) :
    ((mmuWriteByte m address value).2 = 0 → (mmuWriteByte m address value).1 = m) ↔
      (StoredAnyway m address → m.cartridge.ram (m.mbc3.ramIndex address) = value) := by
  obtain ⟨hanswer, hafter⟩ := mmuWriteByte_answers hm address value
  rw [hanswer]
  by_cases hstored : StoredAnyway m address
  · have hrefused : Refused m address value := by
      refine .inr (.inl ⟨hstored.2.1, hstored.2.2.1, .inr ⟨hstored.1, fun hclock ↦ ?_⟩⟩)
      exact absurd (hstored.2.2.2.2.symm.trans hclock.2.1) (by decide)
    rw [hafter hrefused, afterRefusal, if_pos hstored, forall_prop_of_true hrefused,
      forall_prop_of_true hstored]
    constructor
    · intro h
      have hram := congrFun (congrArg (fun m : Machine ↦ m.cartridge.ram) h)
        (m.mbc3.ramIndex address)
      exact hram.symm.trans (Function.update_self _ _ _)
    · intro h
      have hram : update m.cartridge.ram (m.mbc3.ramIndex address) value = m.cartridge.ram :=
        Function.update_eq_self_iff.2 h.symm
      rw [hram]
  · refine iff_of_true (fun h ↦ ?_) fun h ↦ absurd h hstored
    rw [hafter h, afterRefusal, if_neg hstored]

/-- A short store whose first byte is refused and whose second is not. -/
def HidesRefusal (m : Machine) (address value : Word) : Prop :=
  address = 0xFEFF ∨ (address = 0xBFFF ∧ m.WindowRefuses) ∨
  (m.controller = some .mbc3 ∧ 0x4000 ≤ address.toNat ∧ address.toNat < 0x6000 ∧
    0x0C < (lowByte value).toNat ∧ (address = 0x5FFF ∨ (highByte value).toNat ≤ 0x0C))

/-- What decides about a refusal survives one. -/
theorem refused_afterRefusal (m : Machine) (address address' : Word) (value value' : Byte) :
    Refused (afterRefusal m address value) address' value' ↔ Refused m address' value' := by
  rw [afterRefusal]
  split <;> exact Iff.rfl

/-- The addresses and values for which the first byte is refused and the second is not. -/
theorem hidesRefusal_iff (m : Machine) (address value : Word) :
    HidesRefusal m address value ↔ Refused m address (lowByte value) ∧
      ¬Refused m (address + 1) (highByte value) := by
  have hnext : (address + 1).toNat = (address.toNat + 1) % 65536 := BitVec.toNat_add _ _
  have hlt := address.isLt
  have heq (w : Word) : address = w ↔ address.toNat = w.toNat := BitVec.toNat_inj.symm
  have hFEFF : (0xFEFF : Word).toNat = 0xFEFF := rfl
  have hBFFF : (0xBFFF : Word).toNat = 0xBFFF := rfl
  have h5FFF : (0x5FFF : Word).toNat = 0x5FFF := rfl
  rw [HidesRefusal, Refused, Refused, heq, heq, heq, hFEFF, hBFFF, h5FFF, hnext]
  by_cases hwindow : m.WindowRefuses <;> by_cases hmbc3 : m.controller = some .mbc3 <;>
    simp only [hwindow, hmbc3, and_true, and_false, true_and, false_and, or_false,
      false_or] <;>
    omega

/-- **A short store reports a refusal** exactly if it does not hide one. -/
theorem mmuWriteShort_reports_iff {m : Machine} (hm : m.HasController) (address value : Word) :
    ((mmuWriteShort m address value).2 ≠ 0 →
      (mmuWriteByte m address (lowByte value)).2 ≠ 0 ∧
        (mmuWriteByte (storeByte m address (lowByte value)) (address + 1)
          (highByte value)).2 ≠ 0) ↔ ¬HidesRefusal m address value := by
  obtain ⟨hfirst, hafter⟩ := mmuWriteByte_answers hm address (lowByte value)
  have hm' : (storeByte m address (lowByte value)).HasController := by
    rw [Machine.HasController, storeByte_controller]
    exact hm
  have hsecond := (mmuWriteByte_answers hm' (address + 1) (highByte value)).1
  rw [mmuWriteShort_eq, hidesRefusal_iff, ne_eq, ne_eq, hfirst, hsecond]
  by_cases hrefused : Refused m address (lowByte value)
  · have hstore : storeByte m address (lowByte value) = afterRefusal m address (lowByte value) :=
      hafter hrefused
    rw [hstore, refused_afterRefusal]
    constructor
    · exact fun h hhides ↦ (h hhides.2).1 hrefused
    · exact fun h haccepted ↦ absurd ⟨hrefused, haccepted⟩ h
  · exact iff_of_true (fun h ↦ ⟨hrefused, h⟩) fun h ↦ hrefused h.1

/-- The power-on machine with an MBC3 and 8 KB of RAM, enabled. -/
def enabledMachine : Machine :=
  { Machine.powerOn with
    MBC := some .mbc3
    mbc3.RAM_TimerEnable := 1
    cartridge := { Machine.powerOn.cartridge with ramLength := 0x2000, mbc := true } }

/-- A byte is stored to the RAM, and refused; and a refusal at the end of the unusable area is
hidden. -/
theorem refusals_misreported :
    enabledMachine.controller = some .mbc3 ∧
      (mmuWriteByte enabledMachine 0xA000 0x42).2 = 0 ∧
      (mmuWriteByte enabledMachine 0xA000 0x42).1.cartridge.ram 0 ≠
        enabledMachine.cartridge.ram 0 ∧
      (mmuWriteShort enabledMachine 0xFEFF 0x0000).2 ≠ 0 ∧
      (mmuWriteByte enabledMachine 0xFEFF 0x00).2 = 0 := by
  decide

/-- **When refusals are told truly**: a byte is unchanged if its store is refused, except where MBC3
stores to its RAM, and two bytes are both accepted if they are said to be, except where the second
hides that the first was refused. -/
theorem refusals_iff {m : Machine} (hm : m.HasController) (address : Word) (value : Byte)
    (value' : Word) :
    (((mmuWriteByte m address value).2 = 0 → (mmuWriteByte m address value).1 = m) ↔
      (StoredAnyway m address → m.cartridge.ram (m.mbc3.ramIndex address) = value)) ∧
    (((mmuWriteShort m address value').2 ≠ 0 →
      (mmuWriteByte m address (lowByte value')).2 ≠ 0 ∧
        (mmuWriteByte (storeByte m address (lowByte value')) (address + 1)
          (highByte value')).2 ≠ 0) ↔ ¬HidesRefusal m address value') :=
  ⟨unchanged_iff hm address value, mmuWriteShort_reports_iff hm address value'⟩

/-- A bank register that is set to a value that is no bank. -/
theorem refusals_iff_bank :
    (mmuWriteByte enabledMachine 0x4000 0x55).2 = 0 ∧
      (mmuWriteByte enabledMachine 0x4000 0x55).1 = enabledMachine := by
  have hm : enabledMachine.HasController := .inr (.inr rfl)
  have hrefused : (mmuWriteByte enabledMachine 0x4000 0x55).2 = 0 := by decide
  have hunchanged := (refusals_iff hm 0x4000 0x55 0).1.2 fun h ↦ absurd h.2.1 (by decide)
  exact ⟨hrefused, hunchanged hrefused⟩

end GameBloat
