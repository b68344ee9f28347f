import GameBloat.Cartridge.Accesses
import GameBloat.Cartridge.BankRegisters

/-!
# The lock of the cartridge's RAM

MBC1 and MBC3 change the RAM only while it is unlocked, and MBC3 only while a RAM bank is
selected.  The lock is documented to open for the values whose low nibble is `0x0A`.  The code
tests the bits of `0x0A` alone, so it opens for the low nibbles `0x0B`, `0x0E` and `0x0F` as well.
`ram_write_protected_iff` says that this is all: over any history of writes, the protection holds
unless the last write to the lock was one of these.

The protection is a statement about a history of stores and one more store, to any address and of
any value: if this changes a byte of the RAM, then it goes to the window of the RAM, the last
value stored to the lock has low nibble `0x0A`, and with MBC3 a RAM bank was selected last.
Nothing is said of the registers of the controller, which are an invention of the code.

The proof goes through them.  A store changes the RAM for some value if and only if it goes to the
window while the registers are unlocked (`exists_ram_changed_iff`, from the footprint of a store),
and the registers follow the history (`ramUnlocked_run_iff`, from the rule for a register that
keeps the last value stored to it).  What is left is a comparison of two tests on a byte
(`unlocks_iff`).

A store that is refused, for instance to the bank register of MBC3 with a number that it does not
know, does not count as a selection (`Event.selected`).
-/

set_option autoImplicit false

namespace GameBloat

/-- A store, or time passing. -/
def Event.IsWrite : Event → Prop
  | .mmuWriteByte _ _ => True
  | .clock _ => True
  | .loopCycle => False
  | .gpuStep _ => False

/-- The value of an accepted store to 0x4000–0x5FFF. -/
def Event.selected : Event → Option Byte
  | .mmuWriteByte address value => GameBloat.selected address value
  | .clock _ | .loopCycle | .gpuStep _ => none

/-- The last value stored to the lock. -/
def lastLock (events : List Event) : Option Byte := latest (Event.writtenTo 0 0x1FFF) events

/-- The last RAM bank or clock register selected. -/
def lastSelected (events : List Event) : Option Byte := latest Event.selected events

/-! ## One store -/

/-- The RAM can be changed now, as far as the registers of the controller are concerned. -/
def Machine.RamUnlocked (m : Machine) : Prop :=
  (m.controller = some .mbc1 → m.mbc1.RAMEnable ≠ 0) ∧
  (m.controller = some .mbc3 → m.mbc3.RAM_TimerEnable ≠ 0 ∧ m.mbc3.RTCAccessMode = mbc3RamMode)

/-- The machine has a controller with a lock. -/
def Machine.HasLock (m : Machine) : Prop := m.controller = some .mbc1 ∨ m.controller = some .mbc3

/-- Which write goes to the RAM with MBC1, -/
theorem mbc1_exists_ram_mem_iff (s : MBC1State) (address : Word) :
    (∃ i, CartAccess.ram i ∈ mbc1WriteAccesses s address) ↔
      (0xA000 ≤ address.toNat ∧ address.toNat ≤ 0xBFFF) ∧ s.RAMEnable ≠ 0 := by
  rw [mbc1WriteAccesses]
  split
  · rename_i hwindow
    split
    · rename_i hunlocked
      refine iff_of_true ?_ ⟨hwindow, hunlocked⟩
      split
      · exact ⟨_, List.mem_cons_of_mem _ (List.mem_singleton_self _)⟩
      · exact ⟨_, List.mem_singleton_self _⟩
    · rename_i hlocked
      exact iff_of_false (by simp) fun h ↦ hlocked h.2
  · rename_i hwindow
    exact iff_of_false (by simp) fun h ↦ hwindow h.1

/-- and with MBC3. -/
theorem mbc3_exists_ram_mem_iff (s : MBC3State) (address : Word) :
    (∃ i, CartAccess.ram i ∈ mbc3WriteAccesses s address) ↔
      (0xA000 ≤ address.toNat ∧ address.toNat ≤ 0xBFFF) ∧
        s.RAM_TimerEnable ≠ 0 ∧ s.RTCAccessMode = mbc3RamMode := by
  rw [mbc3WriteAccesses]
  split
  · rename_i hwindow
    split
    · rename_i hunlocked
      split
      · rename_i hmode
        exact iff_of_true ⟨_, List.mem_cons_of_mem _ (List.mem_singleton_self _)⟩
          ⟨hwindow, hunlocked, hmode⟩
      · rename_i hmode
        exact iff_of_false (by simp) fun h ↦ hmode h.2.2
    · rename_i hlocked
      exact iff_of_false (by simp) fun h ↦ hlocked h.2.1
  · rename_i hwindow
    exact iff_of_false (by simp) fun h ↦ hwindow h.1

/-- Which store goes to the RAM. -/
theorem exists_ram_mem_iff {m : Machine} (hm : m.HasLock) (address : Word) :
    (∃ i, CartAccess.ram i ∈ mmuWriteAccesses m address) ↔
      (0xA000 ≤ address.toNat ∧ address.toNat ≤ 0xBFFF) ∧ m.RamUnlocked := by
  have hmap : (∃ i, CartAccess.ram i ∈ mmuWriteAccesses m address) ↔
      OnCartridge address ∧ ∃ i, CartAccess.ram i ∈ mbcWriteAccesses m address := by
    rw [mmuWriteAccesses]
    split <;> simp [*]
  have hcart (h : 0xA000 ≤ address.toNat ∧ address.toNat ≤ 0xBFFF) : OnCartridge address :=
    .inr ⟨h.1, by omega⟩
  rw [hmap, mbcWriteAccesses, Machine.RamUnlocked]
  rcases hm with hm | hm <;>
    simp only [hm, reduceCtorEq, Option.some.injEq, false_imp_iff, and_true, true_and, forall_const]
  · rw [mbc1_exists_ram_mem_iff]
    exact ⟨fun h ↦ h.2, fun h ↦ ⟨hcart h.1, h⟩⟩
  · rw [mbc3_exists_ram_mem_iff]
    exact ⟨fun h ↦ h.2, fun h ↦ ⟨hcart h.1, h⟩⟩

/-- Some store at the address changes the RAM exactly if it goes to the window of the RAM while the
RAM is unlocked. -/
theorem exists_ram_changed_iff {m : Machine} (hm : m.HasLock) (address : Word) :
    (∃ value i, (storeByte m address value).cartridge.ram i ≠ m.cartridge.ram i) ↔
      (0xA000 ≤ address.toNat ∧ address.toNat ≤ 0xBFFF) ∧ m.RamUnlocked := by
  rw [← exists_ram_mem_iff hm]
  simp only [storeByte_footprint, Cartridge.store]
  constructor
  · rintro ⟨value, i, h⟩
    by_contra hcon
    exact h (if_neg fun hi ↦ hcon ⟨i, hi⟩)
  · rintro ⟨i, hi⟩
    -- the complement is another value
    refine ⟨~~~m.cartridge.ram i, i, ?_⟩
    rw [if_pos hi]
    bv_omega

/-! ## Runs -/

section

variable {m : Machine} (address : Word) (value : Byte)

/-- The lock of MBC1 after a store to any address, -/
theorem storeByte_mbc1_RAMEnable (hm : m.controller = some .mbc1) :
    (storeByte m address value).mbc1.RAMEnable =
      ((writtenTo 0 0x1FFF address value).map unlockValue).getD m.mbc1.RAMEnable := by
  by_cases hcart : OnCartridge address
  · rw [storeByte_of_onCartridge m value hcart, mbcWrite, hm]
    exact mbc1WriteByte_RAMEnable m.cartridge m.mbc1 address value
  · rw [(storeByte_of_not_onCartridge m value hcart).2.1]
    rw [OnCartridge] at hcart
    rw [writtenTo_of_lt (.inr (by omega))]
    rfl

/-- the lock of MBC3, -/
theorem storeByte_mbc3_RAM_TimerEnable (hm : m.controller = some .mbc3) :
    (storeByte m address value).mbc3.RAM_TimerEnable =
      ((writtenTo 0 0x1FFF address value).map unlockValue).getD m.mbc3.RAM_TimerEnable := by
  by_cases hcart : OnCartridge address
  · rw [storeByte_of_onCartridge m value hcart, mbcWrite, hm]
    exact mbc3WriteByte_RAM_TimerEnable m.cartridge m.mbc3 m.time address value
  · rw [(storeByte_of_not_onCartridge m value hcart).2.2]
    rw [OnCartridge] at hcart
    rw [writtenTo_of_lt (.inr (by omega))]
    rfl

/-- and its mode. -/
theorem storeByte_mbc3_RTCAccessMode (hm : m.controller = some .mbc3) :
    (storeByte m address value).mbc3.RTCAccessMode =
      ((selected address value).map selectedMode).getD m.mbc3.RTCAccessMode := by
  by_cases hcart : OnCartridge address
  · rw [storeByte_of_onCartridge m value hcart, mbcWrite, hm]
    exact mbc3WriteByte_RTCAccessMode m.cartridge m.mbc3 m.time address value
  · rw [(storeByte_of_not_onCartridge m value hcart).2.2]
    rw [OnCartridge] at hcart
    rw [selected, writtenTo_of_lt (.inr (by omega))]
    rfl

end

section

variable {m : Machine} {events : List Event}

/-- A register of the controller that keeps the last value stored to it. -/
theorem run_register {β : Type} (reg : Machine → β) (f : Event → Option Byte) {g : Byte → β}
    {controller : Controller} (hm : m.controller = some controller)
    (hevents : ∀ e ∈ events, e.IsWrite)
    (hstore : ∀ m address value, m.controller = some controller →
      reg (storeByte m address value) = ((f (.mmuWriteByte address value)).map g).getD (reg m))
    (hclock : ∀ m time, reg { m with time } = reg m ∧ f (.clock time) = none) :
    reg (gameboy.run m events) = ((latest f events).map g).getD (reg m) := by
  refine System.run_latched reg (I := fun m ↦ m.controller = some controller)
    (fun m e _ hm ↦ (Event.step_controller m e).trans hm) (fun m e he hm ↦ ?_) hm hevents
  cases e with
  | mmuWriteByte address value => exact hstore m address value hm
  | clock time =>
    obtain ⟨hreg, hf⟩ := hclock m time
    rw [hf]
    exact hreg
  | loopCycle => exact he.elim
  | gpuStep => exact he.elim

/-- In the initial state of a controller its RAM is locked, and MBC3 has selected RAM. -/
def Machine.Untouched (m : Machine) : Prop :=
  m.mbc1 = Machine.powerOn.mbc1 ∧ m.mbc3 = Machine.powerOn.mbc3

/-- The lock is open if the last value opened it; at first it is closed. -/
theorem getD_unlockValue_iff (lock : Option Byte) :
    (lock.map unlockValue).getD 0 ≠ 0 ↔ ∃ value, lock = some value ∧ value &&& 0x0A = 0x0A := by
  cases lock with
  | none => simp
  | some value => simpa using unlockValue_ne_zero_iff value

/-- The RAM is selected unless a register of the clock was selected last. -/
theorem getD_selectedMode_iff (bank : Option Byte) :
    (bank.map selectedMode).getD 0 = mbc3RamMode ↔
      ∀ value, bank = some value → value.toNat ≤ 0x07 := by
  cases bank with
  | none => simp [mbc3RamMode]
  | some value => simp [selectedMode, rtcMode_ne_ramMode]

/-- The RAM can be changed after `events`, by their history: a value with the bits of `0x0A` was
stored to the lock last, and with MBC3 no register of the clock was selected last.  This is a
condition on the stores that a program has made, and does not look at what the controller has made
of them. -/
def UnlockedBy (controller : Option Controller) (events : List Event) : Prop :=
  (∃ lock, lastLock events = some lock ∧ lock &&& 0x0A = 0x0A) ∧
  (controller = some .mbc3 → ∀ bank, lastSelected events = some bank → bank.toNat ≤ 0x07)

/-- **The registers follow the history.** -/
theorem ramUnlocked_run_iff (hm : m.HasLock) (hinit : m.Untouched)
    (hevents : ∀ e ∈ events, e.IsWrite) :
    (gameboy.run m events).RamUnlocked ↔ UnlockedBy m.controller events := by
  obtain ⟨hmbc1, hmbc3⟩ := hinit
  rw [Machine.RamUnlocked, run_controller, UnlockedBy, lastLock, lastSelected]
  rcases hm with hm | hm
  · have hlock := run_register (fun m ↦ m.mbc1.RAMEnable) (Event.writtenTo 0 0x1FFF) hm hevents
      (fun m address value h ↦ storeByte_mbc1_RAMEnable address value h) fun _ _ ↦ ⟨rfl, rfl⟩
    have hinit : m.mbc1.RAMEnable = 0 := by rw [hmbc1]; rfl
    simp only [hlock, hinit, ← getD_unlockValue_iff]
    simp [hm]
  · have hlock := run_register (fun m ↦ m.mbc3.RAM_TimerEnable) (Event.writtenTo 0 0x1FFF) hm
      hevents (fun m address value h ↦ storeByte_mbc3_RAM_TimerEnable address value h)
      fun _ _ ↦ ⟨rfl, rfl⟩
    have hmode := run_register (fun m ↦ m.mbc3.RTCAccessMode) Event.selected hm hevents
      (fun m address value h ↦ storeByte_mbc3_RTCAccessMode address value h) fun _ _ ↦ ⟨rfl, rfl⟩
    have hinit : m.mbc3.RAM_TimerEnable = 0 ∧ m.mbc3.RTCAccessMode = 0 := by
      rw [hmbc3]
      exact ⟨rfl, rfl⟩
    simp only [hlock, hmode, hinit.1, hinit.2, ← getD_unlockValue_iff, ← getD_selectedMode_iff]
    simp [hm]

/-! ## The protection -/

/-- A store after `events` changes the RAM only as documented: it goes to the window of the RAM, the
last value stored to the lock is one of low nibble `0x0A`, and with MBC3 a RAM bank was selected
last, if anything was. -/
def WriteProtected (m : Machine) (events : List Event) : Prop :=
  let after := gameboy.run m events
  ∀ address value i, (storeByte after address value).cartridge.ram i ≠ after.cartridge.ram i →
    (0xA000 ≤ address.toNat ∧ address.toNat ≤ 0xBFFF) ∧
    (∃ lock, lastLock events = some lock ∧ lock &&& 0x0F = 0x0A) ∧
    (m.controller = some .mbc3 → ∀ bank, lastSelected events = some bank → bank.toNat ≤ 0x07)

/-- The values that open the lock and should not. -/
def OpensWrongly (lock : Byte) : Prop :=
  lock &&& 0x0F = 0x0B ∨ lock &&& 0x0F = 0x0E ∨ lock &&& 0x0F = 0x0F

instance (lock : Byte) : Decidable (OpensWrongly lock) := inferInstanceAs (Decidable (_ ∨ _))

/-- The code accepts the documented values and the wrong ones. -/
theorem unlocks_iff (lock : Byte) :
    lock &&& 0x0A = 0x0A ↔ lock &&& 0x0F = 0x0A ∨ OpensWrongly lock := by
  revert lock
  decide

/-- None of the wrong ones is documented. -/
theorem not_opensWrongly_of_eq {lock : Byte} (h : lock &&& 0x0F = 0x0A) : ¬OpensWrongly lock := by
  rw [OpensWrongly, h]
  decide

/-- **When the RAM is protected**: after any history of stores, unless one of the values that open
the lock wrongly was stored to it last and, with MBC3, no register of the clock was selected
last. -/
theorem ram_write_protected_iff (hm : m.HasLock) (hinit : m.Untouched)
    (hevents : ∀ e ∈ events, e.IsWrite) :
    WriteProtected m events ↔
      ¬((∃ lock, lastLock events = some lock ∧ OpensWrongly lock) ∧
        (m.controller = some .mbc3 →
          ∀ bank, lastSelected events = some bank → bank.toNat ≤ 0x07)) := by
  have hafter : (gameboy.run m events).HasLock := by rwa [Machine.HasLock, run_controller]
  have hunlocked := ramUnlocked_run_iff hm hinit hevents
  constructor
  · rintro hprotected ⟨⟨lock, hlock, hwrong⟩, hbank⟩
    have hopen : (gameboy.run m events).RamUnlocked :=
      hunlocked.2 ⟨⟨lock, hlock, (unlocks_iff lock).2 (.inr hwrong)⟩, hbank⟩
    obtain ⟨value, i, hchanged⟩ :=
      (exists_ram_changed_iff hafter 0xA000).2 ⟨by decide, hopen⟩
    obtain ⟨-, ⟨lock', hlock', hright⟩, -⟩ := hprotected 0xA000 value i hchanged
    obtain rfl := Option.some.inj (hlock.symm.trans hlock')
    exact not_opensWrongly_of_eq hright hwrong
  · intro hcon address value i hchanged
    obtain ⟨hwindow, hopen⟩ := (exists_ram_changed_iff hafter address).1 ⟨value, i, hchanged⟩
    obtain ⟨⟨lock, hlock, hbits⟩, hbank⟩ := hunlocked.1 hopen
    refine ⟨hwindow, ⟨lock, hlock, ?_⟩, hbank⟩
    refine ((unlocks_iff lock).1 hbits).resolve_right fun hwrong ↦ ?_
    exact hcon ⟨⟨lock, hlock, hwrong⟩, hbank⟩

end

/-- The power-on machine with a controller and 32 KB of RAM. -/
def lockedMachine (controller : Controller) : Machine :=
  { Machine.powerOn with
    MBC := some controller
    cartridge := { Machine.powerOn.cartridge with ramLength := 0x8000, mbc := true } }

/-- After a store of `0x0A` the RAM of MBC3 can be changed, as documented. -/
theorem ram_write_protected_0A :
    WriteProtected (lockedMachine .mbc3)
      [.mmuWriteByte 0x0000 0x0A, .mmuWriteByte 0x4000 0x01] := by
  have hlock : (lockedMachine .mbc3).HasLock := .inr rfl
  refine (ram_write_protected_iff hlock ⟨rfl, rfl⟩ (by simp [Event.IsWrite])).2 ?_
  rintro ⟨⟨lock, hlock, hwrong⟩, -⟩
  obtain rfl : 0x0A = lock := Option.some.inj hlock
  exact absurd hwrong (by decide)

/-- A store of `0x0F` opens the lock of MBC1, and then the first byte of the RAM can be changed. -/
theorem ram_not_write_protected_0F :
    ¬WriteProtected (lockedMachine .mbc1) [.mmuWriteByte 0x0000 0x0F] := by
  intro h
  obtain ⟨-, ⟨lock, hlock, hright⟩, -⟩ := h 0xA000 1 0 (by decide)
  obtain rfl : 0x0F = lock := Option.some.inj hlock
  exact absurd hright (by decide)

end GameBloat
