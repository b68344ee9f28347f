import GameBloat.Gpu.Lcd

/-!
# The LCD switched off

Clearing LCDC bit 7 takes the controller to the start of line 0 in HBLANK, and there it stays
until the bit is set again: `gpuStep` does nothing at all, and no store moves the line, the mode
or the clock.  So when the LCD is switched on again, it makes no difference how often and with how
many ticks `gpuStep` has been called in the meantime (`switchedOff_frozen`).

The events in between may be any stores that do not switch the LCD on, to LY, LYC and STAT as
well, and calls of `gpuStep` with any ticks, in any order.  The invariant is `Lcd.Frozen`.  That a
store to LY keeps it is a coincidence of values: the store sets LY to 0, where it is anyway.

The second half compares two runs, with the calls of `gpuStep` and without them.  With the LCD off
such a call is the identity on the whole machine (`gpuStep_of_off`), so leaving the calls out
changes nothing: the library's rule for events that do nothing is applied to the whole list.
-/

set_option autoImplicit false

namespace GameBloat

/-- The LCD is off, at the start of line 0.  This is the state in which clearing bit 7 leaves the
controller. -/
structure Lcd.Frozen (d : Lcd) : Prop where
  off : ¬d.On
  lcdYCoordinate : d.lcdYCoordinate = 0
  mode : d.mode = .hblank
  modeClock : d.modeClock = 0

/-- The GPU is stepped, or something is stored, but not so as to switch the LCD on. -/
def Event.KeepsOff : Event → Prop
  | .loopCycle => False
  | .gpuStep _ => True
  | .mmuWriteByte address value => address = 0xFF40 → value &&& lcdDisplayEnable = 0
  | .clock _ => True

/-- A call of `gpuStep`. -/
def Event.isGpuStep : Event → Bool
  | .gpuStep _ => true
  | .loopCycle | .mmuWriteByte _ _ | .clock _ => false

/-! ## Off -/

/-- Switching the LCD off, from any state. -/
theorem Lcd.frozen_store (d : Lcd) {value : Byte} (h : value &&& lcdDisplayEnable = 0) :
    (d.store 0xFF40 value).Frozen := by
  rw [store, if_pos rfl, if_pos h]
  exact ⟨not_not.2 h, rfl, rfl, rfl⟩

/-- No store that leaves it off moves the scan. -/
theorem Lcd.Frozen.store {d : Lcd} (h : d.Frozen) {address : Word} {value : Byte}
    (hkeeps : address = 0xFF40 → value &&& lcdDisplayEnable = 0) :
    (d.store address value).Frozen := by
  by_cases h40 : address = 0xFF40
  · subst h40
    exact d.frozen_store (hkeeps rfl)
  · rw [Lcd.store, if_neg h40]
    split_ifs
    · exact ⟨h.off, h.lcdYCoordinate, h.mode, h.modeClock⟩
    · exact ⟨h.off, rfl, h.mode, h.modeClock⟩
    · exact ⟨h.off, h.lcdYCoordinate, h.mode, h.modeClock⟩
    · exact h

/-- With the LCD off, `gpuStep` does nothing. -/
theorem gpuStep_of_off {m : Machine} (h : ¬m.gpu.LcdOn) (tick : CInt) :
    gpuStepCalls m tick = [] ∧ gpuStep m tick = m := by
  have hrun : gpuStepRun m.gpuRun tick = m.gpuRun := gpuStepRun_of_off h
  rw [gpuStepCalls, gpuStep, hrun]
  exact ⟨rfl, rfl⟩

/-- Neither does any other event of the period. -/
theorem Event.KeepsOff.frozen {m : Machine} {e : Event} (h : e.KeepsOff) (hm : m.gpu.lcd.Frozen) :
    (gameboy.step m e).gpu.lcd.Frozen := by
  cases e with
  | loopCycle => exact h.elim
  | gpuStep tick =>
    show (GameBloat.gpuStep m tick).gpu.lcd.Frozen
    rwa [(gpuStep_of_off hm.off tick).2]
  | mmuWriteByte address value =>
    show (storeByte m address value).gpu.lcd.Frozen
    rw [storeByte_lcd]
    exact hm.store h
  | clock time => exact hm

/-! ## And on again -/

/-- Switching it on moves nothing either: the first line starts with its HBLANK. -/
theorem Lcd.Frozen.store_on {d : Lcd} (h : d.Frozen) {value : Byte}
    (hvalue : value &&& lcdDisplayEnable ≠ 0) :
    (d.store 0xFF40 value).On ∧ (d.store 0xFF40 value).lcdYCoordinate = 0 ∧
      (d.store 0xFF40 value).mode = .hblank ∧ (d.store 0xFF40 value).modeClock = 0 := by
  rw [Lcd.store, if_pos rfl, if_neg hvalue]
  exact ⟨hvalue, h.lcdYCoordinate, h.mode, h.modeClock⟩

/-- **A switched-off LCD is frozen.**  From a store of `off` to LCDC on, and whatever `events` come
before the next that switches the LCD on, LY reads 0, the mode is HBLANK, the clock is 0 and
`gpuStep` does nothing.  The store of `on` that ends the period goes on from there, and the machine
is the same as if `gpuStep` had not been called. -/
theorem switchedOff_frozen (m : Machine) (off on : Byte) (hoff : off &&& lcdDisplayEnable = 0)
    (hon : on &&& lcdDisplayEnable ≠ 0) {events : List Event} (hevents : ∀ e ∈ events, e.KeepsOff) :
    let frozen := gameboy.run (storeByte m 0xFF40 off) events
    let resumed := storeByte frozen 0xFF40 on
    (mmuReadByte frozen 0xFF44 = 0 ∧ frozen.gpu.mode = .hblank ∧ frozen.gpu.modeClock = 0 ∧
      ∀ tick, gpuStepCalls frozen tick = [] ∧ gpuStep frozen tick = frozen) ∧
    (resumed.gpu.LcdOn ∧ mmuReadByte resumed 0xFF44 = 0 ∧ resumed.gpu.mode = .hblank ∧
      resumed.gpu.modeClock = 0) ∧
    resumed = storeByte (gameboy.run (storeByte m 0xFF40 off) (events.filter (!·.isGpuStep)))
      0xFF40 on := by
  intro frozen resumed
  have hstart : (storeByte m 0xFF40 off).gpu.lcd.Frozen := by
    rw [storeByte_lcd]
    exact m.gpu.lcd.frozen_store hoff
  have hfrozen : frozen.gpu.lcd.Frozen :=
    System.run_invariant (I := fun m : Machine ↦ m.gpu.lcd.Frozen) (fun _ _ h hm ↦ h.frozen hm)
      hstart hevents
  have hresumed := hfrozen.store_on hon
  rw [← storeByte_lcd] at hresumed
  have hfilter := System.run_filter (S := gameboy) (I := fun m : Machine ↦ m.gpu.lcd.Frozen)
    (p := fun e ↦ !e.isGpuStep) (fun _ _ h hm ↦ h.frozen hm) (fun m e _ hm hstep ↦ ?_) hstart
    hevents
  · refine ⟨⟨hfrozen.lcdYCoordinate, hfrozen.mode, hfrozen.modeClock, gpuStep_of_off hfrozen.off⟩,
      hresumed, ?_⟩
    rw [hfilter]
  · cases e with
    | gpuStep tick => exact (gpuStep_of_off hm.off tick).2
    | loopCycle | mmuWriteByte _ _ | clock _ => exact absurd rfl hstep

/-- Off near the end of a picture, with stores to LY, STAT and LCDC before the LCD is on again. -/
theorem switchedOff_frozen_endOfPicture :
    let events : List Event :=
      [.gpuStep 456, .mmuWriteByte 0xFF44 7, .mmuWriteByte 0xFF41 0x40, .mmuWriteByte 0xFF40 0x11,
        .gpuStep 70224]
    (storeByte (gameboy.run (storeByte endOfPicture 0xFF40 0x11) events) 0xFF40 0x91).gpu.LcdOn :=
  (switchedOff_frozen endOfPicture 0x11 0x91 (by decide) (by decide)
    (by simp [Event.KeepsOff, lcdDisplayEnable])).2.1.1

end GameBloat
