import GameBloat.Gpu.Lcd

/-!
# What STAT shows

The low three bits of STAT are not the program's: while the LCD is on, two of them show the mode
and the third whether LY equals LYC.  The scan keeps them so (`Lcd.Mirrors.step`).  Stores do not.
`gpuWriteRegister` stores all of STAT, the functions that change LY or LYC on the program's behalf
do not compare the two, and switching the LCD on clears the third bit without looking.

A program may change the bits 3 to 6 of STAT, which select its interrupts, and no others.  That is
a condition on a store to 0xFF41, with the LCD on or off, and is stated by itself
(`Lcd.SparesStatus`): the byte that is there after the store has the old bits 0 to 2 and 7.

`Lcd.KeepsMirror` lists what a store has to be for the bits to stay right and for the others to be
spared, and `stat_mirrors_of_respects` draws the conclusion for runs.  For one store the list is
exact (`Lcd.Mirrors.store_iff`).  It has four entries, all about the controller before the store:

* LCDC: the LCD may be switched on, or left on, only while LY is not LYC, because bit 2 of STAT is
  cleared in either case;
* STAT: the bits 0 to 2 and 7 of the new byte are those of the old;
* LY: it becomes 0, and must not thereby come to LYC or move away from it;
* LYC: the new value must be as equal to LY as the old.

With the LCD off the last two are free, as bit 2 of STAT need not show anything; it is computed
anew when the LCD is switched on and the next line is entered.
-/

set_option autoImplicit false

namespace GameBloat

/-- With the LCD on, STAT shows the mode, and whether LY is LYC.  The three registers are what the
CPU reads at their addresses, so a slip in reading them would be a slip here. -/
def StatMirrors (m : Machine) : Prop :=
  m.gpu.LcdOn →
    mmuReadByte m 0xFF41 &&& 0x03 = m.gpu.mode.toByte ∧
      (mmuReadByte m 0xFF41 &&& statusLycEqualsLy ≠ 0 ↔
        mmuReadByte m 0xFF44 = mmuReadByte m 0xFF45)

instance (m : Machine) : Decidable (StatMirrors m) := inferInstanceAs (Decidable (_ → _))

namespace Lcd

/-- The low two bits of STAT are the mode. -/
def ModeBits (d : Lcd) : Prop := d.lcdStatus &&& 0x03 = d.mode.toByte

/-- Bit 2 of STAT is set if LY is LYC. -/
def LineBit (d : Lcd) : Prop :=
  d.lcdStatus &&& statusLycEqualsLy ≠ 0 ↔ d.lcdYCoordinate = d.lcdLYCompare

/-- With the LCD on, the three bits are right. -/
def Mirrors (d : Lcd) : Prop := d.On → d.ModeBits ∧ d.LineBit

/-- A store to STAT changes the bits 3 to 6 only, be the LCD on or off: bits 0 to 2 are the
controller's, and there is nothing behind bit 7.  A store to another address says nothing about
STAT here. -/
def SparesStatus (d : Lcd) (write : Word × Byte) : Prop :=
  write.1 = 0xFF41 → (d.store write.1 write.2).lcdStatus &&& 0x87 = d.lcdStatus &&& 0x87

instance (d : Lcd) (write : Word × Byte) : Decidable (d.SparesStatus write) :=
  inferInstanceAs (Decidable (_ → _))

/-- What a store must be for STAT to stay right.  One to LCDC may switch the LCD on, or leave it on,
only while LY is not LYC.  One to STAT must have the bits 0 to 2 and 7 that are there already.  With
the LCD on, one to LY or LYC must not change whether the two are equal. -/
def KeepsMirror (d : Lcd) (write : Word × Byte) : Prop :=
  if write.1 = 0xFF40 then
    write.2 &&& lcdDisplayEnable ≠ 0 → d.lcdYCoordinate ≠ d.lcdLYCompare
  else if write.1 = 0xFF41 then write.2 &&& 0x87 = d.lcdStatus &&& 0x87
  else if write.1 = 0xFF44 then
    d.On → (0 = d.lcdLYCompare ↔ d.lcdYCoordinate = d.lcdLYCompare)
  else if write.1 = 0xFF45 then
    d.On → (d.lcdYCoordinate = write.2 ↔ d.lcdYCoordinate = d.lcdLYCompare)
  else True

instance (d : Lcd) (write : Word × Byte) : Decidable (d.KeepsMirror write) := by
  delta KeepsMirror
  infer_instance

end Lcd

/-- The statement is about the controller. -/
theorem statMirrors_iff (m : Machine) : StatMirrors m ↔ m.gpu.lcd.Mirrors := Iff.rfl

namespace Lcd

variable {d : Lcd}

/-! ## Ticks -/

/-- Entering a mode writes it into STAT, -/
theorem modeBits_enter (d : Lcd) (mode : GpuMode) : (d.enter mode).ModeBits := by
  have hbits : ∀ status : Byte, (status &&& 0xFC ||| mode.toByte) &&& 0x03 = mode.toByte := by
    cases mode <;> decide
  exact hbits d.lcdStatus

/-- and leaves the third bit alone. -/
theorem LineBit.enter (h : d.LineBit) (mode : GpuMode) : (d.enter mode).LineBit := by
  have hbit : ∀ status : Byte, (status &&& 0xFC ||| mode.toByte) &&& statusLycEqualsLy =
      status &&& statusLycEqualsLy := by
    cases mode <;> decide
  show (d.lcdStatus &&& 0xFC ||| mode.toByte) &&& statusLycEqualsLy ≠ 0 ↔ _
  rw [hbit]
  exact h

/-- Entering a line compares it with LYC. -/
theorem lineBit_advance (d : Lcd) : d.advance.LineBit := by
  by_cases hline : nextLine d.lcdYCoordinate = d.lcdLYCompare
  · have hset : ∀ status : Byte, (status ||| statusLycEqualsLy) &&& statusLycEqualsLy ≠ 0 := by
      decide
    rw [advance_of_eq hline]
    exact iff_of_true (hset _) hline
  · have hclear : ∀ status : Byte,
        ¬(status &&& ~~~statusLycEqualsLy) &&& statusLycEqualsLy ≠ 0 := by
      decide
    rw [advance_of_ne hline]
    exact iff_of_false (hclear _) hline

/-- That leaves the mode bits alone. -/
theorem ModeBits.advance (h : d.ModeBits) : d.advance.ModeBits := by
  have hset : ∀ status : Byte, (status ||| statusLycEqualsLy) &&& 0x03 = status &&& 0x03 := by
    decide
  have hclear : ∀ status : Byte, status &&& ~~~statusLycEqualsLy &&& 0x03 = status &&& 0x03 := by
    decide
  by_cases hline : nextLine d.lcdYCoordinate = d.lcdLYCompare
  · rw [advance_of_eq hline]
    exact (hset _).trans h
  · rw [advance_of_ne hline]
    exact (hclear _).trans h

/-- The end of a mode, whichever it is. -/
theorem Mirrors.next (hon : d.On) (h : d.Mirrors) : d.next.ModeBits ∧ d.next.LineBit := by
  obtain ⟨hmode, hline⟩ := h hon
  rw [Lcd.next]
  split
  · split <;> exact ⟨modeBits_enter _ _, d.lineBit_advance.enter _⟩
  · split
    · exact ⟨modeBits_enter _ _, d.lineBit_advance.enter _⟩
    · exact ⟨hmode.advance, d.lineBit_advance⟩
  · exact ⟨modeBits_enter _ _, hline.enter _⟩
  · exact ⟨modeBits_enter _ _, hline.enter _⟩

/-- **The scan keeps STAT right**, for any number of ticks. -/
theorem Mirrors.step (h : d.Mirrors) (tick : CInt) : (d.step tick).Mirrors :=
  step_invariant (fun _ _ h ↦ h) (fun _ hon h _ ↦ h.next hon) h

/-! ## Stores -/

/-- The three bits, one by one. -/
theorem and_seven_eq_iff (status status' : Byte) :
    status &&& 0x07 = status' &&& 0x07 ↔ status &&& 0x03 = status' &&& 0x03 ∧
      (status &&& statusLycEqualsLy ≠ 0 ↔ status' &&& statusLycEqualsLy ≠ 0) := by
  have hlow : ∀ status : Byte, status &&& 0x03 = status &&& 0x07 &&& 0x03 := by decide
  have hbit : ∀ status : Byte, status &&& statusLycEqualsLy =
      status &&& 0x07 &&& statusLycEqualsLy := by
    decide
  have hall : ∀ status : Byte, status &&& 0x07 = (status &&& 0x03) +
      if status &&& statusLycEqualsLy ≠ 0 then 4 else 0 := by
    decide
  constructor
  · intro h
    rw [hlow, hlow status', hbit, hbit status', h]
    exact ⟨rfl, Iff.rfl⟩
  · rintro ⟨h, h'⟩
    rw [hall, hall status', h]
    simp only [h']

/-- The bits that a store to STAT has to leave alone are the three and one more. -/
theorem and_seven_of_eq {status status' : Byte} (h : status &&& 0x87 = status' &&& 0x87) :
    status &&& 0x07 = status' &&& 0x07 := by
  have hlow : ∀ status : Byte, status &&& 0x07 = status &&& 0x87 &&& 0x07 := by decide
  rw [hlow, hlow status', h]

/-- `gpuWriteRegister` stores the whole byte. -/
theorem sparesStatus_iff (d : Lcd) (write : Word × Byte) :
    d.SparesStatus write ↔ write.1 = 0xFF41 → write.2 &&& 0x87 = d.lcdStatus &&& 0x87 := by
  refine imp_congr_right fun h41 ↦ ?_
  rw [store, h41, if_neg (by decide), if_pos rfl]

/-- With another line or line compare, STAT is right if the two are equal just if they were. -/
theorem Mirrors.line_iff (h : d.Mirrors) (ly lyc : Byte) :
    { d with lcdYCoordinate := ly, lcdLYCompare := lyc }.Mirrors ↔
      (d.On → (ly = lyc ↔ d.lcdYCoordinate = d.lcdLYCompare)) := by
  refine imp_congr_right fun hon ↦ ?_
  obtain ⟨hmode, hline⟩ := h hon
  exact (and_iff_right hmode).trans ((iff_congr hline Iff.rfl).trans Iff.comm)

/-- **The stores that keep STAT right** and change no more of it than a program may. -/
theorem Mirrors.store_iff (h : d.Mirrors) (write : Word × Byte) :
    (d.store write.1 write.2).Mirrors ∧ d.SparesStatus write ↔ d.KeepsMirror write := by
  by_cases h41 : write.1 = 0xFF41
  · -- STAT: the bits stay what they are, or the store is to blame
    rw [sparesStatus_iff, store, KeepsMirror, h41, if_neg (by decide), if_pos rfl,
      if_neg (by decide), if_pos rfl]
    refine ⟨fun hstore ↦ hstore.2 rfl, fun hsame ↦ ⟨fun hon ↦ ?_, fun _ ↦ hsame⟩⟩
    obtain ⟨hmode, hline⟩ := h hon
    obtain ⟨hlow, hbit⟩ := (and_seven_eq_iff _ _).1 (and_seven_of_eq hsame)
    exact ⟨hlow.trans hmode, hbit.trans hline⟩
  · have hspares : d.SparesStatus write := fun h ↦ absurd h h41
    rw [and_iff_left hspares, store, KeepsMirror, if_neg h41, if_neg h41]
    split_ifs with h40 hoff h44 h45
    · exact iff_of_true (fun hon ↦ absurd hoff hon) fun hon ↦ absurd hoff hon
    · -- LCDC: the bit for LY = LYC is cleared
      have hclear : ∀ status : Byte,
          (status &&& 0xF8 ||| d.mode.toByte) &&& statusLycEqualsLy = 0 := by
        cases d.mode <;> decide
      have hmode : ∀ status : Byte,
          (status &&& 0xF8 ||| d.mode.toByte) &&& 0x03 = d.mode.toByte := by
        cases d.mode <;> decide
      constructor
      · exact fun hmirrors hon heq ↦ (hmirrors hon).2.2 heq (hclear _)
      · exact fun hne hon ↦ ⟨hmode _, iff_of_false (not_not.2 (hclear _)) (hne hon)⟩
    · exact h.line_iff 0 d.lcdLYCompare
    · exact h.line_iff d.lcdYCoordinate write.2
    · exact iff_of_true h trivial

/-- A store that keeps STAT right spares it, whatever has been before. -/
theorem KeepsMirror.sparesStatus {write : Word × Byte} (h : d.KeepsMirror write) :
    d.SparesStatus write := by
  rw [sparesStatus_iff]
  intro h41
  rwa [KeepsMirror, if_neg (by rw [h41]; decide), if_pos h41] at h

end Lcd

/-! ## Runs -/

/-- **STAT mirrors the hardware** throughout a run from a reset, and the program changes no bits
of it but 3 to 6, if each of its stores is one that keeps STAT right.  The condition is about the
stores of the main loop as well, those of its instructions and of an interrupt that it serves. -/
theorem stat_mirrors_of_respects (m : Machine) {events : List Event}
    (h : gameboy.Along (fun m e ↦ e.Respects Lcd.KeepsMirror m) m.gpuReset events) :
    (∀ pre, pre <+: events → StatMirrors (gameboy.run m.gpuReset pre)) ∧
      gameboy.Along (fun m e ↦ e.Respects Lcd.SparesStatus m) m.gpuReset events := by
  refine ⟨?_, h.imp fun m e he ↦ he.imp fun d write ↦ Lcd.KeepsMirror.sparesStatus⟩
  rintro pre ⟨post, rfl⟩
  rw [System.along_append] at h
  rw [statMirrors_iff]
  exact run_lcd (I := Lcd.Mirrors) (fun d write hok hd ↦ ((hd.store_iff write).2 hok).1)
    (fun d tick hd ↦ hd.step tick) (fun hon ↦ absurd hon (gpuReset_not_on m)) h.1

/-- With the LCD on, a store of 0 to STAT in VBLANK, one to LYC, and switching the LCD on at line 0
while LYC is 0.  With the LCD on or off, a store to STAT that sets bit 7; and one with the LCD off
that changes the mode that STAT shows. -/
theorem stat_not_mirrored :
    ¬StatMirrors (gameboy.run Machine.powerOn.gpuReset
      [.mmuWriteByte 0xFF40 0x80, .mmuWriteByte 0xFF41 0x00]) ∧
    ¬StatMirrors (gameboy.run Machine.powerOn.gpuReset
      [.mmuWriteByte 0xFF40 0x80, .mmuWriteByte 0xFF45 153]) ∧
    ¬StatMirrors (gameboy.run Machine.powerOn.gpuReset
      [.mmuWriteByte 0xFF40 0x00, .mmuWriteByte 0xFF40 0x80]) ∧
    ¬gameboy.Along (fun m e ↦ e.Respects Lcd.SparesStatus m) Machine.powerOn.gpuReset
      [.mmuWriteByte 0xFF40 0x80, .mmuWriteByte 0xFF41 0x81] ∧
    ¬gameboy.Along (fun m e ↦ e.Respects Lcd.SparesStatus m) Machine.powerOn.gpuReset
      [.mmuWriteByte 0xFF41 0x02] := by
  decide

/-- The LCD is switched on, the interrupts of STAT are selected, and LYC is set to a line still to
come. -/
theorem stat_mirrors_of_respects_line0 :
    StatMirrors (gameboy.run Machine.powerOn.gpuReset
      [.mmuWriteByte 0xFF40 0x80, .mmuWriteByte 0xFF41 0x79, .mmuWriteByte 0xFF45 1, .gpuStep 456,
        .loopCycle]) ∧
    gameboy.Along (fun m e ↦ e.Respects Lcd.SparesStatus m) Machine.powerOn.gpuReset
      [.mmuWriteByte 0xFF40 0x80, .mmuWriteByte 0xFF41 0x79, .mmuWriteByte 0xFF45 1, .gpuStep 456,
        .loopCycle] := by
  have h := @stat_mirrors_of_respects Machine.powerOn [.mmuWriteByte 0xFF40 0x80,
    .mmuWriteByte 0xFF41 0x79, .mmuWriteByte 0xFF45 1, .gpuStep 456, .loopCycle] (by decide)
  exact ⟨h.1 _ List.prefix_rfl, h.2⟩

end GameBloat
