import GameBloat.Gpu.Lcd

/-!
# The interrupts of the scan

`gpuStep` requests VBLANK when the mode of that name is entered, and LCD for two reasons: a mode
is entered that STAT selects, or a line is entered that is LYC, if STAT selects that.  All of this
can be read off the controller before and after, up to one thing: which bit of STAT selects which
mode.

`HandleLCDModeChange` looks for HBLANK at the bit that selects VBLANK, and for VBLANK at that of
HBLANK.  So the requests are right unless these two bits differ, and even then whenever the LCD
interrupt is requested already or has another reason (`interrupts_due_iff`).

The comparison is made by giving the reasons for a request a parameter: `Lcd.due bit d d'` is what
there is a reason for on the way from `d` to `d'`, with `bit` for the bits that select the modes.
`GpuMode.selectBit` are the bits that the register has for them, bit 3 for mode 0, bit 4 for mode
1 and bit 5 for mode 2; `GpuMode.testedBit` are those that the code looks at.

* `gpuStep_requested`: the code requests exactly what is due with the bits that it tests, for any
  state and any number of ticks.  It takes care of the order of events in a call: LY and LYC are
  compared, and STAT changed, before the mode is entered, and the mode bits of STAT are written
  before its select bits are read.  None of these writes touches a select bit
  (`and_testedBit_enter`, `and_testedBit_advance`).
* `due_congr` and `or_due_eq_iff_of_blank`: when the two choices of bits come to the same.
* `interrupts_due_iff`: the exact condition, `CrossedSelect`, in terms of the state before the
  call.
-/

set_option autoImplicit false

namespace GameBloat

/-! ## What should be requested -/

namespace GpuMode

/-- The bit of STAT that selects a mode.  VRAM_SCANLINE has none. -/
def selectBit : GpuMode → Byte
  | .hblank => statusMode0IntSelect
  | .vblank => statusMode1IntSelect
  | .oamScanline => statusMode2IntSelect
  | .vramScanline => 0

/-- The bit of STAT that `HandleLCDModeChange` looks at.  For HBLANK and VBLANK it is the other
one's. -/
def testedBit : GpuMode → Byte
  | .hblank => statusMode1IntSelect
  | .vblank => statusMode0IntSelect
  | .oamScanline => statusMode2IntSelect
  | .vramScanline => 0

end GpuMode

/-- The bits of the request register for VBLANK and LCD. -/
def requests (vblank lcd : Bool) : Byte :=
  (if vblank then vblankInterrupt else 0) ||| if lcd then lcdInterrupt else 0

namespace Lcd

/-- From `d` to `d'`, VBLANK is entered. -/
def EntersVblank (d d' : Lcd) : Prop := d.mode ≠ d'.mode ∧ d'.mode = .vblank

/-- From `d` to `d'`, a mode is entered whose bit in STAT is set.  STAT is that before the call;
what the call does to it does not concern these bits. -/
def EntersSelected (bit : GpuMode → Byte) (d d' : Lcd) : Prop :=
  d.mode ≠ d'.mode ∧ d.lcdStatus &&& bit d'.mode ≠ 0

/-- From `d` to `d'`, LY advances to LYC, and STAT selects that. -/
def EntersLYC (d d' : Lcd) : Prop :=
  d.lcdYCoordinate ≠ d'.lcdYCoordinate ∧ d'.lcdYCoordinate = d.lcdLYCompare ∧
    d.lcdStatus &&& statusLycIntSelect ≠ 0

instance (d d' : Lcd) : Decidable (d.EntersVblank d') := inferInstanceAs (Decidable (_ ∧ _))

instance (bit : GpuMode → Byte) (d d' : Lcd) : Decidable (d.EntersSelected bit d') :=
  inferInstanceAs (Decidable (_ ∧ _))

instance (d d' : Lcd) : Decidable (d.EntersLYC d') := inferInstanceAs (Decidable (_ ∧ _))

/-- The interrupts there is a reason for from `d` to `d'`, with these bits for the modes. -/
def due (bit : GpuMode → Byte) (d d' : Lcd) : Byte :=
  requests (d.EntersVblank d') (d.EntersSelected bit d' ∨ d.EntersLYC d')

/-- The mode will be over. -/
def Ends (d : Lcd) (tick : CInt) : Prop := d.On ∧ d.mode.length ≤ (d.modeClock + tick).toNat

/-- HBLANK or VBLANK is next, and LYC is no reason for the LCD interrupt: the mode is
VRAM_SCANLINE, or it is HBLANK on the last visible line. -/
def BlankNext (d : Lcd) : Prop :=
  d.mode = .vramScanline ∨
    d.mode = .hblank ∧ d.lcdYCoordinate = 143 ∧
      ¬(d.lcdLYCompare = 144 ∧ d.lcdStatus &&& statusLycIntSelect ≠ 0)

/-- STAT selects one of HBLANK and VBLANK. -/
def SelectsOneBlank (d : Lcd) : Prop :=
  ¬(d.lcdStatus &&& statusMode0IntSelect ≠ 0 ↔ d.lcdStatus &&& statusMode1IntSelect ≠ 0)

end Lcd

/-- After `gpuStep` everything is requested that was, everything there is a reason for, and
nothing else.  The reasons are the modes that the step enters and the line compare, each with the
bit of STAT that selects it, and VBLANK by itself, which needs no bit. -/
def InterruptsDue (m : Machine) (tick : CInt) : Prop :=
  (gpuStep m tick).interruptRegisters.request =
    m.interruptRegisters.request ||| Lcd.due GpuMode.selectBit m.gpu.lcd (gpuStep m tick).gpu.lcd

/-- The call tests the wrong bit, and this makes a difference: a mode ends, one of the two is
entered, STAT selects exactly one of them, and the LCD interrupt is neither requested nor due to
LYC. -/
def CrossedSelect (m : Machine) (tick : CInt) : Prop :=
  m.gpu.lcd.Ends tick ∧ m.gpu.lcd.BlankNext ∧ m.gpu.lcd.SelectsOneBlank ∧
    m.interruptRegisters.request &&& lcdInterrupt = 0

/-! ## What is requested -/

/-- Requests add up. -/
theorem requests_or (v l v' l' : Bool) :
    requests v l ||| requests v' l' = requests (v || v') (l || l') := by
  cases v <;> cases l <;> cases v' <;> cases l' <;> rfl

/-- The bit of the LCD interrupt shows, unless it is there already. -/
theorem or_requests_eq_iff (b : Byte) (v l l' : Bool) :
    b ||| requests v l = b ||| requests v l' ↔ l = l' ∨ b &&& lcdInterrupt ≠ 0 := by
  revert b
  cases v <;> cases l <;> cases l' <;> decide

/-- The next line is another one, so that entering it is an event. -/
theorem nextLine_ne (line : Byte) : nextLine line ≠ line := by
  revert line
  decide

/-- The mode bits of STAT select nothing. -/
theorem and_testedBit_enter (status : Byte) (mode inMode : GpuMode) :
    (status &&& 0xFC ||| inMode.toByte) &&& mode.testedBit = status &&& mode.testedBit := by
  revert status
  cases mode <;> cases inMode <;> decide

namespace Lcd

/-- Neither does the bit for LY = LYC. -/
theorem and_testedBit_advance (d : Lcd) (mode : GpuMode) :
    d.advance.lcdStatus &&& mode.testedBit = d.lcdStatus &&& mode.testedBit := by
  have hset (status : Byte) :
      (status ||| statusLycEqualsLy) &&& mode.testedBit = status &&& mode.testedBit := by
    revert status
    cases mode <;> decide
  have hclear (status : Byte) :
      status &&& ~~~statusLycEqualsLy &&& mode.testedBit = status &&& mode.testedBit := by
    revert status
    cases mode <;> decide
  by_cases hline : nextLine d.lcdYCoordinate = d.lcdLYCompare
  · rw [advance_of_eq hline, hset]
  · rw [advance_of_ne hline, hclear]

section

variable {d d' : Lcd} {bit : GpuMode → Byte}

/-- What is due when a mode is entered. -/
theorem due_of_ne (h : d.mode ≠ d'.mode) :
    due bit d d' = requests (d'.mode = .vblank)
      (d.lcdStatus &&& bit d'.mode ≠ 0 ∨ d.EntersLYC d') := by
  simp only [due, EntersVblank, EntersSelected, ne_eq, h, not_false_eq_true, true_and]

/-- What is due when no mode is. -/
theorem due_of_eq (h : d.mode = d'.mode) : due bit d d' = requests false (d.EntersLYC d') := by
  simp only [due, EntersVblank, EntersSelected, ne_eq, h, not_true_eq_false, false_and, false_or,
    decide_false]

end

end Lcd

namespace GpuRun

/-- The request register. -/
def requested (w : GpuRun) : Byte := w.interruptRegisters.request

/-- A request of the LCD interrupt if STAT selects it. -/
theorem requestIfSelected_requested (w : GpuRun) (select : Byte) :
    (w.requestIfSelected select).requested =
      w.requested ||| requests false (w.gpu.lcdStatus &&& select ≠ 0) := by
  rw [requestIfSelected]
  split <;> rename_i h
  · rw [decide_eq_true h]
    rfl
  · rw [decide_eq_false h]
    exact BitVec.or_zero.symm

/-- `HandleLCDModeChange` requests what the bits it tests say, and VBLANK. -/
theorem handleLCDModeChange_requested (w : GpuRun) (inMode : GpuMode) :
    (handleLCDModeChange w inMode).requested = w.requested |||
      requests (inMode = .vblank) (w.gpu.lcdStatus &&& inMode.testedBit ≠ 0) := by
  have hselected (w' : GpuRun)
      (hstatus : w'.gpu.lcdStatus = w.gpu.lcdStatus &&& 0xFC ||| inMode.toByte) :
      (w'.requestIfSelected inMode.testedBit).requested = w'.requested |||
        requests false (w.gpu.lcdStatus &&& inMode.testedBit ≠ 0) := by
    rw [requestIfSelected_requested, hstatus, and_testedBit_enter]
  cases inMode with
  | hblank => exact hselected _ rfl
  | oamScanline => exact hselected _ rfl
  | vramScanline =>
    have hnone : w.gpu.lcdStatus &&& GpuMode.testedBit .vramScanline = 0 := BitVec.and_zero
    rw [decide_eq_false (not_not.2 hnone)]
    exact BitVec.or_zero.symm
  | vblank =>
    refine (congrArg (· ||| requests true false) (hselected _ rfl)).trans ?_
    rw [BitVec.or_assoc, requests_or]
    simp only [Bool.false_or, Bool.or_false, decide_true]
    rfl

/-- `NextScanline` requests the LCD interrupt if LY comes to LYC and STAT selects that. -/
theorem nextScanline_requested (w : GpuRun) :
    (nextScanline w).requested =
      w.requested ||| requests false (w.gpu.lcd.EntersLYC w.gpu.lcd.advance) := by
  have hbit (status : Byte) :
      (status ||| statusLycEqualsLy) &&& statusLycIntSelect = status &&& statusLycIntSelect := by
    revert status
    decide
  by_cases hline : nextLine w.gpu.lcdYCoordinate = w.gpu.lcdLYCompare
  · have hnext : nextScanline w = ((w.onGpu fun g ↦ g.setLine (nextLine g.lcdYCoordinate)).onGpu
        fun g ↦ g.setStatus (g.lcdStatus ||| statusLycEqualsLy)).requestIfSelected
          statusLycIntSelect := if_pos hline
    have hdue : w.gpu.lcd.EntersLYC w.gpu.lcd.advance ↔
        w.gpu.lcdStatus &&& statusLycIntSelect ≠ 0 :=
      ⟨fun h ↦ h.2.2, fun h ↦ ⟨(nextLine_ne _).symm, hline, h⟩⟩
    rw [hnext, requestIfSelected_requested, decide_eq_decide.2 hdue]
    exact congrArg (fun b : Byte ↦ w.requested ||| requests false (b ≠ 0)) (hbit w.gpu.lcdStatus)
  · have hnext : nextScanline w = (w.onGpu fun g ↦ g.setLine (nextLine g.lcdYCoordinate)).onGpu
        fun g ↦ g.setStatus (g.lcdStatus &&& ~~~statusLycEqualsLy) := if_neg hline
    have hdue : ¬w.gpu.lcd.EntersLYC w.gpu.lcd.advance := fun h ↦ hline h.2.1
    rw [hnext, decide_eq_false hdue]
    exact BitVec.or_zero.symm

/-- Rendering requests nothing. -/
theorem renderScan_requested (w : GpuRun) : (renderScan w).requested = w.requested := by
  have hobserved : (renderScan w).observed.requested = w.observed.requested := by
    rw [GpuRun.Blind.renderScan_observed]
  exact hobserved

/-- A mode is entered with a new line. -/
theorem nextScanline_handleLCDModeChange_requested {w : GpuRun} {inMode : GpuMode}
    (h : w.gpu.mode ≠ inMode) :
    (handleLCDModeChange (nextScanline w) inMode).requested = w.requested |||
      Lcd.due GpuMode.testedBit w.gpu.lcd (w.gpu.lcd.advance.enter inMode) := by
  have hstatus : (nextScanline w).gpu.lcdStatus = w.gpu.lcd.advance.lcdStatus :=
    congrArg Lcd.lcdStatus (nextScanline_lcd w)
  have hdue : Lcd.due GpuMode.testedBit w.gpu.lcd (w.gpu.lcd.advance.enter inMode) =
      requests (inMode = .vblank) (w.gpu.lcdStatus &&& inMode.testedBit ≠ 0 ∨
        w.gpu.lcd.EntersLYC w.gpu.lcd.advance) := Lcd.due_of_ne h
  rw [handleLCDModeChange_requested, nextScanline_requested, hstatus, Lcd.and_testedBit_advance,
    BitVec.or_assoc, requests_or, Bool.false_or, hdue, Bool.decide_or, Bool.or_comm]
  rfl

/-- A mode is entered on the same line. -/
theorem handleLCDModeChange_requested_due {w : GpuRun} {inMode : GpuMode}
    (h : w.gpu.mode ≠ inMode) :
    (handleLCDModeChange w inMode).requested =
      w.requested ||| Lcd.due GpuMode.testedBit w.gpu.lcd (w.gpu.lcd.enter inMode) := by
  have hline : ¬w.gpu.lcd.EntersLYC (w.gpu.lcd.enter inMode) := fun h ↦ h.1 rfl
  have hdue : Lcd.due GpuMode.testedBit w.gpu.lcd (w.gpu.lcd.enter inMode) =
      requests (inMode = .vblank) (w.gpu.lcdStatus &&& inMode.testedBit ≠ 0 ∨
        w.gpu.lcd.EntersLYC (w.gpu.lcd.enter inMode)) := Lcd.due_of_ne h
  rw [handleLCDModeChange_requested, hdue, Bool.decide_or, decide_eq_false hline, Bool.or_false]

/-- The five ways a mode ends. -/
theorem endOfMode_requested (w : GpuRun) :
    (endOfMode w).requested =
      w.requested ||| Lcd.due GpuMode.testedBit w.gpu.lcd w.gpu.lcd.next := by
  have hmode : w.gpu.lcd.mode = w.gpu.mode := rfl
  have hline : (nextScanline w).gpu.lcdYCoordinate = w.gpu.lcd.advance.lcdYCoordinate :=
    congrArg Lcd.lcdYCoordinate (nextScanline_lcd w)
  rw [endOfMode, Lcd.next, hmode]
  cases h : w.gpu.mode with
  | hblank =>
    simp only [hline]
    split
    · exact nextScanline_handleLCDModeChange_requested (h.trans_ne (by decide))
    · exact nextScanline_handleLCDModeChange_requested (h.trans_ne (by decide))
  | vblank =>
    simp only [hline]
    split
    · exact nextScanline_handleLCDModeChange_requested (h.trans_ne (by decide))
    · have hdue : Lcd.due GpuMode.testedBit w.gpu.lcd w.gpu.lcd.advance = _ := Lcd.due_of_eq rfl
      rw [nextScanline_requested, hdue]
  | oamScanline => exact handleLCDModeChange_requested_due (h.trans_ne (by decide))
  | vramScanline =>
    have hlcd := renderScan_lcd w
    have hrendered : (renderScan w).gpu.mode ≠ .hblank :=
      (congrArg Lcd.mode hlcd).trans_ne (h.trans_ne (by decide))
    refine (handleLCDModeChange_requested_due hrendered).trans ?_
    rw [renderScan_requested, hlcd]

end GpuRun

/-- **What `gpuStep` requests.** -/
theorem gpuStep_requested (m : Machine) (tick : CInt) :
    (gpuStep m tick).interruptRegisters.request = m.interruptRegisters.request |||
      Lcd.due GpuMode.testedBit m.gpu.lcd (gpuStep m tick).gpu.lcd := by
  have hquiet (d : Lcd) (hmode : m.gpu.lcd.mode = d.mode)
      (hline : m.gpu.lcd.lcdYCoordinate = d.lcdYCoordinate) :
      Lcd.due GpuMode.testedBit m.gpu.lcd d = 0 := by
    have hnone : ¬m.gpu.lcd.EntersLYC d := fun h ↦ h.1 hline
    rw [Lcd.due_of_eq hmode, decide_eq_false hnone]
    rfl
  rw [gpuStep_lcd]
  by_cases hon : m.gpu.LcdOn
  · rcases Nat.lt_or_ge (m.gpu.modeClock + tick).toNat m.gpu.mode.length with h | h
    · have hdue := hquiet { m.gpu.lcd with modeClock := m.gpu.lcd.modeClock + tick } rfl rfl
      rw [Lcd.step_of_lt (d := m.gpu.lcd) hon h, hdue, gpuStep,
        gpuStepRun_of_lt (w := m.gpuRun) hon h]
      exact BitVec.or_zero.symm
    · rw [Lcd.step_of_le (d := m.gpu.lcd) hon h, gpuStep, gpuStepRun_of_le (w := m.gpuRun) hon h]
      exact GpuRun.endOfMode_requested _
  · rw [Lcd.step_of_off (d := m.gpu.lcd) hon, hquiet _ rfl rfl, gpuStep,
      gpuStepRun_of_off (w := m.gpuRun) hon]
    exact BitVec.or_zero.symm

/-! ## When this is right -/

namespace Lcd

section

variable {d d' : Lcd}

/-- The reasons are the same if the bits are, -/
theorem due_congr (h : d.mode ≠ d'.mode → d'.mode.testedBit = d'.mode.selectBit) :
    due GpuMode.testedBit d d' = due GpuMode.selectBit d d' := by
  by_cases hmode : d.mode = d'.mode
  · rw [due_of_eq hmode, due_of_eq hmode]
  · rw [due_of_ne hmode, due_of_ne hmode, h hmode]

/-- and else if STAT selects both or neither, or LYC is a reason anyway. -/
theorem or_due_eq_iff_of_blank (b : Byte) (hmode : d.mode ≠ d'.mode)
    (hblank : d'.mode = .hblank ∨ d'.mode = .vblank) :
    b ||| due GpuMode.testedBit d d' = b ||| due GpuMode.selectBit d d' ↔
      ¬(¬d.EntersLYC d' ∧ d.SelectsOneBlank ∧ b &&& lcdInterrupt = 0) := by
  have hbits : (d.lcdStatus &&& d'.mode.testedBit ≠ 0 ↔ d.lcdStatus &&& d'.mode.selectBit ≠ 0) ↔
      ¬d.SelectsOneBlank := by
    rcases hblank with h | h
    · rw [h, SelectsOneBlank, not_not]
      exact Iff.comm
    · rw [h, SelectsOneBlank, not_not]
      exact Iff.rfl
  rw [due_of_ne hmode, due_of_ne hmode, or_requests_eq_iff, decide_eq_decide]
  by_cases hline : d.EntersLYC d'
  · simp only [hline, or_true, true_or, not_true_eq_false, false_and, not_false_eq_true]
  · simp only [hline, or_false, hbits, not_false_eq_true, true_and]
    exact not_and_or.symm

/-- For the other two modes the code tests the right bit. -/
theorem testedBit_eq {mode : GpuMode} (h : ¬(mode = .hblank ∨ mode = .vblank)) :
    mode.testedBit = mode.selectBit := by
  cases mode with
  | hblank => exact absurd (.inl rfl) h
  | vblank => exact absurd (.inr rfl) h
  | oamScanline | vramScanline => rfl

theorem nextLine_eq_144_iff (line : Byte) : nextLine line = 144 ↔ line = 143 := by
  revert line
  decide

/-- Where HBLANK and VBLANK are entered. -/
theorem blankNext_iff {clock : BitVec 32} (h : d' = { d with modeClock := clock }.next) :
    d.BlankNext ↔ (d.mode ≠ d'.mode ∧ (d'.mode = .hblank ∨ d'.mode = .vblank)) ∧
      ¬d.EntersLYC d' := by
  subst h
  have hnot (h : d.mode ≠ .vramScanline) (h' : d.mode ≠ .hblank) : ¬d.BlankNext := by
    rintro (h'' | h'')
    · exact h h''
    · exact h' h''.1
  rw [next]
  cases hmode : d.mode with
  | hblank =>
    simp only
    split <;> rename_i hline
    · have h143 : d.lcdYCoordinate = 143 := (nextLine_eq_144_iff _).1 hline
      have hLYC : d.EntersLYC { d with modeClock := clock }.advance ↔
          d.lcdLYCompare = 144 ∧ d.lcdStatus &&& statusLycIntSelect ≠ 0 :=
        ⟨fun h ↦ ⟨h.2.1.symm.trans hline, h.2.2⟩,
          fun h ↦ ⟨(nextLine_ne _).symm, hline.trans h.1.symm, h.2⟩⟩
      constructor
      · rintro (h | ⟨-, -, h⟩)
        · cases hmode.symm.trans h
        · exact ⟨⟨GpuMode.noConfusion, .inr rfl⟩, fun h' ↦ h (hLYC.1 h')⟩
      · exact fun h ↦ .inr ⟨hmode, h143, fun h' ↦ h.2 (hLYC.2 h')⟩
    · refine iff_of_false ?_ ?_
      · rintro (h | ⟨-, h, -⟩)
        · cases hmode.symm.trans h
        · exact hline ((nextLine_eq_144_iff _).2 h)
      · rintro ⟨⟨-, h | h⟩, -⟩ <;> cases h
  | vblank =>
    refine iff_of_false (hnot (hmode.trans_ne (by decide)) (hmode.trans_ne (by decide))) ?_
    simp only
    split
    · rintro ⟨⟨-, h | h⟩, -⟩ <;> cases h
    · exact fun h ↦ h.1.1 rfl
  | oamScanline =>
    refine iff_of_false (hnot (hmode.trans_ne (by decide)) (hmode.trans_ne (by decide))) ?_
    rintro ⟨⟨-, h | h⟩, -⟩ <;> cases h
  | vramScanline =>
    exact iff_of_true (.inl hmode) ⟨⟨GpuMode.noConfusion, .inl rfl⟩, fun h ↦ h.1 rfl⟩

/-- The end of a mode. -/
theorem or_due_next_eq_iff (b : Byte) (d : Lcd) (clock : BitVec 32) :
    b ||| due GpuMode.testedBit d { d with modeClock := clock }.next =
        b ||| due GpuMode.selectBit d { d with modeClock := clock }.next ↔
      ¬(d.BlankNext ∧ d.SelectsOneBlank ∧ b &&& lcdInterrupt = 0) := by
  generalize hnext : { d with modeClock := clock }.next = d'
  rw [blankNext_iff hnext.symm]
  by_cases hblank : d.mode ≠ d'.mode ∧ (d'.mode = .hblank ∨ d'.mode = .vblank)
  · rw [or_due_eq_iff_of_blank b hblank.1 hblank.2, and_iff_right hblank]
  · have hsame : due GpuMode.testedBit d d' = due GpuMode.selectBit d d' :=
      due_congr fun hne ↦ testedBit_eq fun h ↦ hblank ⟨hne, h⟩
    exact iff_of_true (congrArg (b ||| ·) hsame) fun h ↦ hblank h.1.1

/-- What a call requests and what it should, after `b` has been requested. -/
theorem or_due_step_eq_iff (b : Byte) (d : Lcd) (tick : CInt) :
    b ||| due GpuMode.testedBit d (d.step tick) = b ||| due GpuMode.selectBit d (d.step tick) ↔
      ¬(d.Ends tick ∧ d.BlankNext ∧ d.SelectsOneBlank ∧ b &&& lcdInterrupt = 0) := by
  have hstays (h : ¬d.Ends tick) (hmode : d.mode = (d.step tick).mode) :
      b ||| due GpuMode.testedBit d (d.step tick) = b ||| due GpuMode.selectBit d (d.step tick) ↔
        ¬(d.Ends tick ∧ d.BlankNext ∧ d.SelectsOneBlank ∧ b &&& lcdInterrupt = 0) :=
    iff_of_true (congrArg (b ||| ·) (due_congr fun hne ↦ absurd hmode hne)) fun h' ↦ h h'.1
  by_cases hon : d.On
  · rcases Nat.lt_or_ge (d.modeClock + tick).toNat d.mode.length with h | h
    · refine hstays (fun h' ↦ Nat.not_le_of_lt h h'.2) ?_
      rw [step_of_lt hon h]
    · have hends : d.Ends tick := ⟨hon, h⟩
      rw [step_of_le hon h, or_due_next_eq_iff, and_iff_right hends]
  · refine hstays (fun h' ↦ hon h'.1) ?_
    rw [step_of_off hon]

end

end Lcd

/-- Line 143 is over and STAT selects VBLANK, but the LCD interrupt is not requested. -/
theorem vblank_select_ignored :
    ¬InterruptsDue { Machine.powerOn with
      gpu := { Machine.powerOn.gpu with
        lcdControl := 0x80
        lcdStatus := 0x10
        lcdYCoordinate := 143
        mode := .hblank
        modeClock := 200 } } 4 := by
  rw [InterruptsDue]
  decide

/-- **When `gpuStep` requests what is due**: unless it looks at the wrong bit of STAT, and this
makes a difference.  The bits for HBLANK and VBLANK are the wrong way round; those for the OAM and
for the line compare are right. -/
theorem interrupts_due_iff (m : Machine) (tick : CInt) :
    InterruptsDue m tick ↔ ¬CrossedSelect m tick := by
  rw [InterruptsDue, gpuStep_requested, gpuStep_lcd]
  exact Lcd.or_due_step_eq_iff m.interruptRegisters.request m.gpu.lcd tick

end GameBloat
