import GameBloat.Gpu.Lcd

/-!
# VBLANK and the line counter

The scan is in VBLANK on the lines 144 to 153 and on no other, and going on to the next position
keeps it so (`ScanPos.Coherent.next`).  A program can set LY to 0 by a store, however, and the
mode stays what it is.  In VBLANK this leaves the two at odds: the scan goes through all the lines
up to 153 once more, in a mode that draws none of them.

While the LCD is on, such a store is the only way to get there.  While it is off, the store does
no harm at once, but the LCD may then be switched on with LY at 0 in VBLANK, the mode of a reset
(`vblank_agrees_of_respects`).

The invariant therefore has two parts (`Lcd.Agrees`): the mode and the line agree, or the LCD is
off and stands in VBLANK on line 0.  The second is a state that is harmless as it is and must not
be switched on.  It is only ever met between a reset and the first time that the LCD is switched
off, because switching it off sets the mode to HBLANK.

`Lcd.Agrees.store_iff` says exactly which stores keep the invariant, in terms of the controller
before the store: with the LCD on and in VBLANK, none to LY; and none to LCDC that switches the
LCD on in the state just described.  Ticks always keep it (`Lcd.Agrees.step`).  From the two
follows the statement about runs, by the rule `run_lcd` for properties of the controller.
-/

set_option autoImplicit false

namespace GameBloat

/-- With the LCD on, LY is a line, and the mode is VBLANK on the lines from 144 on.  LY is what
the CPU reads at 0xFF44. -/
def VblankAgrees (m : Machine) : Prop :=
  m.gpu.LcdOn →
    (mmuReadByte m 0xFF44).toNat ≤ 153 ∧
      (m.gpu.mode = .vblank ↔
        144 ≤ (mmuReadByte m 0xFF44).toNat ∧ (mmuReadByte m 0xFF44).toNat ≤ 153)

instance (m : Machine) : Decidable (VblankAgrees m) := inferInstanceAs (Decidable (_ → _))

namespace Lcd

/-- In VBLANK on line 0, where a store to LY can lead.  No tick leads there. -/
def Rewound (d : Lcd) : Prop := d.mode = .vblank ∧ d.lcdYCoordinate = 0

instance (d : Lcd) : Decidable d.Rewound := inferInstanceAs (Decidable (_ ∧ _))

/-- The mode and the line agree, or the LCD is off and has been rewound since the reset. -/
def Agrees (d : Lcd) : Prop := d.pos.Coherent ∨ (¬d.On ∧ d.Rewound)

/-- What a store must be for the mode and the line to agree: one to LCDC may not switch the LCD on
when it is rewound, and one to LY comes outside VBLANK or while the LCD is off.  All other stores
are free. -/
def KeepsLine (d : Lcd) (write : Word × Byte) : Prop :=
  if write.1 = 0xFF40 then write.2 &&& lcdDisplayEnable ≠ 0 → ¬d.Rewound
  else if write.1 = 0xFF44 then d.On → d.mode ≠ .vblank
  else True

instance (d : Lcd) (write : Word × Byte) : Decidable (d.KeepsLine write) := by
  delta KeepsLine
  infer_instance

end Lcd

/-- The statement is about the controller. -/
theorem vblankAgrees_iff (m : Machine) :
    VblankAgrees m ↔ (m.gpu.lcd.On → m.gpu.lcd.pos.Coherent) := by
  refine imp_congr_right fun _ ↦ and_congr_right fun hline ↦ ?_
  exact iff_congr Iff.rfl (and_iff_left hline)

namespace Lcd

variable {d : Lcd}

/-- The two parts of the invariant exclude each other. -/
theorem Rewound.not_coherent (h : d.Rewound) : ¬d.pos.Coherent := by
  intro hpos
  have hline : 144 ≤ d.lcdYCoordinate.toNat := hpos.2.1 h.1
  rw [h.2] at hline
  exact absurd hline (by decide)

/-- With the LCD on only the first part is left. -/
theorem Agrees.coherent (h : d.Agrees) (hon : d.On) : d.pos.Coherent :=
  h.resolve_right fun h' ↦ h'.1 hon

/-! ## Ticks -/

/-- The controller takes the position of the scan where the scan takes it. -/
theorem next_pos (d : Lcd) : d.next.pos = d.pos.next := by
  obtain ⟨_, _, line, _, mode, _⟩ := d
  cases mode with
  | hblank =>
    by_cases h144 : nextLine line = 144
    · exact (congrArg pos (if_pos h144)).trans (if_pos h144).symm
    · exact (congrArg pos (if_neg h144)).trans (if_neg h144).symm
  | vblank =>
    by_cases h0 : nextLine line = 0
    · exact (congrArg pos (if_pos h0)).trans (if_pos h0).symm
    · exact (congrArg pos (if_neg h0)).trans (if_neg h0).symm
  | oamScanline => rfl
  | vramScanline => rfl

/-- Ticks keep the two in agreement.  With the LCD off they do nothing. -/
theorem Agrees.step (h : d.Agrees) (tick : CInt) : (d.step tick).Agrees :=
  step_invariant (fun _ _ h ↦ h)
    (fun d hon h ↦ .inl (d.next_pos.symm ▸ (h.coherent hon).next)) h

/-! ## Stores -/

/-- **The stores that keep the mode and the line in agreement**, exactly. -/
theorem Agrees.store_iff (h : d.Agrees) (write : Word × Byte) :
    (d.store write.1 write.2).Agrees ↔ d.KeepsLine write := by
  rw [store, KeepsLine]
  by_cases h40 : write.1 = 0xFF40
  · rw [if_pos h40, if_pos h40]
    by_cases hoff : write.2 &&& lcdDisplayEnable = 0
    · rw [if_pos hoff]
      exact iff_of_true (.inl (by decide : (ScanPos.mk .hblank 0).Coherent))
        fun hon ↦ absurd hoff hon
    · rw [if_neg hoff]
      constructor
      · exact fun hagrees _ hrewound ↦ hrewound.not_coherent (hagrees.coherent hoff)
      · exact fun hkeeps ↦ .inl (h.resolve_right fun h' ↦ hkeeps hoff h'.2)
  by_cases h44 : write.1 = 0xFF44
  · have h41 : write.1 ≠ 0xFF41 := by rw [h44]; decide
    rw [if_neg h40, if_neg h41, if_pos h44, if_neg h40, if_pos h44]
    by_cases hmode : d.mode = .vblank
    · have hrewound : Rewound { d with lcdYCoordinate := 0 } := ⟨hmode, rfl⟩
      constructor
      · exact fun hagrees hon ↦ absurd (hagrees.coherent hon) hrewound.not_coherent
      · exact fun hkeeps ↦ .inr ⟨fun hon ↦ hkeeps hon hmode, hrewound⟩
    · refine iff_of_true (.inl ⟨Nat.zero_le _, iff_of_false hmode ?_⟩) fun _ ↦ hmode
      show ¬144 ≤ (0 : Byte).toNat
      decide
  · rw [if_neg h40, if_neg h44, if_neg h40, if_neg h44]
    split_ifs <;> exact iff_of_true h trivial

end Lcd

/-! ## Runs -/

/-- **VBLANK and the line counter agree** throughout a run from a reset, if each of its stores is
one that keeps them in agreement.  The steps of the GPU keep them so by themselves.  What parts
them is a store to LY in VBLANK, which begins the frame anew without a change of mode, or the LCD
switched on after such a store. -/
theorem vblank_agrees_of_respects (m : Machine) {events : List Event}
    (h : gameboy.Along (fun m e ↦ e.Respects Lcd.KeepsLine m) m.gpuReset events) :
    ∀ pre, pre <+: events → VblankAgrees (gameboy.run m.gpuReset pre) := by
  rintro pre ⟨post, rfl⟩
  rw [System.along_append] at h
  have hreset : m.gpuReset.gpu.lcd.Agrees := .inl (by decide : (ScanPos.mk .vblank 153).Coherent)
  have hrun := run_lcd (I := Lcd.Agrees) (fun d write hok hd ↦ (hd.store_iff write).2 hok)
    (fun d tick hd ↦ hd.step tick) hreset h.1
  exact (vblankAgrees_iff _).2 hrun.coherent

/-- The LCD is switched on after a reset, in VBLANK, and LY stored to. -/
theorem vblank_not_agreeing :
    ¬VblankAgrees (gameboy.run Machine.powerOn.gpuReset
      [.mmuWriteByte 0xFF40 0x80, .mmuWriteByte 0xFF44 0]) ∧
    ¬VblankAgrees (gameboy.run Machine.powerOn.gpuReset
      [.mmuWriteByte 0xFF44 0, .mmuWriteByte 0xFF40 0x80]) := by
  decide

/-- The same store, one mode later. -/
theorem vblank_agrees_of_respects_line0 :
    VblankAgrees (gameboy.run Machine.powerOn.gpuReset
      [.mmuWriteByte 0xFF40 0x80, .gpuStep 456, .mmuWriteByte 0xFF44 0, .loopCycle]) :=
  vblank_agrees_of_respects Machine.powerOn (by decide) _ List.prefix_rfl

end GameBloat
