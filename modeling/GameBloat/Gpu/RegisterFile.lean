import GameBloat.Library.RegisterFile
import GameBloat.Memory.Map

/-!
# The GPU registers as a register file

Eight of the GPU registers are plain bytes that a game can read and write.  `gpuReadRegister` and
`gpuWriteRegister` decode their addresses separately, and do not agree: the two scroll registers
are read crosswise to how they are written, so are the two window registers, and the background
palette is neither read nor written.

The library's register file is given two decoders, one for each direction, and says when what is
read at `b` follows what is written at `a`: if both lead to the same field.  Where that relation
is equality of addresses the registers are lawful for every value.  For the crossed pairs it is
not, and then the law holds only for the values that happen to be there already (`Gpu.Shows`).

`gpuRegisters_lawful_iff` has this for every pair of the eight addresses, every value and every
state of the machine.  The comparison of the two decoders is a finite one, over 64 pairs of
addresses (`connected_iff_eq_iff`), and needs no state; what the decoders do to the state is said
once for both directions (`mmuReadByte_of_mem`, `mmuWriteByte_of_mem`).
-/

set_option autoImplicit false

namespace GameBloat

/-- The read-write registers: SCY, SCX, LYC, BGP, OBP0, OBP1, WY and WX. -/
def readWriteRegisters : List Word :=
  [0xFF42, 0xFF43, 0xFF45, 0xFF47, 0xFF48, 0xFF49, 0xFF4A, 0xFF4B]

/-- The fields of `struct gpuRegisters` behind them.  There are seven, as the palette is not among
those that an address leads to. -/
inductive GpuField
  | scrollX | scrollY | lcdLYCompare | objPalette0 | objPalette1 | lcdWindowY | lcdWindowX
  deriving DecidableEq

/-- The value of a field. -/
def Gpu.field (g : Gpu) : GpuField → Byte
  | .scrollX => g.scrollX
  | .scrollY => g.scrollY
  | .lcdLYCompare => g.lcdLYCompare
  | .objPalette0 => g.objPalette0
  | .objPalette1 => g.objPalette1
  | .lcdWindowY => g.lcdWindowY
  | .lcdWindowX => g.lcdWindowX

/-- How the addresses are decoded: which field `gpuReadRegister` returns, and which one
`gpuWriteRegister` assigns.  The law is that of register files in general, and where it fails can
be read off this table. -/
def gpuRegisterFile : RegisterFile Word GpuField Byte where
  readField b :=
    if b = 0xFF42 then some .scrollX
    else if b = 0xFF43 then some .scrollY
    else if b = 0xFF45 then some .lcdLYCompare
    else if b = 0xFF48 then some .objPalette0
    else if b = 0xFF49 then some .objPalette1
    else if b = 0xFF4A then some .lcdWindowY
    else if b = 0xFF4B then some .lcdWindowX
    else none
  writeField a :=
    if a = 0xFF42 then some .scrollY
    else if a = 0xFF43 then some .scrollX
    else if a = 0xFF45 then some .lcdLYCompare
    else if a = 0xFF48 then some .objPalette0
    else if a = 0xFF49 then some .objPalette1
    else if a = 0xFF4A then some .lcdWindowX
    else if a = 0xFF4B then some .lcdWindowY
    else none
  blank := 0

/-- The memory map passes these addresses on to `gpuReadRegister`, -/
theorem mmuReadByte_of_mem (m : Machine) {b : Word} (hb : b ∈ readWriteRegisters) :
    mmuReadByte m b = gpuRegisterFile.read m.gpu.field b := by
  simp only [readWriteRegisters, List.mem_cons, List.not_mem_nil, or_false] at hb
  rcases hb with rfl | rfl | rfl | rfl | rfl | rfl | rfl | rfl <;> rfl

/-- and to `gpuWriteRegister`. -/
theorem mmuWriteByte_of_mem (m : Machine) {a : Word} (ha : a ∈ readWriteRegisters) (v : Byte) :
    (mmuWriteByte m a v).1.gpu.field = gpuRegisterFile.write m.gpu.field a v := by
  simp only [readWriteRegisters, List.mem_cons, List.not_mem_nil, or_false] at ha
  funext f
  rcases ha with rfl | rfl | rfl | rfl | rfl | rfl | rfl | rfl <;> cases f <;> rfl

/-! ## Where the decoders agree -/

/-- The addresses that are read and written crosswise, and the one that is neither. -/
def Crossed (a b : Word) : Prop :=
  (a ∈ [0xFF42, 0xFF43] ∧ b ∈ [0xFF42, 0xFF43]) ∨ (a ∈ [0xFF4A, 0xFF4B] ∧ b ∈ [0xFF4A, 0xFF4B]) ∨
    (a = 0xFF47 ∧ b = 0xFF47)

instance (a b : Word) : Decidable (Crossed a b) := inferInstanceAs (Decidable (_ ∨ _))

/-- Where the two decoders agree: everywhere but at the crossed addresses. -/
theorem connected_iff_eq_iff : ∀ a ∈ readWriteRegisters, ∀ b ∈ readWriteRegisters,
    (gpuRegisterFile.Connected a b ↔ b = a) ↔ ¬Crossed a b := by
  have hall : (readWriteRegisters.all fun a ↦ readWriteRegisters.all fun b ↦
      (gpuRegisterFile.Connected a b ↔ b = a) ↔ ¬Crossed a b) = true := by decide
  intro a ha b hb
  exact of_decide_eq_true (List.all_eq_true.1 (List.all_eq_true.1 hall a ha) b hb)

/-- The value `v` is in the register `b` already, as `gpuReadRegister` reads it.  For a crossed
pair that is the field of the other address; the palette at 0xFF47 is not read at all, and shows
0. -/
def Gpu.Shows (g : Gpu) (b : Word) (v : Byte) : Prop :=
  (b = 0xFF42 ∧ g.scrollX = v) ∨ (b = 0xFF43 ∧ g.scrollY = v) ∨
    (b = 0xFF4A ∧ g.lcdWindowY = v) ∨ (b = 0xFF4B ∧ g.lcdWindowX = v) ∨ (b = 0xFF47 ∧ v = 0)

/-- What is read at a crossed address. -/
theorem read_eq_iff_shows {a b : Word} (h : Crossed a b) (g : Gpu) (v : Byte) :
    gpuRegisterFile.read g.field b = v ↔ g.Shows b v := by
  simp only [Crossed, List.mem_cons, List.not_mem_nil, or_false] at h
  rcases h with ⟨-, rfl | rfl⟩ | ⟨-, rfl | rfl⟩ | ⟨-, rfl⟩
  · show g.scrollX = v ↔ _
    simp [Gpu.Shows]
  · show g.scrollY = v ↔ _
    simp [Gpu.Shows]
  · show g.lcdWindowY = v ↔ _
    simp [Gpu.Shows]
  · show g.lcdWindowX = v ↔ _
    simp [Gpu.Shows]
  · refine (eq_comm (a := (0 : Byte))).trans ?_
    simp [Gpu.Shows]

/-- SCY is written, and SCX read back. -/
theorem scroll_registers_crossed :
    0xFF42 ∈ readWriteRegisters ∧
      mmuReadByte (mmuWriteByte Machine.powerOn 0xFF42 1).1 0xFF42 ≠ 1 := by decide

/-- **When a GPU register reads back what was written**, and nothing else changes: for two
addresses that are not crossed, and for those that are, if the value is there already.  What is
stored to one address of the scroll is read at the other, and so it is with the two of the
window. -/
theorem gpuRegisters_lawful_iff (m : Machine) {a b : Word} (ha : a ∈ readWriteRegisters)
    (hb : b ∈ readWriteRegisters) (v : Byte) :
    mmuReadByte (mmuWriteByte m a v).1 b = (if b = a then v else mmuReadByte m b) ↔
      (Crossed a b → m.gpu.Shows b v) := by
  have hlaw := gpuRegisterFile.lawful_iff (s := m.gpu.field) (a := a) (b := b) (v := v)
  rw [RegisterFile.Lawful, ← mmuWriteByte_of_mem m ha, ← mmuReadByte_of_mem _ hb,
    ← mmuReadByte_of_mem _ hb, connected_iff_eq_iff a ha b hb] at hlaw
  rw [hlaw, mmuReadByte_of_mem m hb, ← imp_iff_not_or]
  exact imp_congr_right fun h ↦ read_eq_iff_shows h m.gpu v

/-- LYC reads back. -/
theorem gpuRegisters_lawful_iff_lyc :
    mmuReadByte (mmuWriteByte Machine.powerOn 0xFF45 7).1 0xFF45 = 7 :=
  (gpuRegisters_lawful_iff Machine.powerOn (a := 0xFF45) (b := 0xFF45) (by decide) (by decide)
    7).2 fun h ↦ absurd h (by decide)

end GameBloat
