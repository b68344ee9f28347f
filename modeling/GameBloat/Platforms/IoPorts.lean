import GameBloat.Platforms.Reset

/-!
# The I/O ports are written and not read

Between 0xFF00 and 0xFF7F, `mmuWriteByte` has a case for the interrupt request and one for the GPU
registers, and puts everything else into `ioPorts`.  `mmuReadByte` has the same two cases, and
answers 0 to everything else: nothing ever reads `ioPorts`.  So of the table that `cpuReset`
writes, only the GPU registers read back, without the background palette, and the values that are
0 anyway.

That a port reads as 0 does not depend on the state (`mmuReadByte_of_ioPort`), so no writes that
follow make a difference, and a port reads back what was written to it exactly if that was 0.  The
addresses in question are described in two ways, as a range with two gaps and as those whose
stores end up in `ioPorts`, which are the same (`ioPort_iff`).

The second half of `ioPorts_read_iff` goes through the reset table.  Its entries for the GPU are
looked up in the state that the whole table leaves (`gpuReadRegister_resetGpu`), and an entry
outside the GPU reads back if it is 0.
-/

set_option autoImplicit false

namespace GameBloat

open Function (update)

/-- An address whose writes go to `ioPorts` (`ioPort_iff`). -/
def IoPort (address : Word) : Prop := IoAddress address ∧ ¬GpuAddress address

instance (address : Word) : Decidable (IoPort address) := inferInstanceAs (Decidable (_ ∧ _))

/-- A store to a port is a store to `ioPorts`, and to nothing else. -/
theorem storeByte_of_ioPort (m : Machine) {address : Word} (h : IoPort address) (value : Byte) :
    storeByte m address value =
      { m with ioPorts := update m.ioPorts (address.toNat - 0xFF00) value } := by
  have haddress : IoAddress (address, value).1 := h.1
  have hstore := storeByte_of_ioAddress m haddress
  rwa [ioStoreGpu, ioStorePorts, if_neg h.2, if_neg h.2] at hstore

/-- These are the addresses from 0xFF00 to 0xFF7F that are stored in `ioPorts`. -/
theorem ioPort_iff (address : Word) :
    IoPort address ↔ (0xFF00 ≤ address.toNat ∧ address.toNat < 0xFF80) ∧
      ∀ m value, (storeByte m address value).ioPorts (address.toNat - 0xFF00) = value := by
  constructor
  · intro h
    refine ⟨⟨h.1.1, h.1.2.1⟩, fun m value ↦ ?_⟩
    rw [storeByte_of_ioPort m h]
    dsimp only
    rw [Function.update_self]
  · rintro ⟨⟨hlo, hhi⟩, hstored⟩
    have hone := hstored Machine.powerOn 1
    have hne : address ≠ 0xFF0F := by
      rintro rfl
      exact absurd hone (by decide)
    have haddress : IoAddress (address, (1 : Byte)).1 := ⟨hlo, hhi, hne⟩
    refine ⟨haddress, fun hgpu ↦ ?_⟩
    have hstore := storeByte_of_ioAddress Machine.powerOn haddress
    rw [ioStorePorts, if_pos hgpu] at hstore
    rw [hstore] at hone
    exact absurd (show (0 : Byte) = 1 from hone) (by decide)

/-- What is read at an I/O register. -/
theorem mmuReadByte_of_ioAddress (m : Machine) {address : Word} (h : IoAddress address) :
    mmuReadByte m address = if GpuAddress address then gpuReadRegister m.gpu address else 0 := by
  obtain ⟨hlo, hhi, hne⟩ := h
  rw [mmuReadByte, if_neg (by omega), if_neg (by omega), if_neg (by omega), if_neg (by omega),
    if_neg (by omega), if_neg (by omega), if_neg (by omega), if_pos hhi, if_neg hne]
  rfl

/-- A port reads as 0 in every state. -/
theorem mmuReadByte_of_ioPort (m : Machine) {address : Word} (h : IoPort address) :
    mmuReadByte m address = 0 := (mmuReadByte_of_ioAddress m h.1).trans (if_neg h.2)

/-- The GPU after the reset is that after the stores of the table. -/
theorem cpuReset_gpu (m : Machine) : (cpuReset m).gpu = resetGpu m.gpu := by
  simp only [cpuReset]
  rw [storeAll_of_ioAddress _ forall_mem_resetWrites, foldl_ioStoreGpu]
  rfl

/-- The entries of the reset table for the GPU, nine of them. -/
def resetGpuWrites : List (Word × Byte) :=
  [(0xFF40, 0x91), (0xFF42, 0x00), (0xFF43, 0x00), (0xFF45, 0x00), (0xFF47, 0xFC), (0xFF48, 0xFF),
    (0xFF49, 0xFF), (0xFF4A, 0x00), (0xFF4B, 0x00)]

/-- The entries between 0xFF40 and 0xFF4B are those. -/
theorem mem_resetGpuWrites {write : Word × Byte} (h : write ∈ resetAddresses.zip resetValues)
    (hgpu : GpuAddress write.1) : write ∈ resetGpuWrites := by
  have hall : ((resetAddresses.zip resetValues).all fun write ↦
      GpuAddress write.1 → write ∈ resetGpuWrites) = true := by decide
  exact of_decide_eq_true (List.all_eq_true.1 hall write h) hgpu

/-- A GPU register after the reset, from the table but for the background palette. -/
theorem gpuReadRegister_resetGpu (g : Gpu) {write : Word × Byte} (h : write ∈ resetGpuWrites) :
    gpuReadRegister (resetGpu g) write.1 = if write.1 = 0xFF47 then 0 else write.2 := by
  simp only [resetGpuWrites, List.mem_cons, List.not_mem_nil, or_false] at h
  rcases h with rfl | rfl | rfl | rfl | rfl | rfl | rfl | rfl | rfl <;> rfl

/-- What is read of the table after a reset. -/
theorem mmuReadByte_cpuReset_iff (m : Machine) {write : Word × Byte}
    (h : write ∈ resetAddresses.zip resetValues) :
    mmuReadByte (cpuReset m) write.1 = write.2 ↔
      write.2 = 0 ∨ (GpuAddress write.1 ∧ write.1 ≠ 0xFF47) := by
  have haddress := forall_mem_resetWrites write h
  rw [mmuReadByte_of_ioAddress _ haddress]
  by_cases hgpu : GpuAddress write.1
  · rw [if_pos hgpu, cpuReset_gpu, gpuReadRegister_resetGpu _ (mem_resetGpuWrites h hgpu),
      and_iff_right hgpu]
    by_cases hpalette : write.1 = 0xFF47
    · rw [if_pos hpalette, eq_comm, or_iff_left (not_not.2 hpalette)]
    · rw [if_neg hpalette]
      exact iff_of_true rfl (.inr hpalette)
  · rw [if_neg hgpu, eq_comm]
    exact (or_iff_left fun h ↦ hgpu h.1).symm

/-- What is written to the joypad port is not read back, nor is the first volume of the table. -/
theorem ioPorts_not_read :
    IoPort 0xFF00 ∧ mmuReadByte (mmuWriteByte Machine.powerOn 0xFF00 0x30).1 0xFF00 ≠ 0x30 ∧
      (0xFF10, 0x80) ∈ resetAddresses.zip resetValues ∧
      mmuReadByte (cpuReset Machine.powerOn) 0xFF10 ≠ 0x80 := by
  refine ⟨by decide, ?_, ?_, ?_⟩
  · rw [mmuReadByte_of_ioPort _ (by decide)]
    decide
  · decide
  · rw [mmuReadByte_of_ioPort _ (by decide)]
    decide

/-- **When an I/O port reads back what was written**, after any writes that follow: if that is 0.
After a reset, an entry of the table reads back if it is 0 or in the GPU, the background palette
apart. -/
theorem ioPorts_read_iff (m : Machine) :
    (∀ address, IoPort address → ∀ value writes,
      mmuReadByte (storeAll (mmuWriteByte m address value).1 writes) address = value ↔
        value = 0) ∧
    ∀ write ∈ resetAddresses.zip resetValues, mmuReadByte (cpuReset m) write.1 = write.2 ↔
      write.2 = 0 ∨ (GpuAddress write.1 ∧ write.1 ≠ 0xFF47) := by
  refine ⟨fun address h value writes ↦ ?_, fun write h ↦ mmuReadByte_cpuReset_iff m h⟩
  rw [mmuReadByte_of_ioPort _ h, eq_comm]

end GameBloat
