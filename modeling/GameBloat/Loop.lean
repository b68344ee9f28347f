import GameBloat.Cpu.Moves
import GameBloat.Gpu.Scan
import GameBloat.Library.System

/-!
# The main loop

`LoopCycle`: one instruction, the GPU told how many ticks it took, the interrupts.  The platforms'
main programs do nothing else to the machine while it runs.

`gameboy` is the machine as a system driven by events.  A loop cycle is one of them; the others
are its parts on their own, with operands of any value, so that a statement can say under which
events it holds.  This matters for how strong the results about runs are.  A result about every
list of events holds whatever the program in the cartridge does, whatever is stored where and
however the GPU is called; the loop cycle is then one case among four, and what it does is bounded
by what its parts do.  A result about the main loop alone would have to know which program runs.

The outputs of the system are the calls of the GPU, `renderScan` among them, in the order in which
they are made.  That is how a statement can speak of lines drawn and of the picture being updated
without any of it being kept in the state.

* `ReachedBy allowed` says that a machine is reached from a fresh reset of the GPU by events of
  one kind, and `ReachedBy.invariant` is the induction over such runs.
* `cpuStep_gpu` and `interruptStep_gpu` reduce "the CPU keeps a property of the GPU" to "stores
  keep it", since a store is the only way in which an instruction reaches the GPU.

The clock on the wall is an event too, since MBC3 reads it, and the model must not fix how much
time passes between two instructions.
-/

set_option autoImplicit false

namespace GameBloat

/-- `LoopCycle`. -/
def loopCycle (m : Machine) : Machine :=
  let (m, aCpuTicks) := cpuStep m
  let m := gpuStep m aCpuTicks
  interruptStep m

/-- What can happen to the machine.  The first event is what the main program does; the next two
are its parts, with operands of any value; the last is not done by the program at all.  A run is a
list of these in any order, and so are the runs that statements are about. -/
inductive Event
  | loopCycle
  | gpuStep (tick : CInt)
  | mmuWriteByte (address : Word) (value : Byte)
  /-- The clock on the wall, which MBC3 reads, moves on. -/
  | clock (time : ℤ)

/-- The machine after an event. -/
def Event.step (m : Machine) : Event → Machine
  | .loopCycle => GameBloat.loopCycle m
  | .gpuStep tick => GameBloat.gpuStep m tick
  | .mmuWriteByte address value => storeByte m address value
  | .clock time => { m with time }

/-- The GPU's calls in an event. -/
def Event.calls (m : Machine) : Event → List GpuCall
  | .loopCycle => gpuStepCalls (cpuStep m).1 (cpuStep m).2
  | .gpuStep tick => gpuStepCalls m tick
  | .mmuWriteByte _ _ => []
  | .clock _ => []

/-- The value that an event stores to the addresses from `lo` to `hi`.  Only a store on its own
counts: what an instruction of a loop cycle stores is not known from the event, so the results
that use this are about runs in which the stores are visible. -/
def Event.writtenTo (lo hi : ℕ) : Event → Option Byte
  | .mmuWriteByte address value => GameBloat.writtenTo lo hi address value
  | .clock _ | .loopCycle | .gpuStep _ => none

/-- The machine as a system whose outputs are the GPU's calls.  Its runs are lists of events of
any length and in any order, so every interleaving of the parts of a loop cycle is among them.
The calls are what can be observed of the renderer and of the requests without looking into the
state. -/
def gameboy : System Machine Event GpuCall := ⟨Event.step, Event.calls⟩

/-- `gpuReset` on the whole machine. -/
def Machine.gpuReset (m : Machine) : Machine := { m with gpu := GameBloat.gpuReset m.gpu }

/-- `m` is reached by events of the kind `allowed` from a machine whose GPU has just been reset.
The rest of that first machine is arbitrary: no property of the registers, the memory or the
cartridge is assumed. -/
def ReachedBy (allowed : Event → Prop) (m : Machine) : Prop :=
  ∃ (m₀ : Machine) (events : List Event), (∀ e ∈ events, allowed e) ∧
    gameboy.run m₀.gpuReset events = m

/-- A property of every freshly reset GPU that the allowed events keep holds wherever they lead. -/
theorem ReachedBy.invariant {allowed : Event → Prop} {I : Machine → Prop}
    (hreset : ∀ m : Machine, I m.gpuReset)
    (hstep : ∀ m e, allowed e → I m → I (gameboy.step m e)) {m : Machine}
    (h : ReachedBy allowed m) : I m := by
  obtain ⟨m₀, events, hevents, rfl⟩ := h
  exact System.run_invariant hstep (hreset m₀) hevents

/-- The power-on machine with the LCD on, near the end of line 143. -/
def endOfPicture : Machine :=
  { Machine.powerOn with
    gpu := { Machine.powerOn.gpu with
      lcdControl := 0x80, mode := .hblank, lcdYCoordinate := 143, modeClock := 190 } }

/-! ## What the CPU and the interrupts keep -/

/-- A property of the GPU that stores keep, the CPU keeps.  The induction is over the moves of an
instruction, and only the move that stores can touch the GPU. -/
theorem CpuMoves.gpu {P : Gpu → Prop}
    (hwrite : ∀ g address g', GpuWrite g address g' → P g → P g') {m m' : Machine} {t : ℕ}
    (h : CpuMoves m t m') (hm : P m.gpu) : P m'.gpu := by
  refine h.preserves (P := fun m ↦ P m.gpu) (fun m n m' hmove hm ↦ ?_) hm
  cases hmove with
  | registers f => exact hm
  | write address value => exact hwrite _ _ _ (storeByte_gpu m address value) hm
  | ticks n => exact hm
  | interrupts => exact hm
  | stop => exact hm

theorem cpuStep_gpu {P : Gpu → Prop} (hwrite : ∀ g address g', GpuWrite g address g' → P g → P g')
    {m : Machine} (hm : P m.gpu) : P (cpuStep m).1.gpu := by
  obtain ⟨t, -, -, h, -⟩ := cpuStep_moves m
  exact h.gpu hwrite hm

theorem interruptStep_gpu {P : Gpu → Prop}
    (hwrite : ∀ g address g', GpuWrite g address g' → P g → P g') {m : Machine} (hm : P m.gpu) :
    P (interruptStep m).gpu := by
  obtain ⟨t, h⟩ := interruptStep_moves m
  exact h.gpu hwrite hm

end GameBloat
