import GameBloat.Loop

/-!
# Every frame draws every visible line once

The order of the lines comes from two counters, the mode and LY, which wrap around in different
functions.  As long as nobody else writes LCDC or LY, the mode is VBLANK exactly outside the
visible lines (`ScanPos.Coherent`), and the position of the scan alone says which lines of the
picture have been rendered so far: `ScanPos.drawn`.  `System.frames` turns that into a statement
about the calls between two entries into VBLANK.

The runs in question are calls of `gpuStep` with any number of ticks, in any grouping, and stores
to any address but LCDC and LY (`Event.Undisturbed`).  No clock appears in the argument.  A call
that is late makes its one mode change all the same, so the order of the lines does not depend on
being on time; only when they are drawn does.

The step lemma is `turn_frameStep`: the calls of one turn of the scan take the list of the lines
drawn so far from what it is at this position to what it is at the next, and are complete when
VBLANK is entered.  Its two cases are `ScanPos.drawn_of_enters`, from line 143 into VBLANK with
all 144 lines drawn, and `ScanPos.drawn_of_not_enters`, where the turn adds its own line if it
leaves VRAM_SCANLINE and nothing otherwise.  The run lemma is the library's.

The second half of `frame_draws_every_line` is about single calls: the VBLANK interrupt is
requested by the call that takes LY from 143 to 144, once, and by no other call of the run.
-/

set_option autoImplicit false

namespace GameBloat

/-- The line a call renders. -/
def rendered : GpuCall → Option Byte
  | .renderScan ly => some ly
  | _ => none

@[simp] theorem rendered_renderScan (ly : Byte) : rendered (.renderScan ly) = some ly := rfl

@[simp] theorem rendered_modeChange (mode : GpuMode) : rendered (.modeChange mode) = none := rfl

@[simp] theorem rendered_requestInterrupt (bit : Byte) :
    rendered (.requestInterrupt bit) = none := rfl

/-- The first `n` lines of a picture. -/
def lines (n : ℕ) : List Byte := (List.range n).map (BitVec.ofNat 8)

/-- How many lines of the picture have been rendered, at a coherent position. -/
def ScanPos.drawn : ScanPos → ℕ
  | ⟨.vblank, _⟩ => 0
  | ⟨.hblank, line⟩ => line.toNat + 1
  | ⟨.oamScanline, line⟩ => line.toNat
  | ⟨.vramScanline, line⟩ => line.toNat

/-- The line to be drawn next is the one that is missing from the list. -/
theorem lines_succ (line : Byte) : lines (line.toNat + 1) = lines line.toNat ++ [line] := by
  rw [lines, lines, List.range_succ, List.map_append, List.map_singleton, BitVec.ofNat_toNat,
    BitVec.setWidth_eq]

/-! ## Quiet calls -/

section

variable {quiet : List GpuCall} (h : ∀ c ∈ quiet, c.Quiet)

include h

/-- Quiet calls render no line. -/
theorem filterMap_rendered_quiet : quiet.filterMap rendered = [] := by
  rw [List.filterMap_eq_nil_iff]
  intro c hc
  cases c with
  | renderScan ly => exact absurd rfl ((h _ hc).1 ly)
  | _ => rfl

theorem modeChange_notMem_quiet (mode : GpuMode) : GpuCall.modeChange mode ∉ quiet :=
  fun hc ↦ (h _ hc).2.1 mode rfl

theorem request_notMem_quiet : GpuCall.requestInterrupt vblankInterrupt ∉ quiet :=
  fun hc ↦ (h _ hc).2.2 rfl

end

/-! ## One turn of the scan -/

/-- Entering VBLANK, from a visible line. -/
def ScanPos.EntersVblank (p : ScanPos) : Prop := p.next.mode = .vblank ∧ p.mode ≠ .vblank

instance (p : ScanPos) : Decidable p.EntersVblank := inferInstanceAs (Decidable (_ ∧ _))

/-- VBLANK is entered at the end of line 143, and the mode alone shows it. -/
theorem ScanPos.entersVblank_iff {p : ScanPos} (hp : p.Coherent) :
    p.EntersVblank ↔ p.line = 143 ∧ p.next.line = 144 := by
  have hall : ∀ (mode : GpuMode) (line : Byte), (ScanPos.mk mode line).Coherent →
      ((ScanPos.mk mode line).EntersVblank ↔
        line = 143 ∧ (ScanPos.mk mode line).next.line = 144) := by
    intro mode
    cases mode <;> decide
  exact hall p.mode p.line hp

/-- The picture is complete when VBLANK is entered, and the next one is begun. -/
theorem ScanPos.drawn_of_enters {p : ScanPos} (hp : p.Coherent) (h : p.EntersVblank) :
    p.drawn = 144 ∧ p.next.drawn = 0 := by
  have hall : ∀ (mode : GpuMode) (line : Byte), (ScanPos.mk mode line).Coherent →
      (ScanPos.mk mode line).EntersVblank →
        (ScanPos.mk mode line).drawn = 144 ∧ (ScanPos.mk mode line).next.drawn = 0 := by
    intro mode
    cases mode <;> decide
  exact hall p.mode p.line hp h

/-- Any other turn leaves the picture alone, or adds its own line.  In VBLANK nothing is drawn,
and the turn from line 153 to line 0 begins a picture with no lines in it. -/
theorem ScanPos.drawn_of_not_enters {p : ScanPos} (hp : p.Coherent) (h : ¬p.EntersVblank) :
    p.next.drawn = p.drawn + (if p.mode = .vramScanline then 1 else 0) := by
  have hall : ∀ (mode : GpuMode) (line : Byte), (ScanPos.mk mode line).Coherent →
      ¬(ScanPos.mk mode line).EntersVblank → (ScanPos.mk mode line).next.drawn =
        (ScanPos.mk mode line).drawn + (if mode = .vramScanline then 1 else 0) := by
    intro mode
    cases mode <;> decide
  exact hall p.mode p.line hp h

/-- The landmarks of that turn: no line, one mode change, one request. -/
theorem ScanPos.EntersVblank.calls {p : ScanPos} (h : p.EntersVblank) :
    p.draws = [] ∧ p.enters = [.modeChange .vblank] ∧
      p.requests = [.requestInterrupt vblankInterrupt] := by
  have hmode : p.mode ≠ .vramScanline := by
    obtain ⟨mode, line⟩ := p
    rintro rfl
    exact GpuMode.noConfusion h.1
  rw [EntersVblank] at h
  rw [draws, enters, requests, if_neg hmode, if_pos h, h.1, if_neg h.2.symm]
  exact ⟨rfl, rfl, rfl⟩

section

variable {p : ScanPos} {quiet quiet' : List GpuCall} (hquiet : ∀ c ∈ quiet, c.Quiet)
  (hquiet' : ∀ c ∈ quiet', c.Quiet)

include hquiet hquiet'

/-- The lines that a turn renders are those of its position. -/
theorem filterMap_rendered_turn :
    (p.draws ++ quiet ++ (p.enters ++ (quiet' ++ p.requests))).filterMap rendered =
      p.draws.filterMap rendered := by
  have henters : p.enters.filterMap rendered = [] := by rw [ScanPos.enters]; split <;> rfl
  have hrequests : p.requests.filterMap rendered = [] := by rw [ScanPos.requests]; split <;> rfl
  simp only [List.filterMap_append, filterMap_rendered_quiet hquiet,
    filterMap_rendered_quiet hquiet', henters, hrequests, List.append_nil]

/-- A turn enters VBLANK, and requests its interrupt, once or not at all. -/
theorem count_turn :
    (p.draws ++ quiet ++ (p.enters ++ (quiet' ++ p.requests))).count (.modeChange .vblank) =
        (if p.EntersVblank then 1 else 0) ∧
      (p.draws ++ quiet ++ (p.enters ++ (quiet' ++ p.requests))).count
        (.requestInterrupt vblankInterrupt) = if p.EntersVblank then 1 else 0 := by
  have hmode {l : List GpuCall} (h : ∀ c ∈ l, c.Quiet) : l.count (.modeChange .vblank) = 0 :=
    List.count_eq_zero.2 (modeChange_notMem_quiet h .vblank)
  have hrequest {l : List GpuCall} (h : ∀ c ∈ l, c.Quiet) :
      l.count (.requestInterrupt vblankInterrupt) = 0 :=
    List.count_eq_zero.2 (request_notMem_quiet h)
  have hdraws : p.draws.count (.modeChange .vblank) = 0 ∧
      p.draws.count (.requestInterrupt vblankInterrupt) = 0 := by
    rw [ScanPos.draws]
    split <;> exact ⟨rfl, rfl⟩
  have hlandmarks : p.enters.count (.modeChange .vblank) + p.requests.count (.modeChange .vblank) =
        (if p.EntersVblank then 1 else 0) ∧
      p.enters.count (.requestInterrupt vblankInterrupt) +
        p.requests.count (.requestInterrupt vblankInterrupt) =
          if p.EntersVblank then 1 else 0 := by
    by_cases h : p.EntersVblank
    · rw [h.calls.2.1, h.calls.2.2, if_pos h]
      decide
    · have hrequests : p.requests = [] := if_neg h
      rw [if_neg h, hrequests, ScanPos.enters]
      by_cases hsame : p.next.mode = p.mode
      · rw [if_pos hsame]
        exact ⟨rfl, rfl⟩
      · have hnext : p.next.mode ≠ .vblank :=
          fun hnext ↦ h ⟨hnext, fun hmode ↦ hsame (hnext.trans hmode.symm)⟩
        simp [hsame, hnext]
  simp only [List.count_append, hdraws, hmode hquiet, hmode hquiet', hrequest hquiet,
    hrequest hquiet', Nat.zero_add, hlandmarks, and_self]

/-- The calls of a turn take the picture to what has been drawn at the next position, and the
picture is complete when VBLANK is entered. -/
theorem turn_frameStep (hp : p.Coherent) :
    System.FrameStep (.modeChange .vblank) rendered (lines 144) (lines p.drawn)
      (lines p.next.drawn) (p.draws ++ quiet ++ (p.enters ++ (quiet' ++ p.requests))) := by
  by_cases henters : p.EntersVblank
  · obtain ⟨hdraws, hmode, hrequests⟩ := henters.calls
    obtain ⟨hdrawn, hnext⟩ := ScanPos.drawn_of_enters hp henters
    refine .across quiet (quiet' ++ p.requests) ?_ (modeChange_notMem_quiet hquiet _) ?_ ?_ ?_
    · rw [hdraws, hmode]
      rfl
    · simp [hrequests, modeChange_notMem_quiet hquiet']
    · rw [filterMap_rendered_quiet hquiet, List.append_nil, hdrawn]
    · rw [List.filterMap_append, filterMap_rendered_quiet hquiet', hrequests, hnext]
      rfl
  · refine .inside ?_ ?_
    · rw [← List.count_eq_zero, (count_turn hquiet hquiet').1, if_neg henters]
    · rw [filterMap_rendered_turn hquiet hquiet', ScanPos.drawn_of_not_enters hp henters,
        ScanPos.draws]
      obtain ⟨mode, line⟩ := p
      cases mode with
      | vramScanline => exact lines_succ line
      | _ => exact (List.append_nil _).symm

end

/-! ## One event -/

/-- The events of a picture that nobody disturbs: the GPU steps, with any number of ticks, and
stores anywhere but in LCDC and LY. -/
def Event.Undisturbed : Event → Prop
  | .loopCycle => False
  | .gpuStep tick => 0 ≤ tick.toInt
  | .mmuWriteByte address _ => address ≠ 0xFF40 ∧ address ≠ 0xFF44
  | .clock _ => True

/-- A store elsewhere leaves the scan where it is.  Only a store to LCDC or to LY can move it. -/
theorem GpuWrite.pos {g g' : Gpu} {address : Word} (h : GpuWrite g address g')
    (h40 : address ≠ 0xFF40) (h44 : address ≠ 0xFF44) : g'.pos = g.pos := by
  cases h with
  | other h => exact ScanPos.ext h.mode h.lcdYCoordinate
  | vram => rfl
  | off value haddress => exact absurd haddress h40
  | on value haddress => exact absurd haddress h40
  | line haddress => exact absurd haddress h44

/-- Such an event keeps the scan coherent. -/
theorem Event.Undisturbed.coherent {m : Machine} {e : Event} (he : e.Undisturbed)
    (hm : m.gpu.pos.Coherent) : (gameboy.step m e).gpu.pos.Coherent := by
  cases e with
  | loopCycle => exact he.elim
  | gpuStep tick =>
    rcases (gpuStep_stepped m tick).pos with h | h
    · exact h ▸ hm
    · exact h ▸ hm.next
  | mmuWriteByte address value =>
    exact (storeByte_gpu m address value).pos he.1 he.2 ▸ hm
  | clock time => exact hm

/-- The step lemma: what one event adds to the picture. -/
theorem Event.Undisturbed.frameStep {m : Machine} {e : Event} (he : e.Undisturbed)
    (hm : m.gpu.pos.Coherent) :
    System.FrameStep (.modeChange .vblank) rendered (lines 144) (lines m.gpu.pos.drawn)
      (lines (gameboy.step m e).gpu.pos.drawn) (gameboy.out m e) := by
  have hsame {m' : Machine} (h : m'.gpu.pos = m.gpu.pos) : System.FrameStep (.modeChange .vblank)
      rendered (lines 144) (lines m.gpu.pos.drawn) (lines m'.gpu.pos.drawn) [] :=
    .inside List.not_mem_nil (by rw [h, List.filterMap_nil, List.append_nil])
  cases e with
  | loopCycle => exact he.elim
  | gpuStep tick =>
    have hout : gameboy.out m (.gpuStep tick) = gpuStepCalls m tick := rfl
    rw [hout]
    cases gpuStep_stepped m tick with
    | stays clock hstep hcalls => exact hcalls ▸ hsame (congrArg (fun m ↦ m.gpu.pos) hstep)
    | turns quiet quiet' hquiet hquiet' _ _ _ _ hpos hcalls =>
      rw [hcalls]
      exact hpos ▸ turn_frameStep hquiet hquiet' hm
  | mmuWriteByte address value => exact hsame ((storeByte_gpu m address value).pos he.1 he.2)
  | clock time => exact hsame rfl

/-! ## The VBLANK interrupt -/

/-- A call requests the VBLANK interrupt as often as it enters VBLANK: once in the call that takes
LY from 143 to 144, and never in another. -/
theorem gpuStepCalls_count {m : Machine} (hm : m.gpu.pos.Coherent) (tick : CInt) :
    (gpuStepCalls m tick).count (.modeChange .vblank) =
        (if m.gpu.lcdYCoordinate = 143 ∧ (gpuStep m tick).gpu.lcdYCoordinate = 144 then 1 else 0) ∧
      (gpuStepCalls m tick).count (.requestInterrupt vblankInterrupt) =
        if m.gpu.lcdYCoordinate = 143 ∧ (gpuStep m tick).gpu.lcdYCoordinate = 144 then 1
        else 0 := by
  cases gpuStep_stepped m tick with
  | stays clock hstep hcalls =>
    have hline : ¬(m.gpu.lcdYCoordinate = 143 ∧ (gpuStep m tick).gpu.lcdYCoordinate = 144) := by
      rw [hstep]
      rintro ⟨h143, h144⟩
      exact absurd (h143.symm.trans h144) (by decide)
    rw [hcalls, if_neg hline]
    exact ⟨rfl, rfl⟩
  | turns quiet quiet' hquiet hquiet' _ _ _ _ hpos hcalls =>
    have hline : (gpuStep m tick).gpu.lcdYCoordinate = m.gpu.pos.next.line :=
      congrArg ScanPos.line hpos
    have hiff := ScanPos.entersVblank_iff hm
    have hcount := count_turn (p := m.gpu.pos) hquiet hquiet'
    rw [if_congr hiff rfl rfl] at hcount
    rw [hcalls, hline]
    exact hcount

/-- **Every frame draws every visible line once.**  Between two entries into VBLANK, with no other
in between, the lines rendered are 0 to 143 in this order; and each call of `gpuStep` requests the
VBLANK interrupt once if it takes LY from 143 to 144, and not at all otherwise. -/
theorem frame_draws_every_line {m : Machine} (hm : m.gpu.pos.Coherent) {events : List Event}
    (hevents : ∀ e ∈ events, e.Undisturbed) :
    (∀ pre mid post, gameboy.history m events =
        pre ++ .modeChange .vblank :: (mid ++ .modeChange .vblank :: post) →
      .modeChange .vblank ∉ mid → mid.filterMap rendered = (List.range 144).map (BitVec.ofNat 8)) ∧
    ∀ before tick after, events = before ++ .gpuStep tick :: after →
      let s := gameboy.run m before
      (gpuStepCalls s tick).count (.requestInterrupt vblankInterrupt) =
          (gpuStepCalls s tick).count (.modeChange .vblank) ∧
        (gpuStepCalls s tick).count (.requestInterrupt vblankInterrupt) =
          if s.gpu.lcdYCoordinate = 143 ∧ (gpuStep s tick).gpu.lcdYCoordinate = 144 then 1
          else 0 := by
  constructor
  · have hframed : System.Framed (.modeChange .vblank) rendered (lines 144)
        (lines (gameboy.run m events).gpu.pos.drawn) (gameboy.history m events) :=
      System.frames (S := gameboy) (I := fun m ↦ m.gpu.pos.Coherent) (fun m ↦ lines m.gpu.pos.drawn)
        (fun _ _ he h ↦ he.coherent h) (fun _ _ he h ↦ he.frameStep h) hm hevents
    exact hframed.2
  · intro before tick after hsplit
    rw [hsplit, List.forall_mem_append] at hevents
    have hs : (gameboy.run m before).gpu.pos.Coherent :=
      System.run_invariant (S := gameboy) (I := fun m ↦ m.gpu.pos.Coherent)
        (fun _ _ he h ↦ Event.Undisturbed.coherent he h) hm hevents.1
    obtain ⟨hentry, hrequest⟩ := gpuStepCalls_count hs tick
    exact ⟨hrequest.trans hentry.symm, hrequest⟩

/-- The step that ends line 143, with a store to SCY before it, enters VBLANK and asks for its
interrupt. -/
theorem frame_draws_every_line_endOfPicture :
    (gpuStepCalls (storeByte endOfPicture 0xFF42 7) 100).count
      (.requestInterrupt vblankInterrupt) = 1 :=
  have hevents : ∀ e ∈ [Event.mmuWriteByte 0xFF42 7, .gpuStep 100], e.Undisturbed := by
    simp [Event.Undisturbed]
  (((frame_draws_every_line (m := endOfPicture) (by decide) hevents).2
    [.mmuWriteByte 0xFF42 7] 100 [] rfl).2).trans (by decide)

end GameBloat
