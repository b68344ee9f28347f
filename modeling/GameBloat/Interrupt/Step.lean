import GameBloat.Cpu.Instructions

/-!
# Dispatching interrupts

The second half of `interrupt.c`: `interruptStep`, called once per main-loop cycle, and
`handleInterrupt`, which it calls with the bit and the entry address of the interrupt it serves.

Three things in this code are worth pointing out, since the definitions below follow it in each
and a reader may take them for mistakes of the model.  `handleInterrupt` takes the entry address
and does not use it: the call goes to the *number* of the interrupt.  The cascade asks for the
timer before the serial port, although the numbers are in the opposite order.  And the branch of
the timer sets `PC` and clears the request before it calls the handler, which does both again, so
that the `PC` that is pushed is no longer that of the interrupted program.

The master enable is cleared before the cascade is entered, whether or not it finds anything to
serve.  That it always does is a fact about reachable states (`GameBloat.Interrupt.AllOrOne`).
-/

set_option autoImplicit false

namespace GameBloat

/-- `VERT_BLNK_INTR_START`. -/
def vertBlnkIntrStart : Word := 0x40

/-- `LCDC_STATUS_INTR_START`. -/
def lcdcStatusIntrStart : Word := 0x48

/-- `TIMER_OVERFLOW_INTR`. -/
def timerOverflowIntr : Word := 0x50

/-- `SERIAL_TX_COMPLETION_INTR`. -/
def serialTxCompletionIntr : Word := 0x58

/-- `HIGH_LOW_P10_P13_INTR`. -/
def highLowP10P13Intr : Word := 0x60

/-- `interruptRegisters.request &= ~bit`. -/
def clearRequest (m : Machine) (bit : Byte) : Machine :=
  { m with interruptRegisters.request := m.interruptRegisters.request &&& ~~~bit }

/-- `handleInterrupt`: the call goes to the interrupt's bit, and the address is not used.  The
request is cleared, and 20 ticks are charged, on the counter only. -/
def handleInterrupt (m : Machine) (inInterrupt : Byte) (_inInterruptAddress : Word) : Machine :=
  let m := Cpu.callNn m (inInterrupt.setWidth 16)
  let m := clearRequest m inInterrupt
  Cpu.addTicks m 20

/-- The cascade of `interruptStep`, which picks the interrupt to serve.  The timer comes before
the serial port, and `PC` has already been overwritten when its handler is called. -/
def serveInterrupt (m : Machine) (flags : Byte) : Machine :=
  if flags &&& vblankInterrupt ≠ 0 then handleInterrupt m vblankInterrupt vertBlnkIntrStart
  else if flags &&& lcdInterrupt ≠ 0 then handleInterrupt m lcdInterrupt lcdcStatusIntrStart
  else if flags &&& timerInterrupt ≠ 0 then
    let m := m.onRegisters fun r ↦ { r with PC := timerOverflowIntr }
    let m := clearRequest m timerInterrupt
    handleInterrupt m timerInterrupt timerOverflowIntr
  else if flags &&& serialInterrupt ≠ 0 then
    handleInterrupt m serialInterrupt serialTxCompletionIntr
  else if flags &&& joypadInterrupt ≠ 0 then
    handleInterrupt m joypadInterrupt highLowP10P13Intr
  else m

/-- `interruptStep`: if interrupts are on and something is both enabled and requested, turn them
off and serve one interrupt; otherwise nothing.  The upper three bits of the registers are not
masked, so it may be that nothing is served although interrupts have been turned off. -/
def interruptStep (m : Machine) : Machine :=
  if m.interruptRegisters.masterEnable = 1 then
    let flags := m.interruptRegisters.enable &&& m.interruptRegisters.request
    if 0 < flags.toNat then
      serveInterrupt { m with interruptRegisters.masterEnable := 0 } flags
    else m
  else m

end GameBloat
