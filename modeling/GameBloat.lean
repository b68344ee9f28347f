import GameBloat.Library.System
import GameBloat.Library.StackMachine
import GameBloat.Library.CarryClock
import GameBloat.Library.TimedRun
import GameBloat.Library.Latch
import GameBloat.Library.DoWhile
import GameBloat.Library.Requests
import GameBloat.Library.BankMap
import GameBloat.Library.DigitSerial
import GameBloat.Library.Slips
import GameBloat.Library.RegisterFile
import GameBloat.Library.Unicode
import GameBloat.Library.Framing
import GameBloat.Library.BlockHash
import GameBloat.Library.Sha1
import GameBloat.Library.Base64
import GameBloat.Machine
import GameBloat.Cartridge.Controllers
import GameBloat.Interrupt.Registers
import GameBloat.Gpu.Registers
import GameBloat.Gpu.Step
import GameBloat.Gpu.Scan
import GameBloat.Memory.Map
import GameBloat.Memory.Law
import GameBloat.Gpu.RegisterFile
import GameBloat.Interrupt.RegisterLaw
import GameBloat.Cpu.Alu
import GameBloat.Cpu.Instructions
import GameBloat.Cpu.BaseOpcodeTable
import GameBloat.Cpu.CBOpcodeTable
import GameBloat.Cpu.Step
import GameBloat.Cpu.Operands
import GameBloat.Cpu.BaseDecoder
import GameBloat.Cpu.BitFamily
import GameBloat.Cpu.Moves
import GameBloat.Cpu.Stack
import GameBloat.Cpu.RotateFamily
import GameBloat.Cpu.Calls
import GameBloat.Cpu.ControlFlow
import GameBloat.Cpu.Flow
import GameBloat.Cpu.Subroutines
import GameBloat.Cpu.PushPop
import GameBloat.Cpu.StackFormat
import GameBloat.Cpu.Arithmetic
import GameBloat.Cpu.MultiByte
import GameBloat.Cpu.Decimal
import GameBloat.Cpu.Places
import GameBloat.Cpu.MultiByteShift
import GameBloat.Cpu.IncDec
import GameBloat.Cpu.AddHL
import GameBloat.Cpu.AddSP
import GameBloat.Interrupt.Step
import GameBloat.Interrupt.Dispatch
import GameBloat.Interrupt.Serve
import GameBloat.Loop
import GameBloat.Interrupt.Ticks
import GameBloat.Interrupt.Reentry
import GameBloat.Gpu.Clock
import GameBloat.Gpu.Timeline
import GameBloat.Gpu.Frames
import GameBloat.Gpu.Bounds
import GameBloat.Cartridge.Load
import GameBloat.Cartridge.PowerUpCheck
import GameBloat.Cartridge.Acceptance
import GameBloat.Cartridge.Accesses
import GameBloat.Cartridge.BankRegisters
import GameBloat.Cartridge.LatchedClock
import GameBloat.Cartridge.ClockTime
import GameBloat.Cartridge.SetClock
import GameBloat.Cartridge.RegisterInvariant
import GameBloat.Cartridge.HaltedClock
import GameBloat.Cartridge.RomBanks
import GameBloat.Cartridge.RamBanks
import GameBloat.Cartridge.WriteProtection
import GameBloat.Cartridge.Refusals
import GameBloat.Gpu.VideoRam
import GameBloat.Gpu.TileCache
import GameBloat.Gpu.Background
import GameBloat.Observation
import GameBloat.Gpu.Palette
import GameBloat.Gpu.Lcd
import GameBloat.Gpu.SwitchedOff
import GameBloat.Gpu.StatInterrupts
import GameBloat.Gpu.Status
import GameBloat.Gpu.LineCounter
import GameBloat.Gpu.Schedule
import GameBloat.Gpu.Picture
import GameBloat.Platforms.Reset
import GameBloat.Platforms.HalfReset
import GameBloat.Platforms.IoPorts
import GameBloat.Interrupt.AllOrOne
import GameBloat.Platforms.FlagRegister
import GameBloat.Programs.Code
import GameBloat.Programs.BlockCopy
import GameBloat.Programs.StraightLine
import GameBloat.Programs.WaitForLine
import GameBloat.Platforms.Leftovers
import GameBloat.Platforms.ServerLoop
import GameBloat.Platforms.Handshake
import GameBloat.WebSocket.Utf8
import GameBloat.WebSocket.Receiver
import GameBloat.WebSocket.Protocol
import GameBloat.WebSocket.Send
import GameBloat.WebSocket.Reading
import GameBloat.WebSocket.ReadFrame
import GameBloat.WebSocket.Rounds
import GameBloat.WebSocket.Session
import GameBloat.WebSocket.Delivery
import GameBloat.WebSocket.Overflow
import GameBloat.WebSocket.Sha1
import GameBloat.WebSocket.Base64
import GameBloat.WebSocket.Opening
