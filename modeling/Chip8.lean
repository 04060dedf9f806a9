import Chip8.Arithmetic
import Chip8.Listing
import Chip8.Text.Quoted
import Chip8.Text.LowerCase
import Chip8.Text.Wide
import Chip8.Text.ZeroWidth
import Chip8.Numeral.Decimal
import Chip8.Numeral.Number
import Chip8.Memory.Dump
import Chip8.Registers
import Chip8.Screen
import Chip8.Random
import Chip8.Settings
import Chip8.Main
import Chip8.Logging
import Chip8.Machine.Step
import Chip8.Proofs.Machine.Bounded
import Chip8.Proofs.Machine.Faults
import Chip8.Proofs.Machine.KeyWait
import Chip8.Proofs.Pacing.Turn
import Chip8.Proofs.Pacing.Course
import Chip8.Proofs.Machine.Unseen
import Chip8.Proofs.Pacing.FirstStop
import Chip8.Proofs.Pacing.Slices
import Chip8.Proofs.Machine.Alike
import Chip8.Proofs.Machine.Reset
import Chip8.Proofs.Numeral.Rounding
import Chip8.Proofs.Timers.Drain
import Chip8.Proofs.Timers.Update
import Chip8.Proofs.Machine.Elapsed
import Chip8.Proofs.Machine.Calls
import Chip8.Proofs.CommandLine.Prepared
import Chip8.Proofs.CommandLine.Presses
import Chip8.Proofs.Bare.Machine
import Chip8.Proofs.Bare.Safety
import Chip8.Proofs.Bare.Total
import Chip8.Proofs.Bare.Image
import Chip8.Proofs.Bare.Agreement
import Chip8.Proofs.Registers
import Chip8.Proofs.Text.Hexadecimal
import Chip8.Proofs.Listing.Rows
import Chip8.Proofs.Machine.Stages
import Chip8.Proofs.Machine.Trace
import Chip8.Proofs.Machine.Writes
import Chip8.Proofs.Machine.Changes
import Chip8.Proofs.Machine.TimerHistory
import Chip8.Proofs.Machine.Environment
import Chip8.Proofs.Machine.AtEnd
import Chip8.Proofs.Screen.Sprites
import Chip8.Proofs.Machine.Draw
import Chip8.Proofs.Memory.Actions
import Chip8.Proofs.Bare.Store
import Chip8.Proofs.Numeral.Exact
import Chip8.Proofs.Pacing.WallTime
import Chip8.Proofs.Screen.Parity
import Chip8.Proofs.Machine.Counter
import Chip8.Proofs.Machine.Arithmetic
import Chip8.Proofs.Machine.SavedRegisters
import Chip8.Proofs.Keypad.Deliveries
import Chip8.Proofs.Keypad.Bindings
import Chip8.Proofs.Listing.Sweep
import Chip8.Proofs.Memory.Stretches
import Chip8.Proofs.Listing.Columns
import Chip8.Proofs.Listing.Statistics
import Chip8.Proofs.CommandLine.Values
import Chip8.Proofs.Memory.Dump
import Chip8.Proofs.Bare.Pixels
