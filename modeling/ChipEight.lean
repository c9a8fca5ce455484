import ChipEight.Main
import ChipEight.Proofs.CommandLine.Debugger
import ChipEight.Proofs.Console.Budget
import ChipEight.Proofs.Console.Calls
import ChipEight.Proofs.Console.Faults
import ChipEight.Proofs.Console.Footprint
import ChipEight.Proofs.Console.Frames
import ChipEight.Proofs.Console.Halting
import ChipEight.Proofs.Console.Listing
import ChipEight.Proofs.Console.Loading
import ChipEight.Proofs.Console.Observers
import ChipEight.Proofs.Console.WellFormed
import ChipEight.Proofs.Machine.Arithmetic
import ChipEight.Proofs.Machine.Sprites
import ChipEight.Proofs.Memory.History
import ChipEight.Proofs.Window.Course
import ChipEight.Proofs.Window.Picture
import ChipEight.Proofs.Machine.Flow
import ChipEight.Proofs.Machine.Changes
import ChipEight.Proofs.Machine.Transfers
import ChipEight.Proofs.Display.Strokes
import ChipEight.Proofs.Text.Hex
import ChipEight.Proofs.Text.Spelling
import ChipEight.Proofs.Instruction.Patterns
import ChipEight.Proofs.Instruction.Pseudocode
import ChipEight.Proofs.Instruction.Assembly
import ChipEight.Proofs.Listing.Walk
import ChipEight.Proofs.Listing.Columns
import ChipEight.Proofs.Console.Strictness
import ChipEight.Proofs.Console.Waiting
import ChipEight.Proofs.Console.OtherSettings
import ChipEight.Proofs.Console.Shifts
import ChipEight.Proofs.Console.Depth
import ChipEight.Proofs.Console.Timers
import ChipEight.Proofs.Display.Views
import ChipEight.Proofs.Window.Keys
import ChipEight.Proofs.Keypad.Names
import ChipEight.Proofs.CommandLine.StartAddress
import ChipEight.Proofs.CommandLine.Settings
