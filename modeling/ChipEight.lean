import ChipEight.Listing
import ChipEight.Machine.Report
import ChipEight.Operation
import ChipEight.Random.ChaCha
import ChipEight.Run.Schedule
import ChipEight.Main
import ChipEight.Proofs.Reference
import ChipEight.Proofs.Similar
import ChipEight.Proofs.Brackets
import ChipEight.Proofs.Run.KeyScript
import ChipEight.Proofs.StackLimit
import ChipEight.Proofs.Run.Checked
import ChipEight.Proofs.Numeral
import ChipEight.Proofs.Assembly
import ChipEight.Proofs.Listing
import ChipEight.Proofs.SystemCalls
import ChipEight.Proofs.Run.LastStep
import ChipEight.Proofs.Run.BuzzerLog
import ChipEight.Proofs.Independence
import ChipEight.Proofs.Reset
import ChipEight.Proofs.KeyWait
import ChipEight.Proofs.Faults
import ChipEight.Proofs.Flows
import ChipEight.Proofs.Randomness
import ChipEight.Proofs.ProgramViews
import ChipEight.Proofs.Loose.Calls
import ChipEight.Proofs.Loading
import ChipEight.Proofs.Run.Pace
import ChipEight.Proofs.Drawing
import ChipEight.Proofs.Command.Ending
import ChipEight.Proofs.Overlay
import ChipEight.Proofs.Transfers
import ChipEight.Proofs.HeldKeys
import ChipEight.Proofs.Refusal
import ChipEight.Proofs.Command.Arguments
import ChipEight.Proofs.Reports
import ChipEight.Proofs.Run.Accepted
import ChipEight.Proofs.LastWrites
