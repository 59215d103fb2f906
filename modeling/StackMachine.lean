import StackMachine.Main
import StackMachine.Proofs.Bounds
import StackMachine.Proofs.Extension
import StackMachine.Proofs.Failure
import StackMachine.Proofs.Grammar
import StackMachine.Proofs.Layout
import StackMachine.Proofs.Observation
import StackMachine.Proofs.Renaming
import StackMachine.Proofs.Replay
import StackMachine.Proofs.Ring
import StackMachine.Proofs.Written
import StackMachine.Shell.Tree
import StackMachine.Proofs.History
import StackMachine.Proofs.Json.Grammar
import StackMachine.Proofs.Json.Program
import StackMachine.Proofs.Json.TraceLines
import StackMachine.Proofs.Effect
import StackMachine.Proofs.FirstError
import StackMachine.Proofs.Loading
import StackMachine.Proofs.Execution
import StackMachine.Proofs.Postfix
import StackMachine.Proofs.Forward
import StackMachine.Proofs.Listing
import StackMachine.Proofs.Columns
import StackMachine.Proofs.Reporting
import StackMachine.Proofs.Countdown
import StackMachine.Proofs.Layers
import StackMachine.Proofs.Pops
import StackMachine.Proofs.Checking
