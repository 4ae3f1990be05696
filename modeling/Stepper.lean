import Stepper.Desktop.Drawing
import Stepper.Main
import Stepper.Proofs.Text.Piecewise
import Stepper.Proofs.Asm.Spelling
import Stepper.Proofs.Asm.Normal
import Stepper.Proofs.Asm.Source
import Stepper.Proofs.Asm.Prepared
import Stepper.Proofs.Files.Utf8
import Stepper.Proofs.Machine.Loading
import Stepper.Proofs.Asm.Immediate
import Stepper.Proofs.Asm.Splitting
import Stepper.Proofs.Unicode.Letter
import Stepper.Proofs.Asm.Kinds
import Stepper.Proofs.Asm.Labels
import Stepper.Proofs.Asm.Reading
import Stepper.Proofs.Machine.Execution
import Stepper.Proofs.Machine.Labels
import Stepper.Proofs.Machine.Simulation
import Stepper.Proofs.Session.Command
import Stepper.Proofs.Session.Step
import Stepper.Proofs.Machine.Effect
import Stepper.Proofs.Machine.Range
import Stepper.Proofs.Session.Words
import Stepper.Proofs.Machine.Memory
import Stepper.Proofs.Machine.Branching
import Stepper.Proofs.Session.Reset
import Stepper.Proofs.Config.Valid
import Stepper.Proofs.View.Window
import Stepper.Proofs.Session.CodeView
import Stepper.Proofs.Session.Failure
import Stepper.Proofs.Asm.Columns
import Stepper.Proofs.Session.Columns
import Stepper.Proofs.Asm.Blocks
import Stepper.Proofs.Text.Lines
import Stepper.Proofs.Asm.LineComment
import Stepper.Proofs.Machine.LineComment
import Stepper.Proofs.Files.Device
import Stepper.Proofs.Snapshot.Export
import Stepper.Proofs.Snapshot.Html
import Stepper.Proofs.Snapshot.CodePanel
import Stepper.Proofs.Config.File
import Stepper.Proofs.CommandLine.Faults
import Stepper.Proofs.Config.RoundTrip
import Stepper.Proofs.Desktop.Saved
import Stepper.Proofs.Desktop.Typing
import Stepper.Proofs.Desktop.Shown
import Stepper.Proofs.Input.Focus
import Stepper.Proofs.Session.Commit
import Stepper.Proofs.Session.Entry
import Stepper.Proofs.Machine.Arithmetic
import Stepper.Proofs.Session.Edit
import Stepper.Proofs.Session.Straight
import Stepper.Proofs.Asm.Written
import Stepper.Proofs.Input.Buffer
import Stepper.Proofs.Numeral.Typed
import Stepper.Proofs.Asm.Final
import Stepper.Proofs.Session.Code
