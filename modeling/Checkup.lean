import Checkup.Main
import Checkup.Message
import Checkup.Rehearsal
import Checkup.Proofs.Collect
import Checkup.Proofs.Settings.Root
import Checkup.Proofs.Isolation
import Checkup.Proofs.Terminal.MarkHistory
import Checkup.Proofs.Terminal.Gutter
import Checkup.Proofs.LastReports
import Checkup.Proofs.Picking
import Checkup.Proofs.Invocation
import Checkup.Proofs.Program.Arguments
import Checkup.Proofs.ToolOutput.Checkstyle
import Checkup.Proofs.ToolOutput.TextRow
import Checkup.Proofs.ToolOutput.CheckstyleReport
import Checkup.Proofs.ToolOutput.LineByLine
import Checkup.Proofs.ToolOutput.LinterLine
import Checkup.Proofs.SessionsApart
import Checkup.Proofs.Text.ReferenceJumps
import Checkup.Proofs.Text.Spelling
import Checkup.Proofs.ToolOutput.Sifting
import Checkup.Proofs.Path.NormalForm
import Checkup.Proofs.FindingLines
import Checkup.Proofs.Path.Label
import Checkup.Proofs.Settings.FirstDocument
