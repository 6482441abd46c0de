import CommandShell.Main
import CommandShell.Proofs.Line.Spelling
import CommandShell.Proofs.Line.Words
import CommandShell.Proofs.Sequencer.Turns
import CommandShell.Proofs.Sequencer.Waiting
import CommandShell.Proofs.Session.Rounds
import CommandShell.Proofs.Shell.EmptyWords
import CommandShell.Proofs.Shell.SingleLine
import CommandShell.Proofs.Sequencer.Unblocked
import CommandShell.Proofs.Shell.Verbosity
import CommandShell.Proofs.TaskTable.History
import CommandShell.Proofs.TaskTable.Ledger
import CommandShell.Text.Words
import CommandShell.Proofs.TaskTable.Watching
import CommandShell.Proofs.Sequencer.Timing
import CommandShell.Proofs.TaskTable.Drained
import CommandShell.Proofs.Shell.LineOutput
import CommandShell.Proofs.Sequencer.Breakdown
import CommandShell.Proofs.Session.Breakdown
import CommandShell.Proofs.Console.Emoji
import CommandShell.Proofs.Console.Report
import CommandShell.Proofs.Session.Stopping
import CommandShell.Proofs.Console.Announcement
import CommandShell.Proofs.Shell.ExitCode
import CommandShell.Proofs.Session.Sources
import CommandShell.Proofs.Sequencer.Renaming
import CommandShell.Proofs.Shell.Records
import CommandShell.Proofs.TaskTable.Answering
import CommandShell.Proofs.TaskTable.Endings
import CommandShell.Proofs.Registry.Names
import CommandShell.Proofs.LineSource.Pieces
import CommandShell.Proofs.Number.Rounding
import CommandShell.Proofs.Number.Decimal
import CommandShell.Proofs.Program.Arguments
import CommandShell.Proofs.Options.Groups
import CommandShell.Proofs.Shell.Crashes
import CommandShell.Proofs.Shell.Messages
import CommandShell.Proofs.Diagnosis.Outcome
import CommandShell.Proofs.Shell.Keywords
