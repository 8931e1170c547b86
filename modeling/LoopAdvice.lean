import LoopAdvice.Json.Reader
import LoopAdvice.Files.Machine
import LoopAdvice.Program
import LoopAdvice.Proofs.Loop.Segments
import LoopAdvice.Proofs.Loop.Division
import LoopAdvice.Proofs.Loop.Appending
import LoopAdvice.Proofs.Loop.Seams
import LoopAdvice.Proofs.Loop.Rescanning
import LoopAdvice.Proofs.Loop.Respelling
import LoopAdvice.Proofs.Loop.Clauses
import LoopAdvice.Proofs.Json.Reading
import LoopAdvice.Proofs.Json.Strings
import LoopAdvice.Proofs.Text.RoundTrip
import LoopAdvice.Proofs.Text.Replacement
import LoopAdvice.Proofs.Source.Loading
import LoopAdvice.Proofs.Text.Wrapping
import LoopAdvice.Proofs.Report.RoundTrip
import LoopAdvice.Proofs.Run.Deed
import LoopAdvice.Proofs.Run.Course
import LoopAdvice.Proofs.Run.FullWriter
import LoopAdvice.Proofs.Consent.Replies
import LoopAdvice.Proofs.Consent.Lines
import LoopAdvice.Proofs.Workflow.Deeds
import LoopAdvice.Proofs.Workflow.Faults
import LoopAdvice.Proofs.Workflow.Meaning
import LoopAdvice.Proofs.Workflow.ToolStep
import LoopAdvice.Proofs.Workflow.Visits
import LoopAdvice.Proofs.Workflow.Analysis
import LoopAdvice.Proofs.Workflow.Stages
import LoopAdvice.Proofs.Workflow.Entries
import LoopAdvice.Proofs.Workflow.Truncation
import LoopAdvice.Proofs.Workflow.JsonOutput
import LoopAdvice.Proofs.Workflow.Questions
import LoopAdvice.Proofs.Workflow.Endless
import LoopAdvice.Proofs.Workflow.Independence
import LoopAdvice.Proofs.Workflow.ExitStatus
import LoopAdvice.Proofs.Workflow.Formats
import LoopAdvice.Proofs.Session.History
import LoopAdvice.Proofs.Session.Retries
import LoopAdvice.Proofs.Workflow.AuditTrail
import LoopAdvice.Proofs.CommandLine.Flags
import LoopAdvice.Proofs.CommandLine.Order
import LoopAdvice.Proofs.Program.Input
import LoopAdvice.Proofs.Program.ExitCode
import LoopAdvice.Proofs.Program.Logging
import LoopAdvice.Proofs.Program.SourcePath
