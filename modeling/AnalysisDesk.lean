import AnalysisDesk.Cli.Machine
import AnalysisDesk.Desk.World
import AnalysisDesk.Http.Service
import AnalysisDesk.Main
import AnalysisDesk.Proofs.Desk.Manners
import AnalysisDesk.Proofs.Desk.Submitting
import AnalysisDesk.Proofs.Desk.Ending
import AnalysisDesk.Proofs.Desk.Watching
import AnalysisDesk.Proofs.Desk.Writes
import AnalysisDesk.Proofs.Desk.Happening
import AnalysisDesk.Proofs.Desk.Duties
import AnalysisDesk.Proofs.Desk.Office
import AnalysisDesk.Proofs.Desk.Lives
import AnalysisDesk.Proofs.Desk.Endings
import AnalysisDesk.Proofs.Desk.Play
import AnalysisDesk.Proofs.Desk.OneActive
import AnalysisDesk.Proofs.Desk.Verdict
import AnalysisDesk.Proofs.Desk.OneWinner
import AnalysisDesk.Proofs.Desk.Dropping
import AnalysisDesk.Proofs.Desk.Orphans
import AnalysisDesk.Proofs.Job.IdText
import AnalysisDesk.Proofs.Store.Findings
import AnalysisDesk.Proofs.Store.Moves
import AnalysisDesk.Proofs.Store.Rows
import AnalysisDesk.Proofs.Store.WellFormed
import AnalysisDesk.Proofs.Store.Reading
import AnalysisDesk.Store.Amend
import AnalysisDesk.Proofs.Store.Standing
import AnalysisDesk.Proofs.Store.Onward
import AnalysisDesk.Proofs.Report.Checks
import AnalysisDesk.Proofs.Desk.Shapes
import AnalysisDesk.Proofs.Time.Calendar
import AnalysisDesk.Proofs.Time.StoredText
import AnalysisDesk.Proofs.Store.Stamps
import AnalysisDesk.Proofs.Desk.Shift
import AnalysisDesk.Proofs.Desk.Prompt
import AnalysisDesk.Proofs.Desk.Watchers
import AnalysisDesk.Proofs.Desk.Deadlines
import AnalysisDesk.Proofs.Number.Order
import AnalysisDesk.Proofs.Store.Written
import AnalysisDesk.Proofs.Store.Readback
import AnalysisDesk.Proofs.Store.Delivery
import AnalysisDesk.Proofs.Desk.Ingesting
import AnalysisDesk.Proofs.Time.StoredOrder
import AnalysisDesk.Proofs.Store.Tables
import AnalysisDesk.Proofs.Views.Pages
import AnalysisDesk.Proofs.Views.Listings
import AnalysisDesk.Proofs.Views.Partition
import AnalysisDesk.Proofs.Desk.Looking
import AnalysisDesk.Proofs.Views.Isolation
import AnalysisDesk.Proofs.Desk.Refusals
import AnalysisDesk.Proofs.Desk.Settling
import AnalysisDesk.Proofs.Store.Atomic
import AnalysisDesk.Proofs.Desk.Handover
import AnalysisDesk.Proofs.Store.Dated
import AnalysisDesk.Proofs.Views.Counting
import AnalysisDesk.Proofs.Views.Filtering
import AnalysisDesk.Proofs.Views.Statistics
import AnalysisDesk.Proofs.Desk.Ensuring
import AnalysisDesk.Proofs.Desk.Sweeping
import AnalysisDesk.Proofs.Desk.SweptJobs
import AnalysisDesk.Proofs.Desk.Resuming
import AnalysisDesk.Proofs.Desk.CheckedSweeps
import AnalysisDesk.Proofs.Analyzer.PollAnswers
import AnalysisDesk.Proofs.Desk.PollerTurns
import AnalysisDesk.Proofs.Desk.Answers
import AnalysisDesk.Proofs.Store.Integrity
import AnalysisDesk.Proofs.Store.Ledger
import AnalysisDesk.Proofs.Views.Recall
import AnalysisDesk.Proofs.Desk.Chronicle
import AnalysisDesk.Proofs.Text.Numerals
import AnalysisDesk.Proofs.Desk.Among
import AnalysisDesk.Proofs.Http.Forms
import AnalysisDesk.Proofs.Http.Particulars
import AnalysisDesk.Proofs.Http.Serving
import AnalysisDesk.Proofs.Http.Handling
import AnalysisDesk.Proofs.Text.ByteOrder
import AnalysisDesk.Proofs.Number.TotalOrder
import AnalysisDesk.Proofs.Views.Grouping
import AnalysisDesk.Proofs.Views.MetricViews
import AnalysisDesk.Proofs.Views.Figures
import AnalysisDesk.Proofs.Views.IssueTotal
import AnalysisDesk.Proofs.Views.Trend
import AnalysisDesk.Proofs.Analyzer.Pauses
import AnalysisDesk.Proofs.Analyzer.Attempts
import AnalysisDesk.Proofs.Desk.Retrying
import AnalysisDesk.Proofs.Report.Validation
import AnalysisDesk.Proofs.Json.Records
import AnalysisDesk.Proofs.Json.Lenience
import AnalysisDesk.Proofs.Report.Encoding
import AnalysisDesk.Proofs.Config.Checking
import AnalysisDesk.Proofs.Config.Stated
import AnalysisDesk.Proofs.Config.Layers
import AnalysisDesk.Proofs.Files.Growing
import AnalysisDesk.Proofs.Cli.Passing
import AnalysisDesk.Proofs.Cli.Preparing
import AnalysisDesk.Proofs.Cli.Databases
import AnalysisDesk.Proofs.Cli.Refusing
import AnalysisDesk.Proofs.Web.Below
import AnalysisDesk.Proofs.Analyzer.Addresses
import AnalysisDesk.Proofs.Views.Chronology
