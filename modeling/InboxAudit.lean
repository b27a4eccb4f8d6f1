import InboxAudit.Access.Secret
import InboxAudit.Access.Token
import InboxAudit.Access.TokenCache
import InboxAudit.Analysis.Findings
import InboxAudit.Analysis.Ranking
import InboxAudit.Analysis.Replay
import InboxAudit.Audit.Error
import InboxAudit.Audit.Live
import InboxAudit.Audit.Options
import InboxAudit.Audit.Rehearsal
import InboxAudit.Audit.Request
import InboxAudit.Audit.Run
import InboxAudit.Audit.Stage
import InboxAudit.Collections.Names
import InboxAudit.Collections.SortedTable
import InboxAudit.Collections.Table
import InboxAudit.Command.Basic
import InboxAudit.Command.Failure
import InboxAudit.Command.Grammar
import InboxAudit.Command.Program
import InboxAudit.Command.Reader
import InboxAudit.Command.Run
import InboxAudit.Command.Usage
import InboxAudit.Files.Disk
import InboxAudit.Files.Error
import InboxAudit.Files.Path
import InboxAudit.Filter.Candidates
import InboxAudit.Filter.Export.Basic
import InboxAudit.Filter.Export.Loader
import InboxAudit.Filter.Export.Source
import InboxAudit.Filter.Matcher
import InboxAudit.Filter.Query
import InboxAudit.Filter.Rule
import InboxAudit.Host.Basic
import InboxAudit.Host.Workspace
import InboxAudit.Http.Network
import InboxAudit.Http.Status
import InboxAudit.Http.Target
import InboxAudit.Json.Canonical
import InboxAudit.Json.Number
import InboxAudit.Json.Printer
import InboxAudit.Json.Reader
import InboxAudit.Json.Record
import InboxAudit.Json.Value
import InboxAudit.Log.Basic
import InboxAudit.Log.Filter
import InboxAudit.Mail.Address
import InboxAudit.Mail.ApiFailure
import InboxAudit.Mail.Domain
import InboxAudit.Mail.Error
import InboxAudit.Mail.LabelCatalog
import InboxAudit.Mail.ListId
import InboxAudit.Mail.Message
import InboxAudit.Mail.Retry
import InboxAudit.Mail.Service.Client
import InboxAudit.Mail.Service.Resource
import InboxAudit.Main
import InboxAudit.Numbers.Binary64
import InboxAudit.Numbers.Shortest
import InboxAudit.Numbers.Width
import InboxAudit.Pace.TokenBucket
import InboxAudit.Proofs.Analysis.DeadRules
import InboxAudit.Proofs.Analysis.FirstSeen
import InboxAudit.Proofs.Analysis.Replay
import InboxAudit.Proofs.Collections.Ascending
import InboxAudit.Report.Basic
import InboxAudit.Report.Destination
import InboxAudit.Report.File
import InboxAudit.Report.Human
import InboxAudit.Report.Lint
import InboxAudit.Report.Output
import InboxAudit.Report.Window
import InboxAudit.Settings.Basic
import InboxAudit.Settings.Check
import InboxAudit.Settings.Document
import InboxAudit.Settings.File
import InboxAudit.Text.Alphanumeric
import InboxAudit.Text.Blank
import InboxAudit.Text.CaseTable
import InboxAudit.Text.Digits
import InboxAudit.Text.Hidden
import InboxAudit.Text.LowerCase
import InboxAudit.Text.Quoted
import InboxAudit.Text.Utf8
import InboxAudit.Time.Calendar
import InboxAudit.Time.Instant
import InboxAudit.Toml.Json
import InboxAudit.Toml.Printer
import InboxAudit.Toml.Reader
import InboxAudit.Toml.Scalar
import InboxAudit.Toml.Text
import InboxAudit.Toml.Tree
import InboxAudit.Toml.Value
import InboxAudit.Proofs.Analysis.Conflicts
import InboxAudit.Proofs.Analysis.Order
import InboxAudit.Proofs.Report.LintOrder
import InboxAudit.Proofs.Audit.Sampling
import InboxAudit.Proofs.Analysis.MissingLabels
import InboxAudit.Proofs.Analysis.ConflictKeys
import InboxAudit.Proofs.Audit.Failure
import InboxAudit.Proofs.Audit.Interleaving
import InboxAudit.Proofs.Audit.Cancellation
import InboxAudit.Proofs.Text.LowerCase
import InboxAudit.Proofs.Text.Parts
import InboxAudit.Proofs.Mail.ListId
import InboxAudit.Proofs.Mail.Domain
import InboxAudit.Proofs.Analysis.Ranking
import InboxAudit.Proofs.Analysis.Snippets
import InboxAudit.Proofs.Filter.Criteria
import InboxAudit.Proofs.Analysis.Adoption
import InboxAudit.Proofs.Text.Digits
import InboxAudit.Proofs.Json.Strings
import InboxAudit.Proofs.Json.RoundTrip
import InboxAudit.Proofs.Json.Record
import InboxAudit.Proofs.Report.RoundTrip
import InboxAudit.Proofs.Time.Calendar
import InboxAudit.Proofs.Time.Instant
import InboxAudit.Proofs.Analysis.Growth
import InboxAudit.Proofs.Analysis.Unreplayed
import InboxAudit.Proofs.Text.LetterCase
import InboxAudit.Proofs.Filter.LetterCase
import InboxAudit.Proofs.Text.Utf8
import InboxAudit.Proofs.Toml.Strings
import InboxAudit.Proofs.Toml.Values
import InboxAudit.Proofs.Toml.RoundTrip
import InboxAudit.Proofs.Settings.Document
import InboxAudit.Proofs.Files.Disk
import InboxAudit.Proofs.Settings.File
import InboxAudit.Proofs.Filter.Query
import InboxAudit.Proofs.Filter.Selective
import InboxAudit.Proofs.Analysis.ConflictTable
import InboxAudit.Proofs.Analysis.Entries
import InboxAudit.Proofs.Analysis.Alternatives
import InboxAudit.Proofs.Filter.Occurrence
import InboxAudit.Proofs.Analysis.Standings
import InboxAudit.Proofs.Report.Destination
import InboxAudit.Proofs.Mail.Retry
import InboxAudit.Proofs.Text.Sigma
import InboxAudit.Proofs.Pace.Ledger
import InboxAudit.Proofs.Mail.Service.Batches
import InboxAudit.Proofs.Filter.Terms
import InboxAudit.Proofs.Filter.Grammar
import InboxAudit.Proofs.Mail.Decoration
import InboxAudit.Proofs.Analysis.ListRules
import InboxAudit.Proofs.Analysis.Coverage
import InboxAudit.Proofs.Mail.Bracketed
import InboxAudit.Proofs.Report.Policy
import InboxAudit.Proofs.Report.Window
import InboxAudit.Proofs.Report.File
import InboxAudit.Proofs.Filter.Candidates
