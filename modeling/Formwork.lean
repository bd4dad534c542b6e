import Formwork.Action.Basic
import Formwork.Action.Instruct
import Formwork.Action.Rendering
import Formwork.Approval.Chain
import Formwork.Approval.Config
import Formwork.Approval.Escalation
import Formwork.Approval.Record
import Formwork.Approval.Request
import Formwork.Assignment.Basic
import Formwork.Assignment.Choose
import Formwork.Automation.Rule
import Formwork.Automation.Run
import Formwork.Calendar.Date
import Formwork.Calendar.Format
import Formwork.Calendar.FreeForm
import Formwork.Calendar.Instant
import Formwork.Calendar.Iso
import Formwork.Calendar.Reading
import Formwork.Calendar.Timestamp
import Formwork.Calendar.Token
import Formwork.Catalogue
import Formwork.Condition.Basic
import Formwork.Condition.Document
import Formwork.Condition.Evaluate
import Formwork.Condition.Operand
import Formwork.Context
import Formwork.Data.Display
import Formwork.Data.Distinct
import Formwork.Data.Entries
import Formwork.Data.Equality
import Formwork.Data.Reading
import Formwork.Data.Value
import Formwork.Decimal.Binary
import Formwork.Decimal.Layout
import Formwork.Decimal.Reader
import Formwork.Decimal.Shortest
import Formwork.Document.Decoder
import Formwork.Document.Fault
import Formwork.Document.Scalar
import Formwork.Failure
import Formwork.Field.Basic
import Formwork.Field.Rule
import Formwork.Field.Update
import Formwork.Ids
import Formwork.Json.Reader
import Formwork.Json.Writer
import Formwork.Lifecycle.Act
import Formwork.Lifecycle.Form
import Formwork.Lifecycle.Submit
import Formwork.Log
import Formwork.Mail.Address
import Formwork.Mail.Domain
import Formwork.Mail.Folding
import Formwork.Mail.Label
import Formwork.Mail.Punycode
import Formwork.Main
import Formwork.Pattern.Cursor
import Formwork.Pattern.Escape
import Formwork.Pattern.Fault
import Formwork.Pattern.Reader
import Formwork.Pattern.Search
import Formwork.Pattern.Syntax
import Formwork.Proofs.Approval.Approve
import Formwork.Proofs.Approval.Commuting
import Formwork.Proofs.Approval.Decide
import Formwork.Proofs.Approval.History
import Formwork.Proofs.Approval.Keep
import Formwork.Proofs.Approval.Lasting
import Formwork.Proofs.Approval.Late
import Formwork.Proofs.Approval.Opening
import Formwork.Proofs.Approval.Overdue
import Formwork.Proofs.Approval.Records
import Formwork.Proofs.Approval.Refused
import Formwork.Proofs.Approval.Rounds
import Formwork.Proofs.Approval.Run
import Formwork.Proofs.Approval.Standing
import Formwork.Proofs.Approval.Start
import Formwork.Proofs.Approval.Ticking
import Formwork.Proofs.Approval.Timing
import Formwork.Proofs.Approval.Trail
import Formwork.Proofs.Approval.Turn
import Formwork.Proofs.Assignment.Least
import Formwork.Proofs.Assignment.Namesakes
import Formwork.Proofs.Assignment.OnEntry
import Formwork.Proofs.Assignment.Priority
import Formwork.Proofs.Assignment.Qualified
import Formwork.Proofs.Assignment.Rotation
import Formwork.Proofs.Automation.Acting
import Formwork.Proofs.Automation.Isolation
import Formwork.Proofs.Automation.Passing
import Formwork.Proofs.Automation.Removing
import Formwork.Proofs.Condition.Asking
import Formwork.Proofs.Condition.Failing
import Formwork.Proofs.Condition.Negation
import Formwork.Proofs.Condition.Order
import Formwork.Proofs.Condition.Question
import Formwork.Proofs.Condition.ReadSet
import Formwork.Proofs.Decimal.Exact
import Formwork.Proofs.Decimal.Multiply
import Formwork.Proofs.Decimal.Reach
import Formwork.Proofs.Document.Stopping
import Formwork.Proofs.Field.Incremental
import Formwork.Proofs.Field.Layering
import Formwork.Proofs.Field.Merging
import Formwork.Proofs.Lifecycle.Checking
import Formwork.Proofs.Lifecycle.Effects
import Formwork.Proofs.Lifecycle.Naming
import Formwork.Proofs.Lifecycle.Precedence
import Formwork.Proofs.Lifecycle.Reading
import Formwork.Proofs.Lifecycle.Reporting
import Formwork.Proofs.Lifecycle.Resubmission
import Formwork.Proofs.Lifecycle.Storing
import Formwork.Proofs.Renaming.Chains
import Formwork.Proofs.Renaming.Data
import Formwork.Proofs.Renaming.Journeys
import Formwork.Proofs.Renaming.Names
import Formwork.Proofs.Renaming.Rules
import Formwork.Proofs.Template.Connected
import Formwork.Proofs.Template.Found
import Formwork.Proofs.Template.References
import Formwork.Proofs.Template.Stopping
import Formwork.Proofs.Template.Verdict
import Formwork.Proofs.Template.Warned
import Formwork.Proofs.Validation.Answer
import Formwork.Proofs.Validation.Form
import Formwork.Proofs.Validation.Hiding
import Formwork.Proofs.Validation.Uploads
import Formwork.Proofs.Validation.Wording
import Formwork.Proofs.Work
import Formwork.Proofs.Workflow.Books
import Formwork.Proofs.Workflow.Conflict
import Formwork.Proofs.Workflow.Errands
import Formwork.Proofs.Workflow.Executed
import Formwork.Proofs.Workflow.Finished
import Formwork.Proofs.Workflow.Found
import Formwork.Proofs.Workflow.Gate
import Formwork.Proofs.Workflow.Journey
import Formwork.Proofs.Workflow.Ledger
import Formwork.Proofs.Workflow.Offer
import Formwork.Proofs.Workflow.Onward
import Formwork.Proofs.Workflow.Operation
import Formwork.Proofs.Workflow.Replay
import Formwork.Proofs.Workflow.Resting
import Formwork.Proofs.Workflow.Store
import Formwork.Proofs.Workflow.Tick
import Formwork.Proofs.Workflow.Trodden
import Formwork.Proofs.Workflow.Unfailing
import Formwork.Proofs.Workflow.Waiting
import Formwork.Proofs.Workflow.Walk
import Formwork.Proofs.Workflow.Way
import Formwork.Refusal
import Formwork.Settings
import Formwork.Status
import Formwork.Submission.Basic
import Formwork.Submission.State
import Formwork.Template.Basic
import Formwork.Template.Report
import Formwork.Template.Review
import Formwork.Text.Blank
import Formwork.Text.Case
import Formwork.Text.Digit
import Formwork.Text.Hex
import Formwork.Text.Letter
import Formwork.Text.Mapping
import Formwork.Text.Mark
import Formwork.Text.Normal
import Formwork.Text.NormalTable
import Formwork.Text.Printable
import Formwork.Text.Ranges
import Formwork.Text.Split
import Formwork.Text.Word
import Formwork.Validation.FieldCheck
import Formwork.Validation.FormCheck
import Formwork.Validation.Message
import Formwork.Validation.Rule
import Formwork.Validation.Validator
import Formwork.Web.Address
import Formwork.Web.Location
import Formwork.Workflow.Config
import Formwork.Workflow.Request
import Formwork.Workflow.Resolve
import Formwork.Workflow.Transition
import Formwork.Proofs.Action.Placeholders
import Formwork.Proofs.Action.Rendering
import Formwork.Proofs.Calendar.Days
import Formwork.Proofs.Calendar.Writing
import Formwork.Proofs.Condition.Stored
import Formwork.Proofs.Lifecycle.Ticks
