import Automation.Action.Call
import Automation.Action.Dispatch
import Automation.Api.Issue
import Automation.Api.Origin
import Automation.Api.Response
import Automation.Api.Route
import Automation.Api.Schema
import Automation.Api.Service
import Automation.Collaborator.Behaviour
import Automation.Collaborator.CustomerService
import Automation.Condition
import Automation.Email.Outbox
import Automation.Email.Template
import Automation.Engine
import Automation.Execution.Grouping
import Automation.Execution.History
import Automation.Execution.Log
import Automation.Execution.Record
import Automation.Execution.Statistics
import Automation.Failure
import Automation.Http.Address
import Automation.Http.Domain
import Automation.Http.Exchange
import Automation.Http.Url
import Automation.Json.Content
import Automation.Json.Reader
import Automation.Json.Writer
import Automation.Key
import Automation.Management
import Automation.Number.Double
import Automation.Number.Elapsed
import Automation.Number.Lenient
import Automation.Number.Numeral
import Automation.Number.Shortest
import Automation.Path
import Automation.Presentation
import Automation.Rendering
import Automation.Settings
import Automation.Telemetry.Span
import Automation.Telemetry.Tracing
import Automation.Text.Blank
import Automation.Text.Case
import Automation.Text.CaseTable
import Automation.Text.Digit
import Automation.Text.Half
import Automation.Text.LabelTable
import Automation.Text.Percent
import Automation.Text.Printable
import Automation.Text.Punycode
import Automation.Text.Quoted
import Automation.Text.Ranges
import Automation.Text.Split
import Automation.Time.Calendar
import Automation.Time.Internet
import Automation.Time.Timestamp
import Automation.Trigger.Result
import Automation.Trigger.Schedule
import Automation.Trigger.Task
import Automation.Value
import Automation.Value.Conversion
import Automation.Value.Display
import Automation.Vocabulary
import Automation.Workflow.Definition
import Automation.Workflow.Repository
import Automation.Workflow.Rules
import Automation.Workflow.Starter
import Automation.Workflow.Store
import Automation.Proofs.Text.Trim
import Automation.Proofs.Checks
import Automation.Proofs.Workflow.Normal
import Automation.Proofs.Workflow.Validity
import Automation.Proofs.Action.Outcome
import Automation.Proofs.Action.Calls
import Automation.Proofs.Trigger.Accounting
import Automation.Proofs.Trigger.Stored
import Automation.Proofs.Workflow.Update
import Automation.Proofs.Session.Basic
import Automation.Proofs.Session.AppendOnly
import Automation.Proofs.Session.Backends
import Automation.Proofs.Concurrent.Update
import Automation.Proofs.Concurrent.Triggers
import Automation.Proofs.Concurrent.Turns
import Automation.Proofs.Trigger.Isolation
import Automation.Proofs.Concurrent.Deletion
import Automation.Proofs.Concurrent.Workflows
import Automation.Proofs.Execution.Grouping
import Automation.Proofs.Execution.Counts
import Automation.Proofs.Execution.Conservation
import Automation.Proofs.Execution.Surfaces
import Automation.Proofs.Execution.Pages
import Automation.Proofs.Execution.Windows
import Automation.Proofs.Value.Keys
import Automation.Proofs.Event.Places
import Automation.Proofs.Event.Comparison
import Automation.Proofs.Event.KeyOrder
import Automation.Proofs.Event.Absence
import Automation.Proofs.Text.Lower
import Automation.Proofs.Event.Containment
import Automation.Proofs.Event.Order
import Automation.Proofs.Telemetry.Attributes
import Automation.Proofs.Trigger.Spans
import Automation.Proofs.Trigger.Serial
import Automation.Proofs.Telemetry.Discretion
import Automation.Proofs.Api.Showing
import Automation.Proofs.Api.Writes
import Automation.Proofs.Rendering.Pieces
import Automation.Proofs.Rendering.Reading
import Automation.Proofs.Event.Joining
import Automation.Proofs.Workflow.Retelling
import Automation.Proofs.Text.Percent
import Automation.Proofs.Http.Segments
import Automation.Proofs.Collaborator.Addressing
