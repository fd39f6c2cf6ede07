import Mailroom.Call.Channel
import Mailroom.Call.Exchange
import Mailroom.Call.Operation
import Mailroom.Call.Options
import Mailroom.Call.Request
import Mailroom.Call.Wire
import Mailroom.Catalog.Operations
import Mailroom.Catalog.Resource
import Mailroom.Client.Basic
import Mailroom.Client.Call
import Mailroom.Client.Endpoint
import Mailroom.Command.Basic
import Mailroom.Command.Body
import Mailroom.Command.Field
import Mailroom.Command.Inputs
import Mailroom.Command.Log
import Mailroom.Command.Plan
import Mailroom.Command.Run
import Mailroom.CommandLine.Grammar
import Mailroom.CommandLine.Language
import Mailroom.CommandLine.Reading
import Mailroom.Config.Basic
import Mailroom.Config.Environment
import Mailroom.Config.Error
import Mailroom.Dict
import Mailroom.Domain.Basic
import Mailroom.Domain.Composition
import Mailroom.Domain.CompositionTable
import Mailroom.Domain.Direction
import Mailroom.Domain.DirectionTable
import Mailroom.Domain.Mapping
import Mailroom.Domain.MappingTable
import Mailroom.Domain.Punycode
import Mailroom.Envelope.Basic
import Mailroom.Envelope.Flatten
import Mailroom.Failure.ApiError
import Mailroom.Failure.Body
import Mailroom.Failure.Chain
import Mailroom.Failure.Report
import Mailroom.Http.Header
import Mailroom.Http.MediaType
import Mailroom.Http.Status
import Mailroom.Json.Basic
import Mailroom.Json.Decode
import Mailroom.Json.Parser
import Mailroom.Json.Printer
import Mailroom.Main
import Mailroom.Number.Binary64
import Mailroom.Number.Shortest
import Mailroom.Number.Spelled
import Mailroom.Proofs.Call.Beyond
import Mailroom.Proofs.Call.Building
import Mailroom.Proofs.Call.Confinement
import Mailroom.Proofs.Call.Delivery
import Mailroom.Proofs.Call.Layering
import Mailroom.Proofs.Call.Masking
import Mailroom.Proofs.Call.Parameters
import Mailroom.Proofs.Call.PathValues
import Mailroom.Proofs.Call.Placeholders
import Mailroom.Proofs.Call.Refusal
import Mailroom.Proofs.Call.Table
import Mailroom.Proofs.Call.Writing
import Mailroom.Proofs.Client.BulkDeletion
import Mailroom.Proofs.Client.Construction
import Mailroom.Proofs.Client.ContentType
import Mailroom.Proofs.Client.Conversation
import Mailroom.Proofs.Client.Headers
import Mailroom.Proofs.Client.Readiness
import Mailroom.Proofs.Client.Rendering
import Mailroom.Proofs.Client.Secrecy
import Mailroom.Proofs.Client.Sending
import Mailroom.Proofs.Command.Accepted
import Mailroom.Proofs.Command.Bodies
import Mailroom.Proofs.Command.Exchanges
import Mailroom.Proofs.Command.Fields
import Mailroom.Proofs.Command.HeaderFlags
import Mailroom.Proofs.Command.Listing
import Mailroom.Proofs.Command.Locality
import Mailroom.Proofs.Command.Logged
import Mailroom.Proofs.Command.Nested
import Mailroom.Proofs.Command.OneRequest
import Mailroom.Proofs.Command.Plans
import Mailroom.Proofs.Command.Printed
import Mailroom.Proofs.Command.Rendering
import Mailroom.Proofs.Command.Requests
import Mailroom.Proofs.Command.Secrecy
import Mailroom.Proofs.Command.Selections
import Mailroom.Proofs.Command.Settings
import Mailroom.Proofs.Command.TypedFields
import Mailroom.Proofs.CommandLine.Reading
import Mailroom.Proofs.CommandLine.Secrecy
import Mailroom.Proofs.CommandLine.Selections
import Mailroom.Proofs.Config.Environment
import Mailroom.Proofs.Config.Layers
import Mailroom.Proofs.Config.Validity
import Mailroom.Proofs.Dict.Order
import Mailroom.Proofs.Envelope.Extraction
import Mailroom.Proofs.Envelope.Layers
import Mailroom.Proofs.Failure.Classification
import Mailroom.Proofs.Failure.Complaints
import Mailroom.Proofs.Failure.Reason
import Mailroom.Proofs.Failure.Status
import Mailroom.Proofs.Http.Merge
import Mailroom.Proofs.Http.Precedence
import Mailroom.Proofs.Http.Uniqueness
import Mailroom.Proofs.Json.Compact
import Mailroom.Proofs.Json.Equality
import Mailroom.Proofs.Json.Literal
import Mailroom.Proofs.Json.Ordered
import Mailroom.Proofs.Json.Sorted
import Mailroom.Proofs.Json.Spelled
import Mailroom.Proofs.Record.Models
import Mailroom.Proofs.Record.OpenModel
import Mailroom.Proofs.Record.PageReading
import Mailroom.Proofs.Record.Paging
import Mailroom.Proofs.Text.Decimal
import Mailroom.Proofs.Text.Numeral
import Mailroom.Proofs.Text.Split
import Mailroom.Proofs.Text.Utf8
import Mailroom.Record.Bounce
import Mailroom.Record.Campaign
import Mailroom.Record.DirectMessage
import Mailroom.Record.Import
import Mailroom.Record.MailingList
import Mailroom.Record.Media
import Mailroom.Record.Model
import Mailroom.Record.Page
import Mailroom.Record.Subscriber
import Mailroom.Record.Template
import Mailroom.Terminal.Answer
import Mailroom.Terminal.Style
import Mailroom.Terminal.Table
import Mailroom.Terminal.Writer
import Mailroom.Text.Basic
import Mailroom.Text.CaseTable
import Mailroom.Text.Decimal
import Mailroom.Text.Lowercase
import Mailroom.Text.Property
import Mailroom.Text.Shown
import Mailroom.Text.Utf8
import Mailroom.Text.Width
import Mailroom.Text.WidthTable
import Mailroom.Url.Basic
import Mailroom.Url.Form
import Mailroom.Url.Host
import Mailroom.Url.Parser
import Mailroom.Url.Path
import Mailroom.Url.Percent
