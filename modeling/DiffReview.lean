import DiffReview.Action
import DiffReview.Address
import DiffReview.Address.Fault
import DiffReview.Address.Host
import DiffReview.Address.HostName
import DiffReview.Address.HostName.Table
import DiffReview.Address.Reader
import DiffReview.Address.Redaction
import DiffReview.Application
import DiffReview.Application.Endpoint
import DiffReview.Application.Page
import DiffReview.Application.Refusal
import DiffReview.Change
import DiffReview.Clone
import DiffReview.Comment
import DiffReview.Comment.Cluster
import DiffReview.Comment.Merge
import DiffReview.Comment.Similarity
import DiffReview.Comment.Words
import DiffReview.Console.Block
import DiffReview.Console.Emoji
import DiffReview.Console.Emoji.Table
import DiffReview.Console.Markup
import DiffReview.Console.Table
import DiffReview.Console.Width
import DiffReview.Console.Width.Table
import DiffReview.Console.Wrap
import DiffReview.Diff.Basic
import DiffReview.Diff.Header
import DiffReview.Diff.Reader
import DiffReview.Event
import DiffReview.Failure
import DiffReview.Field
import DiffReview.Field.Fault
import DiffReview.Field.NumberText
import DiffReview.Form
import DiffReview.GitHub.Client
import DiffReview.GitHub.Payload
import DiffReview.Http
import DiffReview.HttpAnswer
import DiffReview.Json.Basic
import DiffReview.Json.Bytes
import DiffReview.Json.Compact
import DiffReview.Json.Expected
import DiffReview.Json.Reader
import DiffReview.Json.Token
import DiffReview.Json.Writer
import DiffReview.Layer
import DiffReview.Limits
import DiffReview.ModelReviewer
import DiffReview.Number.Binary64
import DiffReview.Number.Integral
import DiffReview.Number.Quantity
import DiffReview.Number.Rounding
import DiffReview.Number.Shortest
import DiffReview.Path
import DiffReview.Pattern.Basic
import DiffReview.Pattern.Search
import DiffReview.Pipeline
import DiffReview.PullRequestEvent
import DiffReview.Record
import DiffReview.Reply
import DiffReview.Report
import DiffReview.Rule
import DiffReview.Service
import DiffReview.Settings
import DiffReview.Setup
import DiffReview.Signature
import DiffReview.Signature.Sha256
import DiffReview.Summary
import DiffReview.Summary.Window
import DiffReview.Text.Base64
import DiffReview.Text.Blank
import DiffReview.Text.CodePoint
import DiffReview.Text.Decimal
import DiffReview.Text.EncodingFault
import DiffReview.Text.Hexadecimal
import DiffReview.Text.LetterCase
import DiffReview.Text.LetterCase.Table
import DiffReview.Text.Lines
import DiffReview.Text.LooseInteger
import DiffReview.Text.Percent
import DiffReview.Text.Punycode
import DiffReview.Text.Quoted
import DiffReview.Text.Quoted.Table
import DiffReview.Text.Replace
import DiffReview.Text.Utf8
import DiffReview.Text.WideUnits
import DiffReview.Text.Word
import DiffReview.Text.Word.Table
import DiffReview.Webhook
import DiffReview.Proofs.Number.Rounding
import DiffReview.Proofs.Comment.Cluster
import DiffReview.Proofs.Comment.Merge
import DiffReview.Proofs.Comment.Precedence
import DiffReview.Proofs.Pipeline
import DiffReview.Proofs.Isolation
import DiffReview.Proofs.Detection
import DiffReview.Proofs.Diff.Header
import DiffReview.Proofs.Diff.Section
import DiffReview.Proofs.Diff.Reading
import DiffReview.Proofs.Diff.Patch
import DiffReview.Proofs.Diff.Writing
import DiffReview.Proofs.Diff.Composition
import DiffReview.Proofs.Diff.Insertion
import DiffReview.Proofs.Except
import DiffReview.Proofs.Findings
import DiffReview.Proofs.Provenance
import DiffReview.Proofs.Text.Blank
import DiffReview.Proofs.Text.CodePoint
import DiffReview.Proofs.Field.NumberText
import DiffReview.Proofs.Field.Integer
import DiffReview.Proofs.Handling
import DiffReview.Proofs.Session
import DiffReview.Proofs.Json.Token
import DiffReview.Proofs.Json.Writing
import DiffReview.Proofs.Json.Integers
import DiffReview.Proofs.Json.Layout
import DiffReview.Proofs.Reply.Fence
import DiffReview.Proofs.Reply.Entries
import DiffReview.Proofs.Reply.Writing
import DiffReview.Proofs.Admission
import DiffReview.Proofs.NothingAdded
import DiffReview.Proofs.Reordering
import DiffReview.Proofs.Diff.Numbering
import DiffReview.Proofs.Summary.Separated
import DiffReview.Proofs.Summary.Layout
import DiffReview.Proofs.Summary.Shown
import DiffReview.Proofs.Summary.Unambiguous
import DiffReview.Proofs.Summary.Window
import DiffReview.Proofs.Summary.Truncation
import DiffReview.Proofs.Unreadable
import DiffReview.Proofs.Posting
import DiffReview.Proofs.Comment.Stages
import DiffReview.Proofs.Comment.Gathering
import DiffReview.Proofs.Text.LetterCase
import DiffReview.Proofs.Comment.Words
import DiffReview.Proofs.Limits.Blocks
import DiffReview.Proofs.Limits.Functions
import DiffReview.Proofs.Limits.Raising
import DiffReview.Proofs.Pattern.Piece
import DiffReview.Proofs.Text.Field
import DiffReview.Proofs.Pattern.Boundary
import DiffReview.Proofs.Rule.Trace
import DiffReview.Proofs.Rule.Scan
import DiffReview.Proofs.Limits.FunctionStart
import DiffReview.Proofs.Path.Exclusion
import DiffReview.Proofs.Path.Tier
import DiffReview.Proofs.Encodings
import DiffReview.Proofs.Consultation
