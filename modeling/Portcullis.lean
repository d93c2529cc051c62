import Portcullis.Audit.Document
import Portcullis.Audit.Event
import Portcullis.Audit.Trail
import Portcullis.Boundary.Config
import Portcullis.Boundary.Document
import Portcullis.Boundary.Forward
import Portcullis.Boundary.Guard
import Portcullis.Boundary.Identity
import Portcullis.Boundary.Ledger
import Portcullis.Boundary.Options
import Portcullis.Boundary.Service
import Portcullis.Decimal.Shortest
import Portcullis.Digest.Sha256
import Portcullis.Document.Datum
import Portcullis.Document.Json
import Portcullis.Document.Reader
import Portcullis.Document.Resolve
import Portcullis.Document.Yaml.Cursor
import Portcullis.Document.Yaml.Node
import Portcullis.Document.Yaml.Read
import Portcullis.Document.Yaml.ScalarText
import Portcullis.Document.Yaml.Token
import Portcullis.Duration
import Portcullis.Form
import Portcullis.Http.Escape
import Portcullis.Http.Header
import Portcullis.Http.Message
import Portcullis.Http.Method
import Portcullis.Http.Path
import Portcullis.Http.Uri
import Portcullis.Main
import Portcullis.Net.Address
import Portcullis.Policy.Action.Access
import Portcullis.Policy.Action.Content
import Portcullis.Policy.Action.Headers
import Portcullis.Policy.Action.Keywords
import Portcullis.Policy.Build
import Portcullis.Policy.BuiltIn
import Portcullis.Policy.Chain
import Portcullis.Policy.Defect
import Portcullis.Policy.Definition
import Portcullis.Policy.Enforcement
import Portcullis.Policy.Engine
import Portcullis.Policy.Interceptor
import Portcullis.Policy.Load
import Portcullis.Policy.Outcome
import Portcullis.Policy.Reading
import Portcullis.Policy.Rule
import Portcullis.Policy.Scope
import Portcullis.Policy.Writing
import Portcullis.Regex.Ast
import Portcullis.Regex.ClassParser
import Portcullis.Regex.Elaborate
import Portcullis.Regex.Expr
import Portcullis.Regex.Parser
import Portcullis.Regex.Pattern
import Portcullis.Regex.Program
import Portcullis.Regex.Replace
import Portcullis.Regex.Search
import Portcullis.Regex.Size
import Portcullis.Telemetry.Counters
import Portcullis.Telemetry.Event
import Portcullis.Text.Ascii
import Portcullis.Text.Blank
import Portcullis.Text.Quoted
import Portcullis.Text.Slice
import Portcullis.Text.Utf8
import Portcullis.Unicode.Age
import Portcullis.Unicode.Category
import Portcullis.Unicode.CharSet
import Portcullis.Unicode.Folding
import Portcullis.Unicode.Lookup
import Portcullis.Unicode.Property
import Portcullis.Unicode.Script
import Portcullis.Unicode.ScriptExtension
import Portcullis.Url.Address
import Portcullis.Url.Domain
import Portcullis.Url.Parse
import Portcullis.Url.Path
import Portcullis.Url.Percent
import Portcullis.Url.Punycode
import Portcullis.User
import Portcullis.User.Document
import Portcullis.Proofs.Chain.Contract
import Portcullis.Proofs.Boundary.Concealment
import Portcullis.Proofs.Regex.Language
import Portcullis.Proofs.Regex.Steps
import Portcullis.Proofs.Regex.Code
import Portcullis.Proofs.Regex.Backtrack
import Portcullis.Proofs.Regex.Closing
import Portcullis.Proofs.Regex.Bracketed
import Portcullis.Proofs.Regex.Enclosure
import Portcullis.Proofs.Regex.Anchoring
import Portcullis.Proofs.Regex.Parts
import Portcullis.Proofs.Regex.Whole
import Portcullis.Proofs.Url.Segments
import Portcullis.Proofs.Http.Normal
import Portcullis.Proofs.Url.Cut
import Portcullis.Proofs.Text.Blank
import Portcullis.Proofs.Url.Behind
import Portcullis.Proofs.Url.Nested
import Portcullis.Proofs.Http.Root
import Portcullis.Proofs.Boundary.Forwarding
import Portcullis.Proofs.Http.DigitCase
import Portcullis.Proofs.Http.Dots
import Portcullis.Proofs.Http.Fields
import Portcullis.Proofs.Interceptor.Commit
import Portcullis.Proofs.Text.Encoding
import Portcullis.Proofs.Audit.Retention
import Portcullis.Proofs.Audit.Preimage
import Portcullis.Proofs.Audit.Change
import Portcullis.Proofs.Audit.Loss
import Portcullis.Proofs.Boundary.Accounting
import Portcullis.Proofs.Audit.Calls
import Portcullis.Proofs.Policy.Built
import Portcullis.Proofs.Policy.Plan
import Portcullis.Proofs.Policy.Compilation
import Portcullis.Proofs.Policy.Frame
import Portcullis.Proofs.Chain.Composition
import Portcullis.Proofs.Policy.Omission
import Portcullis.Proofs.Chain.Deciding
import Portcullis.Proofs.Boundary.Transparency
import Portcullis.Proofs.Boundary.Monitoring
import Portcullis.Proofs.Url.Name
import Portcullis.Proofs.Url.Server
import Portcullis.Proofs.Boundary.Origin
import Portcullis.Proofs.Chain.Order
import Portcullis.Proofs.Interceptor.Once
import Portcullis.Proofs.Chain.Crash
import Portcullis.Proofs.Policy.Blocking
import Portcullis.Proofs.Boundary.Page
import Portcullis.Proofs.Results
import Portcullis.Proofs.Boundary.Roles
import Portcullis.Proofs.Http.Shortcut
import Portcullis.Proofs.Http.Spelling
import Portcullis.Proofs.Http.Stable
import Portcullis.Proofs.Document.Plain
import Portcullis.Proofs.Document.Json
import Portcullis.Proofs.Policy.Keys
import Portcullis.Proofs.Policy.ReadBack
import Portcullis.Proofs.Policy.Respelling
import Portcullis.Proofs.Policy.Cookie
import Portcullis.Proofs.Policy.Hardening
import Portcullis.Proofs.Regex.Occurrences
import Portcullis.Proofs.Policy.Replacing
import Portcullis.Proofs.Boundary.Length
import Portcullis.Proofs.Policy.Detection
import Portcullis.Proofs.Http.Query
import Portcullis.Proofs.Policy.Patching
import Portcullis.Proofs.Net.Address
import Portcullis.Proofs.Http.Location
import Portcullis.Proofs.Policy.Secure
import Portcullis.Proofs.Boundary.Crossing
import Portcullis.Proofs.Text.Slice
import Portcullis.Proofs.Http.Scan
import Portcullis.Proofs.Http.Delimiters
import Portcullis.Proofs.Http.Hidden
import Portcullis.Proofs.Url.Asterisk
