import ChatCommands.Text.CharClass
import ChatCommands.Text.Trim
import ChatCommands.Text.Lowercase
import ChatCommands.Text.Replace
import ChatCommands.Number.Binary64
import ChatCommands.Number.Decimal
import ChatCommands.Number.Literal
import ChatCommands.Json
import ChatCommands.Json.Syntax
import ChatCommands.Json.Writer
import ChatCommands.Yaml.Cursor
import ChatCommands.Yaml.Scalar
import ChatCommands.Yaml.Tag
import ChatCommands.Yaml.Token
import ChatCommands.Yaml.Node
import ChatCommands.Yaml.Anchor
import ChatCommands.Yaml.Value
import ChatCommands.OrderedMap
import ChatCommands.Capability
import ChatCommands.CommandSpec
import ChatCommands.CommandSpec.Descriptor
import ChatCommands.Message
import ChatCommands.Number.Duration
import ChatCommands.RateLimit
import ChatCommands.Settings
import ChatCommands.DispatchError
import ChatCommands.ErrorReply
import ChatCommands.DispatchEvent
import ChatCommands.Grammar
import ChatCommands.Arguments
import ChatCommands.Arguments.Binding
import ChatCommands.Plugin
import ChatCommands.Arguments.Query
import ChatCommands.Builtin
import ChatCommands.Script
import ChatCommands.Console.Style
import ChatCommands.Console.Table
import ChatCommands.Dispatcher
import ChatCommands.FileTree
import ChatCommands.Catalog
import ChatCommands.Loading
import ChatCommands.Config
import ChatCommands.Config.File
import ChatCommands.Console.CommandLine
import ChatCommands.Console.Host
import ChatCommands.Console.Program
import ChatCommands.Main
import ChatCommands.Proofs.RateLimit.Burst
import ChatCommands.Proofs.RateLimit.Pruning
import ChatCommands.Proofs.RateLimit.Held
import ChatCommands.Proofs.RateLimit.Refusal
import ChatCommands.Proofs.RateLimit.Waiting
import ChatCommands.Proofs.RateLimit.Forecast
import ChatCommands.Proofs.Text.Blank
import ChatCommands.Proofs.Grammar.Scan
import ChatCommands.Proofs.Grammar.RoundTrip
import ChatCommands.Proofs.Grammar.Mention
import ChatCommands.Proofs.Snapshot.Built
import ChatCommands.Proofs.Arguments.Binding
import ChatCommands.Proofs.Dispatcher.Stages
import ChatCommands.Proofs.Grammar.Line
import ChatCommands.Proofs.Dispatcher.Completeness
import ChatCommands.Proofs.RateLimit.Isolation
import ChatCommands.Proofs.Dispatcher.Events
import ChatCommands.Proofs.Snapshot.Index
import ChatCommands.Proofs.Snapshot.Loaded
import ChatCommands.Proofs.Text.Pieces
import ChatCommands.Proofs.Redaction.Finders
import ChatCommands.Proofs.Redaction.Assignment
import ChatCommands.Proofs.Redaction.Secrecy
import ChatCommands.Proofs.RateLimit.Span
import ChatCommands.Proofs.Config.Limit
import ChatCommands.Proofs.Snapshot.History
import ChatCommands.Proofs.Dispatcher.Tasks
import ChatCommands.Proofs.Dispatcher.Burst
import ChatCommands.Proofs.Grammar.Cutting
import ChatCommands.Proofs.Text.Marked
import ChatCommands.Proofs.Redaction.Pattern
import ChatCommands.Proofs.Redaction.Residue
import ChatCommands.Proofs.Dispatcher.Discretion
import ChatCommands.Proofs.Dispatcher.Quota
import ChatCommands.Proofs.FileTree
import ChatCommands.Proofs.Snapshot.Fate
import ChatCommands.Proofs.Snapshot.Rejection
import ChatCommands.Proofs.Arguments.Refusal
import ChatCommands.Proofs.Substitution.Place
import ChatCommands.Proofs.Substitution.Reference
import ChatCommands.Proofs.Substitution.Missing
import ChatCommands.Proofs.Dispatcher.Verbosity
import ChatCommands.Proofs.Dispatcher.Suggestions
import ChatCommands.Proofs.Dispatcher.Lacking
import ChatCommands.Proofs.RateLimit.Sweep
import ChatCommands.Proofs.Snapshot.Succession
import ChatCommands.Proofs.Grammar.Expansion
import ChatCommands.Proofs.Dispatcher.Advice
import ChatCommands.Proofs.Config.Language
import ChatCommands.Proofs.Config.Shortcuts
import ChatCommands.Proofs.Catalog
import ChatCommands.Proofs.Substitution.Reading
import ChatCommands.Proofs.Substitution.Outcome
import ChatCommands.Proofs.Substitution.Escaping
import ChatCommands.Proofs.Config.Addressing
import ChatCommands.Proofs.Text.EditDistance
import ChatCommands.Proofs.Text.ByteOrder
import ChatCommands.Proofs.Dispatcher.Nearest
import ChatCommands.Proofs.Builtin.Poll
import ChatCommands.Proofs.Console.Style
import ChatCommands.Proofs.Console.Table
