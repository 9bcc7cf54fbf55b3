import LedgerGateway.Association
import LedgerGateway.BlockKey
import LedgerGateway.Calendar
import LedgerGateway.Cli.Arguments
import LedgerGateway.Cli.Bind
import LedgerGateway.Cli.Colour
import LedgerGateway.Cli.Program
import LedgerGateway.Cli.Query
import LedgerGateway.Cli.Serve
import LedgerGateway.Config.Basic
import LedgerGateway.Config.Load
import LedgerGateway.Config.Sections
import LedgerGateway.Datum.Basic
import LedgerGateway.Datum.Moment
import LedgerGateway.Decimal.Binary64
import LedgerGateway.Decimal.Integer
import LedgerGateway.Decimal.Places
import LedgerGateway.Decimal.Ratio
import LedgerGateway.Decimal.Shortest
import LedgerGateway.Digest.Sha256
import LedgerGateway.Domain.Direction
import LedgerGateway.Domain.Joining
import LedgerGateway.Domain.Label
import LedgerGateway.Domain.Name
import LedgerGateway.Domain.Permitted
import LedgerGateway.Domain.Punycode
import LedgerGateway.Domain.Script
import LedgerGateway.Files.Basic
import LedgerGateway.Files.Fault
import LedgerGateway.Files.Folder
import LedgerGateway.Files.Path
import LedgerGateway.Hex.Data
import LedgerGateway.Hex.Digit
import LedgerGateway.Hex.Quantity
import LedgerGateway.Http.Cors
import LedgerGateway.Http.Gateway
import LedgerGateway.Http.Message
import LedgerGateway.Http.Reason
import LedgerGateway.Json.Basic
import LedgerGateway.Json.Reader
import LedgerGateway.Json.Writer
import LedgerGateway.Ledger.Basic
import LedgerGateway.Ledger.Call
import LedgerGateway.Ledger.Client
import LedgerGateway.Ledger.Source
import LedgerGateway.Log.Call
import LedgerGateway.Log.DateFormat
import LedgerGateway.Log.FaultFamily
import LedgerGateway.Log.Formatter
import LedgerGateway.Log.Highlight
import LedgerGateway.Log.Journal
import LedgerGateway.Log.Level
import LedgerGateway.Log.LogFile
import LedgerGateway.Log.Piece
import LedgerGateway.Log.Record
import LedgerGateway.Log.Startup
import LedgerGateway.Log.Template
import LedgerGateway.Log.TerminalSafe
import LedgerGateway.Log.TimeStamp
import LedgerGateway.Main
import LedgerGateway.Proofs.AccountReads
import LedgerGateway.Proofs.Answering
import LedgerGateway.Proofs.BatchAnswers
import LedgerGateway.Proofs.BlockChain
import LedgerGateway.Proofs.BlockSelection
import LedgerGateway.Proofs.BlockSelectors
import LedgerGateway.Proofs.BodyReading
import LedgerGateway.Proofs.BuiltinLines
import LedgerGateway.Proofs.CallEffect
import LedgerGateway.Proofs.CanonicalSelectors
import LedgerGateway.Proofs.ConfigSections
import LedgerGateway.Proofs.Directives
import LedgerGateway.Proofs.EntryPoints
import LedgerGateway.Proofs.EscapeSequences
import LedgerGateway.Proofs.EveryReply
import LedgerGateway.Proofs.ExactPorts
import LedgerGateway.Proofs.FaultyMethods
import LedgerGateway.Proofs.FilledTemplates
import LedgerGateway.Proofs.FlagSettings
import LedgerGateway.Proofs.HexSpelling
import LedgerGateway.Proofs.HiddenFailures
import LedgerGateway.Proofs.IntegerTexts
import LedgerGateway.Proofs.JournalHandlers
import LedgerGateway.Proofs.JournalSetup
import LedgerGateway.Proofs.JsonCompleteness
import LedgerGateway.Proofs.JsonGrammar
import LedgerGateway.Proofs.JsonNumbers
import LedgerGateway.Proofs.JsonRoundTrip
import LedgerGateway.Proofs.JsonSoundness
import LedgerGateway.Proofs.JsonSteps
import LedgerGateway.Proofs.JsonStrictness
import LedgerGateway.Proofs.JsonStrings
import LedgerGateway.Proofs.JsonTexts
import LedgerGateway.Proofs.JsonUnambiguous
import LedgerGateway.Proofs.LastWrite
import LedgerGateway.Proofs.LastingTemplates
import LedgerGateway.Proofs.LevelSetup
import LedgerGateway.Proofs.LevelTexts
import LedgerGateway.Proofs.ListeningPorts
import LedgerGateway.Proofs.LosslessAnswers
import LedgerGateway.Proofs.MarkedLines
import LedgerGateway.Proofs.MarkedWords
import LedgerGateway.Proofs.MethodEndings
import LedgerGateway.Proofs.Notifications
import LedgerGateway.Proofs.NumberTexts
import LedgerGateway.Proofs.OneResponse
import LedgerGateway.Proofs.Outcomes
import LedgerGateway.Proofs.PairedHalves
import LedgerGateway.Proofs.ParameterChecks
import LedgerGateway.Proofs.ParseErrors
import LedgerGateway.Proofs.PortValues
import LedgerGateway.Proofs.Precedence
import LedgerGateway.Proofs.Quantities
import LedgerGateway.Proofs.QueryCommand
import LedgerGateway.Proofs.ReadableAnswers
import LedgerGateway.Proofs.Registrations
import LedgerGateway.Proofs.ReportedFaults
import LedgerGateway.Proofs.RequestOutcomes
import LedgerGateway.Proofs.ResolvedBlocks
import LedgerGateway.Proofs.Rounding
import LedgerGateway.Proofs.ServerStart
import LedgerGateway.Proofs.ShortestDigits
import LedgerGateway.Proofs.SideBySide
import LedgerGateway.Proofs.SingleRequests
import LedgerGateway.Proofs.SpeltWords
import LedgerGateway.Proofs.StoragePositions
import LedgerGateway.Proofs.StrictData
import LedgerGateway.Proofs.TemplateSamples
import LedgerGateway.Proofs.TerminalLines
import LedgerGateway.Proofs.UsualRecords
import LedgerGateway.Proofs.Utf8Decoding
import LedgerGateway.Proofs.Utf8Spelling
import LedgerGateway.Proofs.WireAnswers
import LedgerGateway.Proofs.WritableLiterals
import LedgerGateway.Proofs.WritableValues
import LedgerGateway.Proofs.WrittenResponses
import LedgerGateway.Proofs.WrittenStrings
import LedgerGateway.Proofs.WrittenText
import LedgerGateway.Proofs.WrittenValues
import LedgerGateway.Rpc.AccountMethods
import LedgerGateway.Rpc.Dispatcher
import LedgerGateway.Rpc.Error
import LedgerGateway.Rpc.Fault
import LedgerGateway.Rpc.Gathering
import LedgerGateway.Rpc.Message
import LedgerGateway.Rpc.Method
import LedgerGateway.Rpc.Registration
import LedgerGateway.Settings.EnvFile
import LedgerGateway.Settings.Registry
import LedgerGateway.Settings.Setting
import LedgerGateway.Text.Assigned
import LedgerGateway.Text.Blank
import LedgerGateway.Text.Capitals
import LedgerGateway.Text.CaseFolding
import LedgerGateway.Text.CodeRanges
import LedgerGateway.Text.CombiningClass
import LedgerGateway.Text.Composed
import LedgerGateway.Text.Composite
import LedgerGateway.Text.ControlSequence
import LedgerGateway.Text.DecimalDigit
import LedgerGateway.Text.DecodeFault
import LedgerGateway.Text.Encoding
import LedgerGateway.Text.LetterCase
import LedgerGateway.Text.Mark
import LedgerGateway.Text.Parts
import LedgerGateway.Text.Percent
import LedgerGateway.Text.Position
import LedgerGateway.Text.Printable
import LedgerGateway.Text.Quoted
import LedgerGateway.Text.Resemblance
import LedgerGateway.Text.Search
import LedgerGateway.Text.Unread
import LedgerGateway.Text.Utf8
import LedgerGateway.Text.WideUnits
import LedgerGateway.Text.Word
import LedgerGateway.Toml.Document
import LedgerGateway.Toml.Fault
import LedgerGateway.Toml.Moment
import LedgerGateway.Toml.Number
import LedgerGateway.Toml.Quoted
import LedgerGateway.Toml.Value
import LedgerGateway.Trace
import LedgerGateway.Url.Address
import LedgerGateway.Url.Basic
import LedgerGateway.Url.Reader
