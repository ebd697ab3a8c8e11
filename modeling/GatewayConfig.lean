import GatewayConfig.Command.Arguments
import GatewayConfig.Command.Run
import GatewayConfig.Discovered
import GatewayConfig.Document
import GatewayConfig.Document.Format
import GatewayConfig.Interface
import GatewayConfig.Json.Decode
import GatewayConfig.Json.Source
import GatewayConfig.Json.Value
import GatewayConfig.Main
import GatewayConfig.Numeric.Binary64
import GatewayConfig.Numeric.Shortest
import GatewayConfig.Proofs.Coherence
import GatewayConfig.Proofs.Command
import GatewayConfig.Proofs.Command.Arguments
import GatewayConfig.Proofs.Command.LevelReading
import GatewayConfig.Proofs.Command.Levels
import GatewayConfig.Proofs.Command.Words
import GatewayConfig.Proofs.Discovered
import GatewayConfig.Proofs.Discovered.Members
import GatewayConfig.Proofs.Discovered.Snippet
import GatewayConfig.Proofs.Document.Appending
import GatewayConfig.Proofs.Document.AsWritten
import GatewayConfig.Proofs.Document.Beside
import GatewayConfig.Proofs.Document.Blocks
import GatewayConfig.Proofs.Document.Concatenation
import GatewayConfig.Proofs.Document.Content
import GatewayConfig.Proofs.Document.Layout
import GatewayConfig.Proofs.Document.Moves
import GatewayConfig.Proofs.Document.Outline
import GatewayConfig.Proofs.Document.OutlineReading
import GatewayConfig.Proofs.Document.Reading
import GatewayConfig.Proofs.Document.Reload
import GatewayConfig.Proofs.Document.Sections
import GatewayConfig.Proofs.Document.Slots
import GatewayConfig.Proofs.Document.Spacing
import GatewayConfig.Proofs.Document.StandingAlone
import GatewayConfig.Proofs.Document.Writable
import GatewayConfig.Proofs.Entries
import GatewayConfig.Proofs.Entries.Lens
import GatewayConfig.Proofs.Handles
import GatewayConfig.Proofs.Interface
import GatewayConfig.Proofs.InterfaceBlock
import GatewayConfig.Proofs.Line
import GatewayConfig.Proofs.LineGrammar
import GatewayConfig.Proofs.Numeric.Decimal
import GatewayConfig.Proofs.Numeric.Rounding
import GatewayConfig.Proofs.Reopening
import GatewayConfig.Proofs.Report
import GatewayConfig.Proofs.Schema.Capabilities
import GatewayConfig.Proofs.Schema.Catalogue
import GatewayConfig.Proofs.Session
import GatewayConfig.Proofs.SessionText
import GatewayConfig.Proofs.SettingLines
import GatewayConfig.Proofs.Storage.Folder
import GatewayConfig.Proofs.Text.Lines
import GatewayConfig.Proofs.Text.Lowercase
import GatewayConfig.Proofs.Text.Pattern
import GatewayConfig.Proofs.Text.Trim
import GatewayConfig.Proofs.Validation.Conformance
import GatewayConfig.Proofs.Validation.Flags
import GatewayConfig.Proofs.Validation.Hosts
import GatewayConfig.Proofs.Validation.Messages
import GatewayConfig.Proofs.Validation.Modes
import GatewayConfig.Proofs.Validation.Paths
import GatewayConfig.Proofs.Validation.Ports
import GatewayConfig.Proofs.Validation.Rearrangement
import GatewayConfig.Proofs.Validation.Reformatting
import GatewayConfig.Proofs.ValueList
import GatewayConfig.Proofs.Writable
import GatewayConfig.Report
import GatewayConfig.Schema.Catalogue
import GatewayConfig.Schema.Field
import GatewayConfig.Session
import GatewayConfig.Settings
import GatewayConfig.Storage.Basic
import GatewayConfig.Storage.Folder
import GatewayConfig.Text.Basic
import GatewayConfig.Text.Lowercase
import GatewayConfig.Text.Pattern
import GatewayConfig.Validation.Fault
import GatewayConfig.Validation.Validate
