import Keyring.Action
import Keyring.Arguments.Grammar
import Keyring.Arguments.Meaning
import Keyring.Arguments.Reading
import Keyring.Collection
import Keyring.Command.Basic
import Keyring.Command.Change
import Keyring.Command.Completion
import Keyring.Command.Context
import Keyring.Command.Description
import Keyring.Command.Execute
import Keyring.Command.View
import Keyring.Config
import Keyring.Decimal.Binary64
import Keyring.Decimal.Shortest
import Keyring.Failure
import Keyring.File.Disk
import Keyring.File.Fault
import Keyring.File.Memory
import Keyring.File.Path
import Keyring.File.Replace
import Keyring.File.System
import Keyring.Host.Arithmetic
import Keyring.Host.Format
import Keyring.Host.Image
import Keyring.Host.Machine
import Keyring.Host.Pattern
import Keyring.Host.Process
import Keyring.Host.Programs
import Keyring.Host.Script
import Keyring.Host.Shell.Builtin
import Keyring.Host.Shell.Expansion
import Keyring.Host.Shell.Interpreter
import Keyring.Host.Shell.Redirection
import Keyring.Host.Shell.Run
import Keyring.Host.Shell.Signal
import Keyring.Host.Utility.Editor
import Keyring.Host.Utility.Expression
import Keyring.Host.Utility.Files
import Keyring.Host.Utility.Lines
import Keyring.Host.Utility.Options
import Keyring.Host.Utility.Reading
import Keyring.Host.Utility.Show
import Keyring.Host.Utilities
import Keyring.Host.Utility.Test
import Keyring.Host.Zone
import Keyring.Json.Basic
import Keyring.Json.Codec
import Keyring.Json.Fault
import Keyring.Json.Printer
import Keyring.Json.Reader
import Keyring.Json.Skip
import Keyring.Json.Token
import Keyring.Key.BaseUrl
import Keyring.Key.Name
import Keyring.Key.Profile
import Keyring.Launcher
import Keyring.Main
import Keyring.Program
import Keyring.Proofs.Action
import Keyring.Proofs.Command.Confirmation
import Keyring.Proofs.Command.Reports
import Keyring.Proofs.Command.Steps
import Keyring.Proofs.File.Disk
import Keyring.Proofs.File.Lawful
import Keyring.Proofs.Json.Layout
import Keyring.Proofs.Json.Numeral
import Keyring.Proofs.Json.Quoted
import Keyring.Proofs.Key.Reading
import Keyring.Proofs.Store.Change
import Keyring.Proofs.Store.Default
import Keyring.Proofs.Store.Record
import Keyring.Proofs.Store.Reload
import Keyring.Proofs.Store.RoundTrip
import Keyring.Proofs.Store.Saving
import Keyring.Proofs.Text.Trim
import Keyring.Proofs.Time.Calendar
import Keyring.Proofs.Time.Timestamp
import Keyring.Proofs.World
import Keyring.Report
import Keyring.Resolve
import Keyring.Secret
import Keyring.Selector.Chain
import Keyring.Selector.Lines
import Keyring.Selector.Menu
import Keyring.Store.Marker
import Keyring.Store.Record
import Keyring.Store.Vault
import Keyring.Terminal
import Keyring.Text.Blank
import Keyring.Text.Canonical
import Keyring.Text.CanonicalTables
import Keyring.Text.Hidden
import Keyring.Text.Quoted
import Keyring.Text.Ranges
import Keyring.Text.Utf8
import Keyring.Time.Calendar
import Keyring.Time.Instant
import Keyring.Time.Offset
import Keyring.Time.Timestamp
import Keyring.Url.Address
import Keyring.Url.Character
import Keyring.Url.CharacterTables
import Keyring.Url.Check
import Keyring.Url.Domain
import Keyring.Url.Punycode
import Keyring.World
import Keyring.Proofs.Store.Transaction
import Keyring.Proofs.File.Permission
import Keyring.Proofs.Store.Refinement
import Keyring.Proofs.Command.Unreadable
import Keyring.Proofs.Selector.Files
import Keyring.Proofs.Resolution
import Keyring.Proofs.Selector.Framing
import Keyring.Proofs.Action.Triple
import Keyring.Proofs.Action.Agreement
import Keyring.Proofs.Session
import Keyring.Proofs.Store.InMemory
import Keyring.Proofs.Store.Sound
import Keyring.Proofs.Command.Upkeep
import Keyring.Proofs.Key.Veil
import Keyring.Proofs.Store.Veil
import Keyring.Proofs.Store.Alike
import Keyring.Proofs.Selector.Veil
import Keyring.Proofs.Command.Twins
import Keyring.Proofs.Command.Secrecy
import Keyring.Proofs.File.Frame
import Keyring.Proofs.File.Sight
import Keyring.Proofs.Store.Independence
import Keyring.Proofs.File.Route
import Keyring.Proofs.Command.Effect
import Keyring.Proofs.Command.Refusal
import Keyring.Proofs.Command.Footprint
import Keyring.Proofs.Command.Launches
import Keyring.Proofs.Designation
import Keyring.Proofs.Selector.Dialogue
import Keyring.Proofs.Hint
import Keyring.Proofs.Store.Validity
import Keyring.Proofs.Json.Grammar
import Keyring.Proofs.Json.Tokens
import Keyring.Proofs.Json.Passing
import Keyring.Proofs.Json.Conformance
import Keyring.Proofs.Json.Fields
import Keyring.Proofs.Store.Strictness
import Keyring.Proofs.History
import Keyring.Proofs.InsertionOrder
import Keyring.Proofs.Store.Others
import Keyring.Proofs.Command.Edit
import Keyring.Proofs.Command.Addition
import Keyring.Proofs.Command.Removal
import Keyring.Proofs.Selector.Choice
import Keyring.Proofs.Selector.Consulting
import Keyring.Proofs.Selector.Succession
import Keyring.Proofs.Selector.Numbers
import Keyring.Proofs.Time.Chronology
import Keyring.Proofs.File.Temporary
import Keyring.Proofs.File.Atomicity
import Keyring.Proofs.Command.Overview
import Keyring.Proofs.Json.Compact
import Keyring.Proofs.Presentation
import Keyring.Proofs.Arguments.PassedOn
import Keyring.Proofs.Json.Following
import Keyring.Proofs.Json.Overriding
import Keyring.Proofs.Config.Members
import Keyring.Proofs.Config.Loading
import Keyring.Proofs.Machine
