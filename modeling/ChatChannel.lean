import ChatChannel.Address
import ChatChannel.Bridge.Lifecycle
import ChatChannel.Bridge.Rehearsal
import ChatChannel.Bridge.Url
import ChatChannel.Bus
import ChatChannel.Channel
import ChatChannel.Connection
import ChatChannel.Duration
import ChatChannel.Error
import ChatChannel.FileSystem
import ChatChannel.Frame
import ChatChannel.Gate
import ChatChannel.Http.Status
import ChatChannel.Json.Decode
import ChatChannel.Json.Numeral
import ChatChannel.Json.Printer
import ChatChannel.Json.Reader
import ChatChannel.Json.Skim
import ChatChannel.Json.Value
import ChatChannel.Media.Extension
import ChatChannel.Media.Folder
import ChatChannel.Message
import ChatChannel.Message.Decode
import ChatChannel.Native.Event
import ChatChannel.Native.Intake
import ChatChannel.Native.Lifecycle
import ChatChannel.Native.Rehearsal
import ChatChannel.Number.Binary
import ChatChannel.Number.Shortest
import ChatChannel.Path
import ChatChannel.Proofs.Bridge.Step
import ChatChannel.Proofs.Frame
import ChatChannel.Proofs.Json.Members
import ChatChannel.Proofs.Run
import ChatChannel.Qr.Segmentation
import ChatChannel.Qr.Symbol
import ChatChannel.Settings
import ChatChannel.Text.Blank
import ChatChannel.Text.CaseTable
import ChatChannel.Text.Hex
import ChatChannel.Text.Lowercase
import ChatChannel.Text.Quoted
import ChatChannel.Text.Utf8
import ChatChannel.Text.VisibleTable
import ChatChannel.Voice.Annotator
import ChatChannel.Voice.Format
import ChatChannel.Voice.Groq
import ChatChannel.Voice.Settings
import ChatChannel.Voice.Transcript
import ChatChannel.Proofs.Bridge.Delivery
import ChatChannel.Proofs.Native.Dispatcher
import ChatChannel.Proofs.Native.Delivery
import ChatChannel.Proofs.FileSystem
import ChatChannel.Proofs.Media
import ChatChannel.Proofs.Native.Attachments
import ChatChannel.Proofs.Native.Transient
import ChatChannel.Proofs.Native.Logout
import ChatChannel.Proofs.Native.Running
import ChatChannel.Proofs.Native.FailedStart
import ChatChannel.Proofs.Native.Sequence
import ChatChannel.Proofs.Bridge.Wiring
import ChatChannel.Proofs.Health
import ChatChannel.Proofs.Bridge.Sockets
import ChatChannel.Proofs.Native.Terminal
import ChatChannel.Proofs.Native.Finality
import ChatChannel.Proofs.Bridge.Overlap
import ChatChannel.Proofs.Bridge.Quiescence
import ChatChannel.Proofs.Text.Pieces
import ChatChannel.Proofs.Text.Lowercase
import ChatChannel.Proofs.Address
import ChatChannel.Proofs.Gate
import ChatChannel.Proofs.Native.Books
import ChatChannel.Proofs.Native.Custody
import ChatChannel.Proofs.Native.Rivals
import ChatChannel.Proofs.Gate.Accounts
import ChatChannel.Proofs.Gate.Devices
import ChatChannel.Proofs.Gate.Globs
import ChatChannel.Proofs.Canonical
import ChatChannel.Proofs.Bridge.Outbound
import ChatChannel.Proofs.Path
import ChatChannel.Proofs.Address.Grammar
import ChatChannel.Proofs.Native.Inventory
import ChatChannel.Proofs.Native.Captions
import ChatChannel.Proofs.Frame.Cleaning
import ChatChannel.Proofs.Bridge.Backoff
import ChatChannel.Proofs.Bridge.Reconnect
import ChatChannel.Proofs.Cancellation
import ChatChannel.Proofs.Native.Pairing
import ChatChannel.Proofs.Native.Outbound
import ChatChannel.Proofs.FileSystem.Room
import ChatChannel.Proofs.Media.Names
import ChatChannel.Proofs.Media.Confinement
import ChatChannel.Proofs.Media.Room
import ChatChannel.Proofs.Native.Documents
import ChatChannel.Proofs.Voice.Annotator
import ChatChannel.Proofs.Path.Within
import ChatChannel.Proofs.Media.Types
import ChatChannel.Proofs.Text.Utf8
import ChatChannel.Proofs.Json.Tokens
import ChatChannel.Proofs.Json.RoundTrip
import ChatChannel.Proofs.Json.Skim
import ChatChannel.Proofs.Json.Records
import ChatChannel.Proofs.Settings.Home
import ChatChannel.Proofs.Settings.Stored
import ChatChannel.Proofs.Voice.Format
import ChatChannel.Proofs.Voice.Answer
import ChatChannel.Proofs.Voice.Groq
import ChatChannel.Proofs.Media.Release
