import SensorHost.Address
import SensorHost.Board.Simulated
import SensorHost.Bytes
import SensorHost.Exchange.Link
import SensorHost.Exchange.Queue
import SensorHost.Exchange.Runtime
import SensorHost.Exchange.Transport
import SensorHost.Fault
import SensorHost.Geometry
import SensorHost.Json.Basic
import SensorHost.Json.Document
import SensorHost.Json.Numeral
import SensorHost.Json.Quoted
import SensorHost.Json.Typed
import SensorHost.ModuleInfo
import SensorHost.Number.Shortest
import SensorHost.Number.Single
import SensorHost.Number.Total
import SensorHost.Operator.Basic
import SensorHost.Operator.Decoding
import SensorHost.Operator.Encoding
import SensorHost.Operator.Product
import SensorHost.Processor.Chain
import SensorHost.Processor.Roster
import SensorHost.Proofs.Board.Commands
import SensorHost.Proofs.Board.Copies
import SensorHost.Proofs.Board.Events
import SensorHost.Proofs.Board.Processors
import SensorHost.Proofs.Board.Registers
import SensorHost.Proofs.Board.Registrar
import SensorHost.Proofs.Board.Scripts
import SensorHost.Proofs.Exchange.Accounts
import SensorHost.Proofs.Exchange.Activation
import SensorHost.Proofs.Exchange.Addressing
import SensorHost.Proofs.Exchange.Alone
import SensorHost.Proofs.Exchange.AtOnce
import SensorHost.Proofs.Exchange.Creations
import SensorHost.Proofs.Exchange.OneWay
import SensorHost.Proofs.Exchange.Order
import SensorHost.Proofs.Exchange.Submissions
import SensorHost.Proofs.Exchange.Timers
import SensorHost.Proofs.Exchange.Weight
import SensorHost.Proofs.Geometry
import SensorHost.Proofs.Json.Document
import SensorHost.Proofs.Json.Numeral
import SensorHost.Proofs.Json.Quoted
import SensorHost.Proofs.Json.Typed
import SensorHost.Proofs.LittleEndian
import SensorHost.Proofs.Number.Digits
import SensorHost.Proofs.Number.Shortest
import SensorHost.Proofs.Operator.BitFields
import SensorHost.Proofs.Operator.Codec
import SensorHost.Proofs.Operator.Coherence
import SensorHost.Proofs.Operator.Downstream
import SensorHost.Proofs.Operator.FrameLimit
import SensorHost.Proofs.Operator.Frames
import SensorHost.Proofs.Operator.Placeholders
import SensorHost.Proofs.Operator.ReadBack
import SensorHost.Proofs.Operator.Rederivation
import SensorHost.Proofs.Operator.Refusals
import SensorHost.Proofs.Operator.Slots
import SensorHost.Proofs.Operator.Widths
import SensorHost.Proofs.Processor.Creation
import SensorHost.Proofs.Processor.Lineage
import SensorHost.Proofs.Processor.Links
import SensorHost.Proofs.Processor.Names
import SensorHost.Proofs.Processor.Roster
import SensorHost.Proofs.Processor.Selectors
import SensorHost.Proofs.Session.Alterations
import SensorHost.Proofs.Session.Batch
import SensorHost.Proofs.Session.ByName
import SensorHost.Proofs.Session.Capturing
import SensorHost.Proofs.Session.Chains
import SensorHost.Proofs.Session.Conduct
import SensorHost.Proofs.Session.Creators
import SensorHost.Proofs.Session.Desk
import SensorHost.Proofs.Session.EventBatch
import SensorHost.Proofs.Session.Events
import SensorHost.Proofs.Session.Floor
import SensorHost.Proofs.Session.Knowledge
import SensorHost.Proofs.Session.Listeners
import SensorHost.Proofs.Session.Mirror
import SensorHost.Proofs.Session.Planning
import SensorHost.Proofs.Session.Prompt
import SensorHost.Proofs.Session.Pulling
import SensorHost.Proofs.Session.Recording
import SensorHost.Proofs.Session.Restoring
import SensorHost.Proofs.Session.Rollback
import SensorHost.Proofs.Session.RoundTrip
import SensorHost.Proofs.Session.Routing
import SensorHost.Proofs.Session.Runs
import SensorHost.Proofs.Session.Scripts
import SensorHost.Proofs.Session.Solo
import SensorHost.Proofs.Session.Streaming
import SensorHost.Proofs.Session.Upkeep
import SensorHost.Proofs.Session.Views
import SensorHost.Proofs.Session.Writers
import SensorHost.Proofs.Settings.Text
import SensorHost.Proofs.Signal.Anonymity
import SensorHost.Proofs.Signal.Axes
import SensorHost.Proofs.Signal.Bundles
import SensorHost.Proofs.Signal.Components
import SensorHost.Proofs.Signal.Extent
import SensorHost.Proofs.Signal.Fields
import SensorHost.Proofs.Signal.Numbers
import SensorHost.Proofs.Signal.Padding
import SensorHost.Proofs.Signal.Ranges
import SensorHost.Proofs.Single.Canonical
import SensorHost.Proofs.Single.Integers
import SensorHost.Proofs.Single.Rounding
import SensorHost.Proofs.Snapshot.Document
import SensorHost.Proofs.Snapshot.Reading
import SensorHost.Proofs.SortedMap
import SensorHost.Proofs.Success
import SensorHost.Proofs.Toml.Document
import SensorHost.Reading
import SensorHost.Recording.Event
import SensorHost.Recording.Recorder
import SensorHost.Recording.Script
import SensorHost.Session.Basic
import SensorHost.Session.Bench
import SensorHost.Session.Call
import SensorHost.Session.Host
import SensorHost.Session.Processors
import SensorHost.Session.Recordings
import SensorHost.Session.Signals
import SensorHost.Settings.Basic
import SensorHost.Settings.Folder
import SensorHost.Settings.Text
import SensorHost.Signal.Basic
import SensorHost.Signal.Decoding
import SensorHost.Signal.Range
import SensorHost.Snapshot.Basic
import SensorHost.Snapshot.Reading
import SensorHost.Snapshot.Words
import SensorHost.Snapshot.Writing
import SensorHost.SortedMap
import SensorHost.Toml.Document
import SensorHost.Toml.Item
import SensorHost.Toml.Quoted
import SensorHost.Toml.Scalar
import SensorHost.Toml.Statement
