import BluetoothDirectory.Adapter
import BluetoothDirectory.Bus
import BluetoothDirectory.ClassOfDevice
import BluetoothDirectory.ClassOfDevice.Document
import BluetoothDirectory.Command
import BluetoothDirectory.Config
import BluetoothDirectory.Device
import BluetoothDirectory.Directory
import BluetoothDirectory.Document
import BluetoothDirectory.Duration
import BluetoothDirectory.Error
import BluetoothDirectory.Exchange
import BluetoothDirectory.Info
import BluetoothDirectory.Info.Document
import BluetoothDirectory.Interface
import BluetoothDirectory.Message
import BluetoothDirectory.Message.Failure
import BluetoothDirectory.Message.Reply
import BluetoothDirectory.Message.Scripted
import BluetoothDirectory.ObjectPath
import BluetoothDirectory.ObjectTree
import BluetoothDirectory.ObjectTree.Kind
import BluetoothDirectory.ObjectTree.Query
import BluetoothDirectory.Pattern
import BluetoothDirectory.Pattern.CharSet
import BluetoothDirectory.Pattern.Expr
import BluetoothDirectory.Pattern.Node
import BluetoothDirectory.Pattern.Property
import BluetoothDirectory.Pattern.Reader
import BluetoothDirectory.Pattern.Search
import BluetoothDirectory.Pattern.Size
import BluetoothDirectory.PropertyAccess
import BluetoothDirectory.Schema
import BluetoothDirectory.Schema.Write
import BluetoothDirectory.Snapshot
import BluetoothDirectory.SortedMap
import BluetoothDirectory.Store
import BluetoothDirectory.Store.Scripted
import BluetoothDirectory.Text.Case
import BluetoothDirectory.Text.Hex
import BluetoothDirectory.Text.Quoted
import BluetoothDirectory.Unicode.Category
import BluetoothDirectory.Unicode.Character
import BluetoothDirectory.Uuid
import BluetoothDirectory.Variant
import BluetoothDirectory.Variant.Equality
import BluetoothDirectory.Variant.Payload
import BluetoothDirectory.Wire
import BluetoothDirectory.Wire.Property
import BluetoothDirectory.Proofs.OneCall
import BluetoothDirectory.Proofs.Deed
import BluetoothDirectory.Proofs.StoreWrite
import BluetoothDirectory.Proofs.WriteGate
import BluetoothDirectory.Proofs.Session
import BluetoothDirectory.Proofs.LastWriter
import BluetoothDirectory.Proofs.Conformance
import BluetoothDirectory.Proofs.TypeSoundness
import BluetoothDirectory.Proofs.Listing
import BluetoothDirectory.Proofs.Service
import BluetoothDirectory.Proofs.Refinement
import BluetoothDirectory.Proofs.ByteOrder
import BluetoothDirectory.Proofs.Classification
import BluetoothDirectory.Proofs.Failure
import BluetoothDirectory.Proofs.Flattening
import BluetoothDirectory.Proofs.RoundTrip
import BluetoothDirectory.Proofs.WireOrder
import BluetoothDirectory.Proofs.SnapshotOrder
import BluetoothDirectory.Proofs.Decoding
import BluetoothDirectory.Proofs.DecodedReply
import BluetoothDirectory.Proofs.Summary
import BluetoothDirectory.Proofs.SingleCall
import BluetoothDirectory.Proofs.Sharing
import BluetoothDirectory.Proofs.BoundProxies
import BluetoothDirectory.Proofs.Traffic
import BluetoothDirectory.Proofs.LocalChecks
import BluetoothDirectory.Proofs.MethodTable
import BluetoothDirectory.Proofs.QueriesAndGetters
import BluetoothDirectory.Proofs.Irrelevance
import BluetoothDirectory.Proofs.ServiceText
import BluetoothDirectory.Proofs.SummaryRecord
import BluetoothDirectory.Proofs.AdapterSearch
import BluetoothDirectory.Proofs.Selection
import BluetoothDirectory.Proofs.KindsAndQueries
import BluetoothDirectory.Proofs.Comparison
import BluetoothDirectory.Proofs.SnapshotReading
import BluetoothDirectory.Proofs.LosslessSummary
import BluetoothDirectory.Proofs.CanonicalProfile
import BluetoothDirectory.Proofs.ClassBits
import BluetoothDirectory.Proofs.Hierarchy
import BluetoothDirectory.Proofs.Unwrapping
