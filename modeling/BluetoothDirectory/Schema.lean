import BluetoothDirectory.Interface
import BluetoothDirectory.Variant

/-!
# Declared properties

The properties that adapters and devices are known to have, each with its kind and with whether it
may be written. Writes to the two interfaces are checked against these declarations; any other
interface is not described here.
-/

namespace BluetoothDirectory.Schema

/-- Whether a property may only be read, or also written. -/
inductive Access where
  | read
  | readWrite
deriving DecidableEq, Repr, Inhabited

/-- What is known of one property. -/
structure Declaration where
  name : String
  kind : Variant.Kind
  access : Access
deriving DecidableEq, Repr, Inhabited

/-- Whether the property may be written. -/
def Declaration.writable (d : Declaration) : Bool :=
  d.access == .readWrite

/-- The properties of an adapter. -/
def adapter : List Declaration :=
  [⟨"Address", .text, .read⟩,
   ⟨"Alias", .text, .readWrite⟩,
   ⟨"Class", .uint32, .read⟩,
   ⟨"Discoverable", .bool, .readWrite⟩,
   ⟨"DiscoverableTimeout", .uint32, .readWrite⟩,
   ⟨"Discovering", .bool, .read⟩,
   ⟨"Modalias", .text, .read⟩,
   ⟨"Name", .text, .read⟩,
   ⟨"Pairable", .bool, .readWrite⟩,
   ⟨"PairableTimeout", .uint32, .readWrite⟩,
   ⟨"Powered", .bool, .readWrite⟩,
   ⟨"UUIDs", .texts, .read⟩]

/-- The properties of a device. -/
def device : List Declaration :=
  [⟨"Adapter", .objectPath, .read⟩,
   ⟨"Address", .text, .read⟩,
   ⟨"Alias", .text, .readWrite⟩,
   ⟨"Appearance", .uint16, .read⟩,
   ⟨"Blocked", .bool, .readWrite⟩,
   ⟨"Class", .uint32, .read⟩,
   ⟨"Connected", .bool, .read⟩,
   ⟨"Icon", .text, .read⟩,
   ⟨"LegacyPairing", .bool, .read⟩,
   ⟨"Modalias", .text, .read⟩,
   ⟨"Name", .text, .read⟩,
   ⟨"Paired", .bool, .read⟩,
   ⟨"RSSI", .int16, .read⟩,
   ⟨"Trusted", .bool, .readWrite⟩,
   ⟨"UUIDs", .texts, .read⟩]

/-- The declared properties of an interface, if it is described here. -/
def declarations? (interface : String) : Option (List Declaration) :=
  if interface = Interface.adapter then some adapter
  else if interface = Interface.device then some device
  else none

/-- What the declarations say of a property. -/
inductive Lookup where
  /-- The interface is not described here. -/
  | unknownInterface
  /-- The interface is described, without this property. -/
  | undeclared
  | declared (d : Declaration)
deriving DecidableEq, Repr

/-- Looks up a property of an interface. -/
def lookup (interface property : String) : Lookup :=
  match declarations? interface with
  | none => .unknownInterface
  | some ds =>
    match ds.find? fun d => d.name == property with
    | none => .undeclared
    | some d => .declared d

end BluetoothDirectory.Schema
