import BluetoothDirectory.Error
import BluetoothDirectory.SortedMap
import BluetoothDirectory.Variant.Equality
import BluetoothDirectory.Variant.Payload

/-!
# Snapshots of properties

The properties of one interface of one object at one time, by name. A property is read as a type
in two ways: leniently, where a missing and a mistyped property are alike, or with an error that
tells them apart.
-/

namespace BluetoothDirectory

/-- The properties of one interface, by name. -/
abbrev Snapshot := SortedMap Variant

/-- Reads a property value as a type; the interface and name label the error. -/
def Variant.decode (α : Type) [Variant.Payload α] (interface name : String) (v : Variant) :
    Except Error α :=
  match v.read α with
  | .ok x => .ok x
  | .error found => .error (.decode interface name (Variant.Payload.kind α) found.kind)

namespace Snapshot

/-- A property read as a type, if it is there and of the kind of that type. -/
def getAs? (α : Type) [Variant.Payload α] (s : Snapshot) (name : String) : Option α :=
  (s.get? name).bind Variant.Payload.ofVariant?

/-- A property read as a type, telling a missing property from a mistyped one. -/
def decode (α : Type) [Variant.Payload α] (s : Snapshot) (interface name : String) :
    Except Error α :=
  match s.get? name with
  | none => .error (.propertyNotFound interface name)
  | some v => v.decode α interface name

end Snapshot

end BluetoothDirectory
