import BluetoothDirectory.ClassOfDevice.Document
import BluetoothDirectory.Info

/-!
# Records of summaries

A summary as a record with a member for every field, null where the field is missing, and its
reading back: members may be missing or null where the field may be, and other members are
ignored.
-/

namespace BluetoothDirectory

namespace Document

/-- A number of 32 bits. -/
def ofUInt32 (n : UInt32) : Document := whole n.toNat

/-- Reads a number of 32 bits. -/
def uint32? (d : Document) : Option UInt32 := (d.natBelow? UInt32.size).map Nat.toUInt32

/-- A number of 16 bits. -/
def ofUInt16 (n : UInt16) : Document := whole n.toNat

/-- Reads a number of 16 bits. -/
def uint16? (d : Document) : Option UInt16 := (d.natBelow? UInt16.size).map Nat.toUInt16

/-- A number of 16 bits with a sign. -/
def ofInt16 (n : Int16) : Document := whole n.toInt

/-- Reads a number of 16 bits with a sign. -/
def int16? (d : Document) : Option Int16 :=
  d.int?.bind fun n => if -32768 ≤ n ∧ n ≤ 32767 then some (Int16.ofInt n) else none

/-- An object path. -/
def ofObjectPath (p : ObjectPath) : Document := text p.text

/-- Reads an object path. -/
def objectPath? (d : Document) : Option ObjectPath := d.text?.bind ObjectPath.ofString?

/-- A list of texts. -/
def ofTexts (l : List String) : Document := list (l.map text)

/-- Reads a field that must be there. -/
def required? {α : Type} (read : Document → Option α) (field : Option Document) : Option α :=
  field.bind read

/-- Reads a field that may be missing or null. -/
def possible? {α : Type} (read : Document → Option α) (field : Option Document) :
    Option (Option α) :=
  match field with
  | none => some none
  | some d => optional? read d

end Document

open Document

namespace AdapterInfo

/-- The names of the members of a record. -/
def memberNames : List String :=
  ["path", "address", "name", "alias", "class", "powered", "discoverable", "discoverable_timeout",
   "pairable", "pairable_timeout", "discovering", "modalias", "uuids"]

/-- The values of the members of a record, in the order of their names. -/
def memberValues (i : AdapterInfo) : List Document :=
  [ofObjectPath i.path, ofOptional .text i.address, ofOptional .text i.name,
   ofOptional .text i.aliasName, ofOptional DeviceClass.document i.deviceClass,
   ofOptional .bool i.powered, ofOptional .bool i.discoverable,
   ofOptional ofUInt32 i.discoverableTimeout, ofOptional .bool i.pairable,
   ofOptional ofUInt32 i.pairableTimeout, ofOptional .bool i.discovering,
   ofOptional .text i.modalias, ofTexts i.uuids]

/-- A summary as a record. -/
def document (i : AdapterInfo) : Document :=
  .object (memberNames.zip i.memberValues)

/-- Reads a summary from a record. -/
def ofDocument? (d : Document) : Option AdapterInfo := do
  match ← d.fields? memberNames with
  | [path, address, name, aliasName, cls, powered, discoverable, discoverableTimeout, pairable,
      pairableTimeout, discovering, modalias, uuids] =>
    return {
      path := ← required? objectPath? path
      address := ← possible? text? address
      name := ← possible? text? name
      aliasName := ← possible? text? aliasName
      deviceClass := ← possible? DeviceClass.ofDocument? cls
      powered := ← possible? bool? powered
      discoverable := ← possible? bool? discoverable
      discoverableTimeout := ← possible? uint32? discoverableTimeout
      pairable := ← possible? bool? pairable
      pairableTimeout := ← possible? uint32? pairableTimeout
      discovering := ← possible? bool? discovering
      modalias := ← possible? text? modalias
      uuids := ← required? texts? uuids }
  | _ => none

end AdapterInfo

namespace DeviceInfo

/-- The names of the members of a record. -/
def memberNames : List String :=
  ["path", "adapter", "address", "name", "alias", "icon", "class", "appearance", "paired",
   "trusted", "blocked", "connected", "legacy_pairing", "rssi", "modalias", "uuids"]

/-- The values of the members of a record, in the order of their names. -/
def memberValues (i : DeviceInfo) : List Document :=
  [ofObjectPath i.path, ofOptional ofObjectPath i.adapter, ofOptional .text i.address,
   ofOptional .text i.name, ofOptional .text i.aliasName, ofOptional .text i.icon,
   ofOptional DeviceClass.document i.deviceClass, ofOptional ofUInt16 i.appearance,
   ofOptional .bool i.paired, ofOptional .bool i.trusted, ofOptional .bool i.blocked,
   ofOptional .bool i.connected, ofOptional .bool i.legacyPairing, ofOptional ofInt16 i.rssi,
   ofOptional .text i.modalias, ofTexts i.uuids]

/-- A summary as a record. -/
def document (i : DeviceInfo) : Document :=
  .object (memberNames.zip i.memberValues)

/-- Reads a summary from a record. -/
def ofDocument? (d : Document) : Option DeviceInfo := do
  match ← d.fields? memberNames with
  | [path, adapter, address, name, aliasName, icon, cls, appearance, paired, trusted, blocked,
      connected, legacyPairing, rssi, modalias, uuids] =>
    return {
      path := ← required? objectPath? path
      adapter := ← possible? objectPath? adapter
      address := ← possible? text? address
      name := ← possible? text? name
      aliasName := ← possible? text? aliasName
      icon := ← possible? text? icon
      deviceClass := ← possible? DeviceClass.ofDocument? cls
      appearance := ← possible? uint16? appearance
      paired := ← possible? bool? paired
      trusted := ← possible? bool? trusted
      blocked := ← possible? bool? blocked
      connected := ← possible? bool? connected
      legacyPairing := ← possible? bool? legacyPairing
      rssi := ← possible? int16? rssi
      modalias := ← possible? text? modalias
      uuids := ← required? texts? uuids }
  | _ => none

end DeviceInfo

end BluetoothDirectory
