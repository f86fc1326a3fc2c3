import BluetoothDirectory.Info
import BluetoothDirectory.PropertyAccess
import BluetoothDirectory.Uuid

/-!
# Devices

A proxy for a remote Bluetooth device that an adapter knows. Every getter, setter and action is
one call to the device, save that a profile with an identifier that cannot be read is refused
without a call.
-/

namespace BluetoothDirectory

/-- A proxy for one device. -/
structure Device where
  properties : PropertyAccess
deriving DecidableEq

namespace Device

/-- The path of the device. -/
def path (d : Device) : ObjectPath := d.properties.path

/-- A description of the proxy. -/
def description (d : Device) : String :=
  "Device \x7b props: " ++ d.properties.description ++ " \x7d"

/-- Reads a property of the device as a type. -/
def read (α : Type) [Variant.Payload α] (d : Device) (name : String) : Operation α :=
  d.properties.getAs α Interface.device name

/-- Writes a property of the device. -/
def setProperty {α : Type} [Variant.Writable α] (d : Device) (name : String) (value : α) :
    Operation Unit :=
  d.properties.set Interface.device name value

/-- The path of the adapter through which the device is known. -/
def adapter (d : Device) : Operation ObjectPath := d.read ObjectPath "Adapter"

/-- The hardware address. -/
def address (d : Device) : Operation String := d.read String "Address"

/-- The name chosen by the user. -/
def aliasName (d : Device) : Operation String := d.read String "Alias"

/-- What the device looks like, for low-energy devices. -/
def appearance (d : Device) : Operation UInt16 := d.read UInt16 "Appearance"

/-- Whether connections from the device are refused. -/
def blocked (d : Device) : Operation Bool := d.read Bool "Blocked"

/-- The number of the device's Class of Device. -/
def rawClass (d : Device) : Operation UInt32 := d.read UInt32 "Class"

/-- Whether the device is connected. -/
def connected (d : Device) : Operation Bool := d.read Bool "Connected"

/-- The name of an icon for the device. -/
def icon (d : Device) : Operation String := d.read String "Icon"

/-- Whether the device only knows the older way of pairing. -/
def legacyPairing (d : Device) : Operation Bool := d.read Bool "LegacyPairing"

/-- The identification of the hardware. -/
def modalias (d : Device) : Operation String := d.read String "Modalias"

/-- The name that the device gives itself. -/
def name (d : Device) : Operation String := d.read String "Name"

/-- Whether the device is paired. -/
def paired (d : Device) : Operation Bool := d.read Bool "Paired"

/-- The strength of the last signal, while the adapter is looking for devices. -/
def rssi (d : Device) : Operation Int16 := d.read Int16 "RSSI"

/-- Whether the device is trusted. -/
def trusted (d : Device) : Operation Bool := d.read Bool "Trusted"

/-- The profiles that the device offers. -/
def uuids (d : Device) : Operation (List String) := d.read (List String) "UUIDs"

/-- Chooses the name shown to the user. -/
def setAlias (d : Device) (name : String) : Operation Unit := d.setProperty "Alias" name

/-- Refuses connections from the device, or not. -/
def setBlocked (d : Device) (on : Bool) : Operation Unit := d.setProperty "Blocked" on

/-- Trusts the device, or not. -/
def setTrusted (d : Device) (on : Bool) : Operation Unit := d.setProperty "Trusted" on

/-- All properties of the device. -/
def allProperties (d : Device) : Operation Snapshot :=
  d.properties.getAll Interface.device

/-- A summary of the device. -/
def info (d : Device) : Operation DeviceInfo := do
  let s ← d.allProperties
  return DeviceInfo.ofSnapshot d.path s

/-- Invokes a method of the device, which answers nothing of interest. -/
def act (d : Device) (member : String) (arguments : List Variant) : Operation Unit := do
  let _ ← d.properties.invoke Interface.device member arguments

/-- A profile's identifier in the form in which it is sent. -/
def profile (text : String) : Except Error String :=
  match Uuid.ofString? text with
  | some u => .ok u.text
  | none => .error (.invalidUuid text)

/-- Stops a pairing that is under way. -/
def cancelPairing (d : Device) : Operation Unit := d.act "CancelPairing" []

/-- Connects all profiles that connect on their own. -/
def connect (d : Device) : Operation Unit := d.act "Connect" []

/-- Connects one profile. -/
def connectProfile (d : Device) (uuid : String) : Operation Unit := do
  let u ← Operation.ofExcept (profile uuid)
  d.act "ConnectProfile" [.text u]

/-- Ends all connections. -/
def disconnect (d : Device) : Operation Unit := d.act "Disconnect" []

/-- Ends the connection of one profile. -/
def disconnectProfile (d : Device) (uuid : String) : Operation Unit := do
  let u ← Operation.ofExcept (profile uuid)
  d.act "DisconnectProfile" [.text u]

/-- Pairs with the device. -/
def pair (d : Device) : Operation Unit := d.act "Pair" []

end Device

end BluetoothDirectory
