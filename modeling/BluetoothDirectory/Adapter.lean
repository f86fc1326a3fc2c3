import BluetoothDirectory.Info
import BluetoothDirectory.PropertyAccess

/-!
# Adapters

A proxy for a local Bluetooth controller. Every getter, setter and action is one call to the
adapter; a summary is made from one reading of all its properties.
-/

namespace BluetoothDirectory

/-- A proxy for one adapter. -/
structure Adapter where
  properties : PropertyAccess
deriving DecidableEq

namespace Adapter

/-- The path of the adapter. -/
def path (a : Adapter) : ObjectPath := a.properties.path

/-- A description of the proxy. -/
def description (a : Adapter) : String :=
  "Adapter \x7b props: " ++ a.properties.description ++ " \x7d"

/-- Reads a property of the adapter as a type. -/
def read (α : Type) [Variant.Payload α] (a : Adapter) (name : String) : Operation α :=
  a.properties.getAs α Interface.adapter name

/-- Writes a property of the adapter. -/
def setProperty {α : Type} [Variant.Writable α] (a : Adapter) (name : String) (value : α) :
    Operation Unit :=
  a.properties.set Interface.adapter name value

/-- The hardware address. -/
def address (a : Adapter) : Operation String := a.read String "Address"

/-- The name chosen by the user. -/
def aliasName (a : Adapter) : Operation String := a.read String "Alias"

/-- The number of the adapter's Class of Device. -/
def rawClass (a : Adapter) : Operation UInt32 := a.read UInt32 "Class"

/-- Whether other devices can find the adapter. -/
def discoverable (a : Adapter) : Operation Bool := a.read Bool "Discoverable"

/-- How many seconds the adapter stays discoverable; zero means for ever. -/
def discoverableTimeout (a : Adapter) : Operation UInt32 := a.read UInt32 "DiscoverableTimeout"

/-- Whether the adapter is looking for devices. -/
def discovering (a : Adapter) : Operation Bool := a.read Bool "Discovering"

/-- The identification of the hardware, which not every adapter reports. -/
def modalias (a : Adapter) : Operation String := a.read String "Modalias"

/-- The name of the system. -/
def name (a : Adapter) : Operation String := a.read String "Name"

/-- Whether the adapter accepts to be paired. -/
def pairable (a : Adapter) : Operation Bool := a.read Bool "Pairable"

/-- How many seconds the adapter stays pairable; zero means for ever. -/
def pairableTimeout (a : Adapter) : Operation UInt32 := a.read UInt32 "PairableTimeout"

/-- Whether the adapter is switched on. -/
def powered (a : Adapter) : Operation Bool := a.read Bool "Powered"

/-- The profiles that the adapter offers. -/
def uuids (a : Adapter) : Operation (List String) := a.read (List String) "UUIDs"

/-- Chooses the name shown to others. -/
def setAlias (a : Adapter) (name : String) : Operation Unit := a.setProperty "Alias" name

/-- Lets other devices find the adapter, or not. -/
def setDiscoverable (a : Adapter) (on : Bool) : Operation Unit :=
  a.setProperty "Discoverable" on

/-- Chooses how many seconds the adapter stays discoverable. -/
def setDiscoverableTimeout (a : Adapter) (seconds : UInt32) : Operation Unit :=
  a.setProperty "DiscoverableTimeout" seconds

/-- Lets the adapter be paired, or not. -/
def setPairable (a : Adapter) (on : Bool) : Operation Unit := a.setProperty "Pairable" on

/-- Chooses how many seconds the adapter stays pairable. -/
def setPairableTimeout (a : Adapter) (seconds : UInt32) : Operation Unit :=
  a.setProperty "PairableTimeout" seconds

/-- Switches the adapter on or off. -/
def setPowered (a : Adapter) (on : Bool) : Operation Unit := a.setProperty "Powered" on

/-- All properties of the adapter. -/
def allProperties (a : Adapter) : Operation Snapshot :=
  a.properties.getAll Interface.adapter

/-- A summary of the adapter. -/
def info (a : Adapter) : Operation AdapterInfo := do
  let s ← a.allProperties
  return AdapterInfo.ofSnapshot a.path s

/-- Invokes a method of the adapter, which answers nothing of interest. -/
def act (a : Adapter) (member : String) (arguments : List Variant) : Operation Unit := do
  let _ ← a.properties.invoke Interface.adapter member arguments

/-- Forgets a device and its pairing. -/
def removeDevice (a : Adapter) (device : ObjectPath) : Operation Unit :=
  a.act "RemoveDevice" [.objectPath device]

/-- Starts to look for devices. -/
def startDiscovery (a : Adapter) : Operation Unit := a.act "StartDiscovery" []

/-- Stops looking for devices. -/
def stopDiscovery (a : Adapter) : Operation Unit := a.act "StopDiscovery" []

end Adapter

end BluetoothDirectory
