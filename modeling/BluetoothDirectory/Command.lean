import BluetoothDirectory.Directory

/-!
# Commands

Everything that can be asked of a directory and its proxies, as data: what a caller may do is a
list of commands, and each command is an operation with an answer.
-/

namespace BluetoothDirectory

/-- What a command answers. -/
inductive Answer where
  | nothing
  | flag (value : Bool)
  | number (value : Int)
  | text (value : String)
  | texts (values : List String)
  | bytes (values : List UInt8)
  | path (value : ObjectPath)
  | variant (value : Variant)
  | snapshot (value : Snapshot)
  | tree (value : ObjectTree)
  | adapterInfo (value : AdapterInfo)
  | deviceInfo (value : DeviceInfo)
  | foundAdapter (value : Option Adapter)
  | adapters (values : List Adapter)
  | devices (values : List Device)

namespace Answer

/-- An answer without content. -/
def ofUnit (_ : Unit) : Answer := nothing

/-- A number without a sign. -/
def ofUInt32 (n : UInt32) : Answer := number n.toNat

/-- A shorter number without a sign. -/
def ofUInt16 (n : UInt16) : Answer := number n.toNat

/-- A number with a sign. -/
def ofInt16 (n : Int16) : Answer := number n.toInt

end Answer

/-- What can be asked of an adapter. -/
inductive Adapter.Command where
  | path
  | description
  | address
  | aliasName
  | rawClass
  | discoverable
  | discoverableTimeout
  | discovering
  | modalias
  | name
  | pairable
  | pairableTimeout
  | powered
  | uuids
  | setAlias (name : String)
  | setDiscoverable (on : Bool)
  | setDiscoverableTimeout (seconds : UInt32)
  | setPairable (on : Bool)
  | setPairableTimeout (seconds : UInt32)
  | setPowered (on : Bool)
  | setProperty (name : String) (value : Variant)
  | allProperties
  | info
  | removeDevice (device : ObjectPath)
  | startDiscovery
  | stopDiscovery

/-- The operation of a command to an adapter. -/
def Adapter.perform (a : Adapter) : Adapter.Command → Operation Answer
  | .path => return .path a.path
  | .description => return .text a.description
  | .address => .text <$> a.address
  | .aliasName => .text <$> a.aliasName
  | .rawClass => .ofUInt32 <$> a.rawClass
  | .discoverable => .flag <$> a.discoverable
  | .discoverableTimeout => .ofUInt32 <$> a.discoverableTimeout
  | .discovering => .flag <$> a.discovering
  | .modalias => .text <$> a.modalias
  | .name => .text <$> a.name
  | .pairable => .flag <$> a.pairable
  | .pairableTimeout => .ofUInt32 <$> a.pairableTimeout
  | .powered => .flag <$> a.powered
  | .uuids => .texts <$> a.uuids
  | .setAlias name => .ofUnit <$> a.setAlias name
  | .setDiscoverable on => .ofUnit <$> a.setDiscoverable on
  | .setDiscoverableTimeout seconds => .ofUnit <$> a.setDiscoverableTimeout seconds
  | .setPairable on => .ofUnit <$> a.setPairable on
  | .setPairableTimeout seconds => .ofUnit <$> a.setPairableTimeout seconds
  | .setPowered on => .ofUnit <$> a.setPowered on
  | .setProperty name value => .ofUnit <$> a.setProperty name value
  | .allProperties => .snapshot <$> a.allProperties
  | .info => .adapterInfo <$> a.info
  | .removeDevice device => .ofUnit <$> a.removeDevice device
  | .startDiscovery => .ofUnit <$> a.startDiscovery
  | .stopDiscovery => .ofUnit <$> a.stopDiscovery

/-- What can be asked of a device. -/
inductive Device.Command where
  | path
  | description
  | adapter
  | address
  | aliasName
  | appearance
  | blocked
  | rawClass
  | connected
  | icon
  | legacyPairing
  | modalias
  | name
  | paired
  | rssi
  | trusted
  | uuids
  | setAlias (name : String)
  | setBlocked (on : Bool)
  | setTrusted (on : Bool)
  | setProperty (name : String) (value : Variant)
  | allProperties
  | info
  | cancelPairing
  | connect
  | connectProfile (uuid : String)
  | disconnect
  | disconnectProfile (uuid : String)
  | pair

/-- The operation of a command to a device. -/
def Device.perform (d : Device) : Device.Command → Operation Answer
  | .path => return .path d.path
  | .description => return .text d.description
  | .adapter => .path <$> d.adapter
  | .address => .text <$> d.address
  | .aliasName => .text <$> d.aliasName
  | .appearance => .ofUInt16 <$> d.appearance
  | .blocked => .flag <$> d.blocked
  | .rawClass => .ofUInt32 <$> d.rawClass
  | .connected => .flag <$> d.connected
  | .icon => .text <$> d.icon
  | .legacyPairing => .flag <$> d.legacyPairing
  | .modalias => .text <$> d.modalias
  | .name => .text <$> d.name
  | .paired => .flag <$> d.paired
  | .rssi => .ofInt16 <$> d.rssi
  | .trusted => .flag <$> d.trusted
  | .uuids => .texts <$> d.uuids
  | .setAlias name => .ofUnit <$> d.setAlias name
  | .setBlocked on => .ofUnit <$> d.setBlocked on
  | .setTrusted on => .ofUnit <$> d.setTrusted on
  | .setProperty name value => .ofUnit <$> d.setProperty name value
  | .allProperties => .snapshot <$> d.allProperties
  | .info => .deviceInfo <$> d.info
  | .cancelPairing => .ofUnit <$> d.cancelPairing
  | .connect => .ofUnit <$> d.connect
  | .connectProfile uuid => .ofUnit <$> d.connectProfile uuid
  | .disconnect => .ofUnit <$> d.disconnect
  | .disconnectProfile uuid => .ofUnit <$> d.disconnectProfile uuid
  | .pair => .ofUnit <$> d.pair

/-- The types that a property can be read as. -/
inductive PropertyType where
  | bool | byte | int16 | uint16 | int32 | uint32 | text | objectPath | texts | bytes
deriving DecidableEq, Repr

namespace PropertyType

/-- Reads a property as a type, through whichever way of reading is given. -/
def readWith {m : Type → Type} [Functor m]
    (read : (α : Type) → [Variant.Payload α] → m α) : PropertyType → m Answer
  | bool => .flag <$> read Bool
  | byte => (fun n : UInt8 => .number n.toNat) <$> read UInt8
  | int16 => .ofInt16 <$> read Int16
  | uint16 => .ofUInt16 <$> read UInt16
  | int32 => (fun n : Int32 => .number n.toInt) <$> read Int32
  | uint32 => .ofUInt32 <$> read UInt32
  | text => .text <$> read String
  | objectPath => .path <$> read ObjectPath
  | texts => .texts <$> read (List String)
  | bytes => .bytes <$> read (List UInt8)

end PropertyType

/-- What can be asked of the properties of one object, on any interface. -/
inductive PropertyAccess.Command where
  | get (interface name : String)
  | getAs (type : PropertyType) (interface name : String)
  | getAll (interface : String)
  | set (interface name : String) (value : Variant)

/-- The operation of a command to the properties of an object. -/
def PropertyAccess.perform (a : PropertyAccess) : PropertyAccess.Command → Operation Answer
  | .get interface name => .variant <$> a.get interface name
  | .getAs type interface name =>
    type.readWith (m := Operation) fun α _ => a.getAs α interface name
  | .getAll interface => .snapshot <$> a.getAll interface
  | .set interface name value => .ofUnit <$> a.set interface name value

/-- What can be asked of a directory: its queries, and commands to proxies bound to a path. -/
inductive Directory.Command where
  | managedObjects
  | findAdapter (pattern : Option String)
  | adapters
  | devices (pattern : String)
  | adapter (path : String) (command : Adapter.Command)
  | device (path : String) (command : Device.Command)
  | properties (path : ObjectPath) (command : PropertyAccess.Command)

/-- The operation of a command to a directory. -/
def Directory.perform (d : Directory) : Directory.Command → Operation Answer
  | .managedObjects => .tree <$> d.managedObjects
  | .findAdapter pattern => .foundAdapter <$> d.findAdapter pattern
  | .adapters => .adapters <$> d.adapters
  | .devices pattern => .devices <$> d.devices pattern
  | .adapter path command => do
    let a ← Operation.ofExcept (d.adapter path)
    a.perform command
  | .device path command => do
    let v ← Operation.ofExcept (d.device path)
    v.perform command
  | .properties path command => (d.access path).perform command

end BluetoothDirectory
