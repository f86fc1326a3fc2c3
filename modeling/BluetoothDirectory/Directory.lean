import BluetoothDirectory.Adapter
import BluetoothDirectory.Config
import BluetoothDirectory.Device
import BluetoothDirectory.ObjectTree.Query
import BluetoothDirectory.Pattern

/-!
# The directory

Finds adapters and devices. Each query lists the objects of the service anew with one call, and
what it finds are proxies bound to the directory's settings; binding a proxy to a known path needs
no call.
-/

namespace BluetoothDirectory

/-- The tree of the objects of a service, from one call. -/
def ObjectTree.fetch (service root : String) (timeout : Option Duration) :
    Operation ObjectTree := do
  let reply ← Operation.ask ⟨service, timeout, .managedObjects root⟩
  Operation.ofExcept (ObjectTree.ofManagedObjects reply)

/-- A directory on a bus. The bus is the one that is really in use, whichever the settings
name. -/
structure Directory where
  bus : Bus
  config : Config
deriving DecidableEq, Inhabited

/-- Connects to a bus, if it is among those that can be reached. -/
def Bus.connect (reachable : List Bus) (bus : Bus) : Except Error Bus :=
  if bus ∈ reachable then .ok bus else .error (.connection bus "no bus is listening")

namespace Directory

/-- A directory on the bus that the settings name, if that can be reached. -/
def connect (reachable : List Bus) (config : Config) : Except Error Directory := do
  let bus ← config.bus.connect reachable
  return ⟨bus, config⟩

/-- A proxy for the object at a path, with the directory's settings. -/
def access (d : Directory) (path : ObjectPath) : PropertyAccess :=
  ⟨d.bus, d.config.service, path, d.config.timeout⟩

/-- The tree of all objects of the service. -/
def managedObjects (d : Directory) : Operation ObjectTree :=
  ObjectTree.fetch d.config.service d.config.root d.config.timeout

/-- The first adapter whose name or address contains the text, without regard to case; the first
adapter of all without a text or with the empty one. -/
def findAdapter (d : Directory) (pattern : Option String) : Operation (Option Adapter) := do
  let tree ← d.managedObjects
  return (tree.findAdapter? pattern).map fun o => ⟨d.access o.path⟩

/-- All adapters. -/
def adapters (d : Directory) : Operation (List Adapter) := do
  let tree ← d.managedObjects
  return tree.adapterPaths.map fun p => ⟨d.access p⟩

/-- Compiles the pattern of a query. -/
def compilePattern (pattern : String) : Except Error Pattern :=
  match Pattern.compile? pattern with
  | some p => .ok p
  | none => .error (.invalidPattern pattern)

/-- The devices whose adapter's path the pattern matches somewhere. A text that is no pattern is
refused without a call. -/
def devices (d : Directory) (pattern : String) : Operation (List Device) := do
  let p ← Operation.ofExcept (compilePattern pattern)
  let tree ← d.managedObjects
  return (tree.devicePaths p.isMatch).map fun q => ⟨d.access q⟩

/-- Reads a path given by the caller. -/
def readPath (path : String) : Except Error ObjectPath :=
  match ObjectPath.ofString? path with
  | some p => .ok p
  | none => .error (.invalidObjectPath path)

/-- The adapter at a path, which need not exist. -/
def adapter (d : Directory) (path : String) : Except Error Adapter := do
  let p ← readPath path
  return ⟨d.access p⟩

/-- The device at a path, which need not exist. -/
def device (d : Directory) (path : String) : Except Error Device := do
  let p ← readPath path
  return ⟨d.access p⟩

end Directory

end BluetoothDirectory
