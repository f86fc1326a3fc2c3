import BluetoothDirectory.Exchange
import BluetoothDirectory.Schema.Write
import BluetoothDirectory.Text.Quoted

/-!
# Access to the properties of one object

A proxy for one object of a service. Every read and write is a call of its own and nothing is
kept between them; a write that the declared properties do not allow is refused without a call.
-/

namespace BluetoothDirectory

/-- A proxy for one object: the bus it is on, its service and path, and the time that an answer
may take. -/
structure PropertyAccess where
  bus : Bus
  service : String
  path : ObjectPath
  timeout : Option Duration
deriving DecidableEq, Inhabited

namespace PropertyAccess

/-- Asks the object's service. -/
def ask (a : PropertyAccess) (r : Request) : Operation r.Reply :=
  Operation.ask ⟨a.service, a.timeout, r⟩

/-- Reads a property. -/
def get (a : PropertyAccess) (interface name : String) : Operation Variant :=
  a.ask (.get a.path.text interface name)

/-- Reads a property as a type. -/
def getAs (α : Type) [Variant.Payload α] (a : PropertyAccess) (interface name : String) :
    Operation α := do
  let value ← a.get interface name
  Operation.ofExcept (value.decode α interface name)

/-- Reads all properties of an interface. -/
def getAll (a : PropertyAccess) (interface : String) : Operation Snapshot :=
  a.ask (.getAll a.path.text interface)

/-- Writes a property, unless the declared properties do not allow it. -/
def set {α : Type} [Variant.Writable α] (a : PropertyAccess) (interface name : String)
    (value : α) : Operation Unit := do
  let v := Variant.Writable.toVariant value
  Operation.ofExcept (Schema.checkWrite interface name v)
  a.ask (.set a.path.text interface name v)

/-- Invokes a method of the object. -/
def invoke (a : PropertyAccess) (interface member : String) (arguments : List Variant) :
    Operation (Option Variant) :=
  a.ask (.method a.path.text interface member arguments)

/-- A limit on time as a description shows it. -/
def limitText : Option Duration → String
  | none => "None"
  | some d => "Some(" ++ d.text ++ ")"

/-- A description of the proxy. -/
def description (a : PropertyAccess) : String :=
  "PropertyCache \x7b bus: " ++ a.bus.title ++ ", service: " ++ Text.quoted a.service
    ++ ", path: " ++ Text.quoted a.path.text ++ ", timeout: " ++ limitText a.timeout ++ " \x7d"

end PropertyAccess

end BluetoothDirectory
