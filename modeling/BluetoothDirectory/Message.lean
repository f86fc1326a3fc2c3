import BluetoothDirectory.Exchange
import BluetoothDirectory.Wire.Property

/-!
# Messages on the bus

Each request goes out as one message, unless something about it cannot be sent. Values and
arguments that have no place on the bus are noticed first, then the name of the service, then the
path, then the name of the interface. Only the methods listed here have messages.
-/

namespace BluetoothDirectory

/-- A method call on the bus. -/
structure Message where
  destination : String
  path : String
  interface : String
  member : String
  body : List Wire.Value

/-- The methods of adapters and devices, with the kinds of their arguments. -/
def Message.methods : List (String × String × List Variant.Kind) :=
  [(Interface.adapter, "RemoveDevice", [.objectPath]),
   (Interface.adapter, "StartDiscovery", []),
   (Interface.adapter, "StopDiscovery", []),
   (Interface.device, "CancelPairing", []),
   (Interface.device, "Connect", []),
   (Interface.device, "ConnectProfile", [.text]),
   (Interface.device, "Disconnect", []),
   (Interface.device, "DisconnectProfile", [.text]),
   (Interface.device, "Pair", [])]

namespace Request

/-- The path of the object that a request is for. -/
def path : Request → String
  | managedObjects root => root
  | get path _ _ => path
  | getAll path _ => path
  | set path _ _ _ => path
  | method path _ _ _ => path

/-- How a request is named in errors of the bus, without its object. -/
def action : Request → String
  | managedObjects _ => Interface.objectManager ++ ".GetManagedObjects"
  | get _ interface property =>
    Interface.properties ++ ".Get " ++ Error.propertyName interface property
  | getAll _ interface => Interface.properties ++ ".GetAll " ++ interface
  | set _ interface property _ =>
    Interface.properties ++ ".Set " ++ Error.propertyName interface property
  | method _ interface member _ => interface ++ "." ++ member

/-- How a request is named in errors of the bus. -/
def title (r : Request) : String :=
  r.action ++ " on " ++ r.path

/-- The error for a value that cannot be written. -/
def unwritable (interface property : String) (value : Variant) : Error :=
  .unsupportedArguments
    ("cannot write a '" ++ value.kind.signature ++ "' value to "
      ++ Error.propertyName interface property)

/-- The error for a method that has no message, or not with such arguments. -/
def unknownMethod (interface member : String) (arguments : List Variant) : Error :=
  .unsupportedArguments
    (interface ++ "." ++ member ++ "("
      ++ ", ".intercalate (arguments.map fun v => v.kind.signature) ++ ")")

/-- The interface, member and arguments of the message for a request. -/
def content : Request → Except Error (String × String × List Wire.Value)
  | managedObjects _ => .ok (Interface.objectManager, "GetManagedObjects", [])
  | get _ interface property =>
    .ok (Interface.properties, "Get", [.text interface, .text property])
  | getAll _ interface => .ok (Interface.properties, "GetAll", [.text interface])
  | set _ interface property value =>
    match Wire.ofVariant? value with
    | some w => .ok (Interface.properties, "Set", [.text interface, .text property, .variant w])
    | none => .error (unwritable interface property value)
  | method _ interface member arguments =>
    if (interface, member, arguments.map Variant.kind) ∈ Message.methods then
      match arguments.mapM Wire.ofVariant? with
      | some body => .ok (interface, member, body)
      | none => .error (unknownMethod interface member arguments)
    else .error (unknownMethod interface member arguments)

/-- The interface that a request names to the standard interfaces, which has to obey the rule for
names. -/
def namedInterface? : Request → Option String
  | managedObjects _ => none
  | get _ interface _ => some interface
  | getAll _ interface => some interface
  | set _ interface _ _ => some interface
  | method .. => none

end Request

/-- Refuses to address a call, unless the condition holds. -/
def Call.require (holds : Bool) (what name : String) : Except Error Unit :=
  if holds then .ok () else .error (.address ("invalid " ++ what ++ ": " ++ name))

/-- The message for a call. The first thing that cannot be sent is the reason for a refusal. -/
def Call.message (c : Call) : Except Error Message := do
  let (interface, member, body) ← c.request.content
  Call.require (BusName.isService c.service) "bus name" c.service
  Call.require (ObjectPath.isValid c.request.path.toList) "object path" c.request.path
  match c.request.namedInterface? with
  | none => pure ()
  | some name => Call.require (BusName.isInterface name) "interface name" name
  return ⟨c.service, c.request.path, interface, member, body⟩

end BluetoothDirectory
