import BluetoothDirectory.Message.Reply

/-!
# A peer that follows a script

The other end of a connection, holding objects with values as they are on the bus. It keeps a log
of the messages that reach it, and can be told how to answer the next ones; without a script it
lists its objects, reads and writes their properties, and answers anything else with nothing. It
may also hang up, after which no message reaches it.
-/

namespace BluetoothDirectory

/-- The objects of a peer, with values as they are on the bus. -/
abbrev WireObjects := List (ObjectPath × List (String × List (String × Wire.Value)))

namespace Peer

/-- How a message is to be answered. -/
inductive Script where
  | refuse (name : String) (body : List Wire.Value)
  | reply (body : List Wire.Value)
  | silent
  | hangUp

/-- A peer with the replies still in the script, the messages so far, last first, and whether the
connection is still there. -/
structure Scripted where
  objects : WireObjects
  script : List Script := []
  messages : List Message := []
  connected : Bool := true

namespace Scripted

/-- Gives a key a value: in place of its first one, or at the end. -/
def put {α : Type} (key : String) (value : α) : List (String × α) → List (String × α)
  | [] => [(key, value)]
  | (k, v) :: rest => if k = key then (k, value) :: rest else (k, v) :: put key value rest

/-- The entries of properties in a reply. -/
def propertyEntries (props : List (String × Wire.Value)) : List (Wire.Value × Wire.Value) :=
  props.map fun p => (.text p.1, .variant p.2)

/-- The reply that lists all objects. -/
def listing (objects : WireObjects) : Wire.Value :=
  .dict .objectPath (.dict .text (.dict .text .variant)) (objects.map fun o =>
    (.objectPath o.1, .dict .text (.dict .text .variant) (o.2.map fun i =>
      (.text i.1, .dict .text .variant (propertyEntries i.2)))))

/-- A refusal with a standard error and a message. -/
def refuse (name message : String) : Outcome :=
  .refusal (StandardFailure.namespaceText ++ name) [.text message]

/-- Replaces the properties of an interface of an object. -/
def setProperties (objects : WireObjects) (path interface : String)
    (props : List (String × Wire.Value)) : WireObjects :=
  objects.map fun o => if o.1.text = path then (o.1, put interface props o.2) else o

/-- Answers a message about the properties of an object's interface. -/
def answerProperties (objects : WireObjects) (path interface : String)
    (use : List (String × Wire.Value) → Outcome × WireObjects) : Outcome × WireObjects :=
  match objects.find? fun o => o.1.text == path with
  | none => (refuse "UnknownObject" ("no object at " ++ path), objects)
  | some o =>
    match o.2.lookup interface with
    | none => (refuse "UnknownInterface" ("no interface " ++ interface), objects)
    | some props => use props

/-- Answers a message from the objects. -/
def answer (objects : WireObjects) (m : Message) : Outcome × WireObjects :=
  if m.interface = Interface.objectManager && m.member = "GetManagedObjects" then
    (.reply [listing objects], objects)
  else if m.interface = Interface.properties then
    match m.member, m.body with
    | "Get", [.text i, .text p] =>
      answerProperties objects m.path i fun props =>
        match props.lookup p with
        | none => (refuse "InvalidArgs" ("No such property '" ++ p ++ "'"), objects)
        | some v => (.reply [.variant v], objects)
    | "GetAll", [.text i] =>
      answerProperties objects m.path i fun props =>
        (.reply [.dict .text .variant (propertyEntries props)], objects)
    | "Set", [.text i, .text p, .variant v] =>
      answerProperties objects m.path i fun props =>
        (.reply [], setProperties objects m.path i (put p v props))
    | _, _ => (.reply [], objects)
  else (.reply [], objects)

/-- Answers a message as the script says. -/
def follow (s : Scripted) (m : Message) : Outcome × Scripted :=
  match s.script.head? with
  | some (.refuse name body) => (.refusal name body, s)
  | some (.reply body) => (.reply body, s)
  | some .silent => (.silence, s)
  | some .hangUp => (.broken "the peer hung up", { s with connected := false })
  | none =>
    let answered := answer s.objects m
    (answered.1, { s with objects := answered.2 })

/-- A scripted peer. -/
def peer : Peer Scripted where
  deliver m s :=
    if s.connected then
      let followed := follow s m
      (followed.1, { followed.2 with script := s.script.tail, messages := m :: s.messages })
    else (.broken "the connection is closed", s)

/-- Puts a reply at the end of the script. -/
def queue (s : Scripted) (reply : Script) : Scripted :=
  { s with script := s.script ++ [reply] }

end Scripted

end Peer

end BluetoothDirectory
