import BluetoothDirectory.Message
import BluetoothDirectory.Message.Failure

/-!
# Replies on the bus

What may come of a message, and what it means for the call: a reply of the expected shape is the
answer, and anything else is an error. The list of objects comes in no order of its own and is put
in order by path, and the interfaces of each object by name.
-/

namespace BluetoothDirectory

/-- What may come of a message. -/
inductive Outcome where
  /-- A reply with these values. -/
  | reply (body : List Wire.Value)
  /-- An error with a name and these values. -/
  | refusal (name : String) (body : List Wire.Value)
  /-- Nothing, until the time is over. -/
  | silence
  /-- The connection is gone, or the message could not be sent. -/
  | broken (reason : String)

namespace Outcome

/-- The message of an error: its first value, if that is a text. -/
def refusalText? (body : List Wire.Value) : Option String :=
  body.head?.bind Wire.Value.text?

end Outcome

namespace Wire

/-- The properties of an interface, from a dictionary from texts to variants. -/
def snapshot (entries : List (Value × Value)) : Snapshot :=
  SortedMap.ofList (Value.toVariants entries)

/-- The interface of an entry, with its properties; the name has to obey the rule. -/
def interfaceEntry? : Value × Value → Option (String × Snapshot)
  | (.text name, .dict .text .variant props) =>
    if BusName.isInterface name then some (name, snapshot props) else none
  | _ => none

/-- The interfaces of an object, ascending by name. -/
def interfaces? (entries : List (Value × Value)) : Option (List (String × Snapshot)) :=
  (entries.mapM interfaceEntry?).map fun pairs => (SortedMap.ofList pairs).entries

/-- The object of an entry, under the text of its path. -/
def objectEntry? : Value × Value →
    Option (String × ObjectPath × List (String × Snapshot))
  | (.objectPath p, .dict .text (.dict .text .variant) entries) =>
    (interfaces? entries).map fun i => (p.text, p, i)
  | _ => none

/-- The objects of a service, ascending by path. -/
def managedObjects? (entries : List (Value × Value)) : Option ManagedObjects :=
  (entries.mapM objectEntry?).map fun pairs => (SortedMap.ofList pairs).entries.map (·.2)

end Wire

namespace Request

/-- The answer to a request in the values of a reply, if they have the expected types. -/
def readReply? : (r : Request) → List Wire.Value → Option r.Reply
  | .managedObjects _, [.dict .objectPath (.dict .text (.dict .text .variant)) entries] =>
    Wire.managedObjects? entries
  | .get .., [.variant v] => some v.toVariant
  | .getAll .., [.dict .text .variant entries] => some (Wire.snapshot entries)
  | .set .., [] => some ()
  | .method .., [] => some none
  | _, _ => none

/-- The error for a request that the service refused. -/
def refusalError (r : Request) (name : String) (message : Option String) : Error :=
  match r with
  | .method .. => (CallFailure.refused name message).error r.title
  | .get _ interface property =>
    (StandardFailure.ofRefusal name message).propertyError r.title interface property
  | _ => (StandardFailure.ofRefusal name message).error r.title

/-- The error for a request without an answer that can be understood. -/
def brokenError (r : Request) (reason : String) : Error :=
  match r with
  | .method .. => (CallFailure.broken reason).error r.title
  | .get _ interface property =>
    (StandardFailure.other (.broken reason)).propertyError r.title interface property
  | _ => (StandardFailure.other (.broken reason)).error r.title

end Request

/-- What the outcome of a call's message means for the call. -/
def Call.conclude (c : Call) : Outcome → Except Error c.Reply
  | .reply body =>
    match c.request.readReply? body with
    | some answer => .ok answer
    | none => .error (c.request.brokenError "the reply has another signature")
  | .refusal name body => .error (c.request.refusalError name (Outcome.refusalText? body))
  | .silence => .error (.timeout c.request.title (c.timeout.getD .zero))
  | .broken reason => .error (c.request.brokenError reason)

/-- The bus with the other end of a connection to it: what comes of each message that is handed to
it. What the bus does with a message that it cannot carry, such as one with a zero character in a
text, is up to it as well. -/
structure Peer (σ : Type) where
  deliver : Message → σ → Outcome × σ

/-- The service behind a connection, as a remote. A call without a message does not reach the
bus. -/
def Peer.remote {σ : Type} (p : Peer σ) : Remote σ where
  answer c s :=
    match c.message with
    | .error e => (.error e, s)
    | .ok m =>
      let delivered := p.deliver m s
      (c.conclude delivered.1, delivered.2)

end BluetoothDirectory
