import BluetoothDirectory.Exchange

/-!
# A store in memory

A list of objects that answers calls the way a service does: it lists its objects, reads and
writes their properties, and answers methods with nothing. Of several objects with one path, or
interfaces with one name, the first is meant.
-/

namespace BluetoothDirectory

/-- The objects of a service, in order. -/
structure Store where
  objects : ManagedObjects

/-- Applies a function to the value of the first pair with a key. -/
def updateFirst {α β : Type} (key : α → Bool) (f : β → β) :
    List (α × β) → List (α × β)
  | [] => []
  | (k, v) :: rest => if key k then (k, f v) :: rest else (k, v) :: updateFirst key f rest

namespace Store

/-- The properties of an interface of an object. -/
def properties? (s : Store) (path interface : String) : Option Snapshot :=
  (s.objects.find? fun o => o.1.text == path).bind fun o => o.2.lookup interface

/-- The value of a property. -/
def value? (s : Store) (path interface property : String) : Option Variant :=
  (s.properties? path interface).bind fun p => p.get? property

/-- Gives a property a value, where the object has the interface. -/
def write (s : Store) (path interface property : String) (value : Variant) : Store :=
  ⟨updateFirst (fun p => p.text == path)
    (updateFirst (fun i => i == interface) fun props => props.insert property value) s.objects⟩

/-- The error for an object or interface that is not there. -/
def unknownObject (path : String) : Error :=
  .remote "org.freedesktop.DBus.Error.UnknownObject" ("no object at " ++ path)

/-- Answers a request. -/
def answer (s : Store) : (r : Request) → Except Error r.Reply × Store
  | .managedObjects _ => (.ok s.objects, s)
  | .get path interface property =>
    match s.properties? path interface with
    | none => (.error (unknownObject path), s)
    | some props =>
      match props.get? property with
      | none => (.error (.propertyNotFound interface property), s)
      | some v => (.ok v, s)
  | .getAll path interface =>
    match s.properties? path interface with
    | none => (.error (unknownObject path), s)
    | some props => (.ok props, s)
  | .set path interface property value =>
    match s.properties? path interface with
    | none => (.error (unknownObject path), s)
    | some _ => (.ok (), s.write path interface property value)
  | .method .. => (.ok none, s)

/-- A store as a remote. -/
def remote : Remote Store where
  answer c s := s.answer c.request

end Store

end BluetoothDirectory
