import BluetoothDirectory.Interface
import BluetoothDirectory.Snapshot

/-!
# Object trees

One answer to the question which objects a service has: each object with its interfaces, each
interface with its properties, in the order of the answer. No object occurs twice in a tree, and
no interface twice on an object; an answer that breaks this is refused at the first repetition.
-/

namespace BluetoothDirectory

/-- The answer that lists a service's objects, as it came. -/
abbrev ManagedObjects := List (ObjectPath × List (String × Snapshot))

/-- One object and its interfaces, each of them once. -/
structure RemoteObject where
  path : ObjectPath
  interfaces : List (String × Snapshot)
  distinct : (interfaces.map (·.1)).Nodup

/-- The objects of a service, each path once. -/
structure ObjectTree where
  objects : List RemoteObject
  distinct : (objects.map (·.path)).Nodup

/-- The first member of a list that is among those seen or stands earlier in the list. -/
def firstRepeated {α : Type} [DecidableEq α] (seen : List α) : List α → Option α
  | [] => none
  | x :: rest => if x ∈ seen then some x else firstRepeated (x :: seen) rest

theorem nodup_of_firstRepeated {α : Type} [DecidableEq α] {seen l : List α}
    (h : firstRepeated seen l = none) : l.Nodup ∧ ∀ x ∈ l, x ∉ seen := by
  induction l generalizing seen with
  | nil => simp
  | cons x rest ih =>
    simp only [firstRepeated] at h
    split at h
    · cases h
    · rename_i hx
      obtain ⟨hnodup, hseen⟩ := ih h
      refine ⟨List.nodup_cons.mpr ⟨fun hmem => hseen x hmem (by simp), hnodup⟩, ?_⟩
      intro y hy
      rcases List.mem_cons.mp hy with rfl | hy
      · exact hx
      · exact fun hmem => hseen y hy (by simp [hmem])

namespace RemoteObject

/-- An object as the answer lists it, unless an interface is repeated. -/
def ofReply (path : ObjectPath) (interfaces : List (String × Snapshot)) :
    Except Error RemoteObject :=
  match h : firstRepeated [] (interfaces.map (·.1)) with
  | none => .ok ⟨path, interfaces, (nodup_of_firstRepeated h).1⟩
  | some name =>
    .error (.malformedReply
      ("interface " ++ name ++ " reported more than once on " ++ path.text))

/-- The names of the interfaces, in the order of the answer. -/
def interfaceNames (o : RemoteObject) : List String :=
  o.interfaces.map (·.1)

/-- The properties of an interface, if the object has it. -/
def properties? (o : RemoteObject) (interface : String) : Option Snapshot :=
  o.interfaces.lookup interface

/-- Whether the object has an interface. -/
def hasInterface (o : RemoteObject) (interface : String) : Bool :=
  o.interfaces.any fun e => e.1 == interface

instance : BEq RemoteObject where
  beq a b := a.path == b.path && a.interfaces == b.interfaces

theorem path_of_ofReply {path : ObjectPath} {interfaces : List (String × Snapshot)}
    {o : RemoteObject} (h : ofReply path interfaces = .ok o) : o.path = path := by
  unfold ofReply at h
  split at h
  · cases h
    rfl
  · cases h

end RemoteObject

namespace ObjectTree

/-- The objects of an answer, given the paths before them. A repeated path is noticed before the
interfaces of its object are looked at. -/
def objectsAfter (seen : List ObjectPath) : ManagedObjects → Except Error (List RemoteObject)
  | [] => .ok []
  | (path, interfaces) :: rest =>
    if path ∈ seen then
      .error (.malformedReply ("object " ++ path.text ++ " reported more than once"))
    else do
      let o ← RemoteObject.ofReply path interfaces
      let os ← objectsAfter (path :: seen) rest
      return o :: os

theorem nodup_of_objectsAfter {seen : List ObjectPath} {reply : ManagedObjects}
    {os : List RemoteObject} (h : objectsAfter seen reply = .ok os) :
    (os.map (·.path)).Nodup ∧ ∀ o ∈ os, o.path ∉ seen := by
  induction reply generalizing seen os with
  | nil =>
    cases h
    simp
  | cons entry rest ih =>
    obtain ⟨path, interfaces⟩ := entry
    simp only [objectsAfter] at h
    split at h
    · cases h
    · rename_i hpath
      cases ho : RemoteObject.ofReply path interfaces with
      | error e => simp [ho, bind, Except.bind] at h
      | ok o =>
        cases hos : objectsAfter (path :: seen) rest with
        | error e => simp [ho, hos, bind, Except.bind] at h
        | ok tail =>
          simp only [ho, hos, bind, Except.bind, pure, Except.pure, Except.ok.injEq] at h
          subst h
          obtain ⟨hnodup, hseen⟩ := ih hos
          have hp := RemoteObject.path_of_ofReply ho
          refine ⟨?_, ?_⟩
          · refine List.nodup_cons.mpr ⟨?_, hnodup⟩
            intro hmem
            obtain ⟨p, hmem, heq⟩ := List.mem_map.mp hmem
            exact hseen p hmem (by simp [heq, hp])
          · intro p hmem
            rcases List.mem_cons.mp hmem with rfl | hmem
            · rw [hp]
              exact hpath
            · exact fun hs => hseen p hmem (by simp [hs])

/-- The tree that an answer describes, unless it repeats a path or an interface. -/
def ofManagedObjects (reply : ManagedObjects) : Except Error ObjectTree :=
  match h : objectsAfter [] reply with
  | .ok os => .ok ⟨os, (nodup_of_objectsAfter h).1⟩
  | .error e => .error e

/-- The tree without objects. -/
def empty : ObjectTree := ⟨[], List.nodup_nil⟩

instance : Inhabited ObjectTree := ⟨empty⟩

/-- The number of objects. -/
def size (t : ObjectTree) : Nat :=
  t.objects.length

/-- Whether there is no object. -/
def isEmpty (t : ObjectTree) : Bool :=
  t.objects.isEmpty

/-- The object at a path. -/
def get? (t : ObjectTree) (path : String) : Option RemoteObject :=
  t.objects.find? fun o => o.path.text == path

/-- The objects that have an interface, in the order of the tree. -/
def withInterface (t : ObjectTree) (interface : String) : List RemoteObject :=
  t.objects.filter fun o => o.hasInterface interface

instance : BEq ObjectTree where
  beq s t := s.objects == t.objects

end ObjectTree

end BluetoothDirectory
