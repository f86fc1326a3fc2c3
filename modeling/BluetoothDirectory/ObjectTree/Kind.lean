import BluetoothDirectory.ObjectTree

/-!
# Kinds of objects

An object is an adapter or a device by the interfaces it has. One with both is an adapter.
-/

namespace BluetoothDirectory

/-- What an object is. -/
inductive ObjectKind where
  | unknown
  | adapter (path : ObjectPath)
  | device (path : ObjectPath)
deriving DecidableEq

namespace ObjectKind

/-- Goes on from the kind found so far; the interface of an adapter settles it. -/
def classifyFrom (path : ObjectPath) (found : ObjectKind) : List String → ObjectKind
  | [] => found
  | name :: rest =>
    if name = Interface.adapter then adapter path
    else if name = Interface.device then classifyFrom path (device path) rest
    else classifyFrom path found rest

/-- The kind of an object at a path, from the names of its interfaces in one pass. -/
def classify (path : ObjectPath) (interfaces : List String) : ObjectKind :=
  classifyFrom path unknown interfaces

theorem classifyFrom_eq (path : ObjectPath) (found : ObjectKind) (names : List String) :
    classifyFrom path found names =
      if Interface.adapter ∈ names then adapter path
      else if Interface.device ∈ names then device path
      else found := by
  induction names generalizing found with
  | nil => simp [classifyFrom]
  | cons name rest ih =>
    simp only [classifyFrom, ih, List.mem_cons]
    by_cases ha : name = Interface.adapter
    · simp [ha]
    · by_cases hd : name = Interface.device
      · subst hd
        simp [ha, Ne.symm ha]
      · simp [ha, hd, Ne.symm ha, Ne.symm hd]

/-- The interface of an adapter settles the kind wherever it stands, and then that of a device. -/
theorem classify_eq (path : ObjectPath) (names : List String) :
    classify path names =
      if Interface.adapter ∈ names then adapter path
      else if Interface.device ∈ names then device path
      else unknown :=
  classifyFrom_eq path unknown names

/-- Whether the object is an adapter. -/
def isAdapter : ObjectKind → Bool
  | adapter _ => true
  | _ => false

/-- Whether the object is a device. -/
def isDevice : ObjectKind → Bool
  | device _ => true
  | _ => false

/-- The path of an adapter or device. -/
def path? : ObjectKind → Option ObjectPath
  | unknown => none
  | adapter p | device p => some p

end ObjectKind

/-- The kind of an object. -/
def RemoteObject.kind (o : RemoteObject) : ObjectKind :=
  ObjectKind.classify o.path o.interfaceNames

/-- The kinds of all objects, in the order of the tree. -/
def ObjectTree.kinds (t : ObjectTree) : List ObjectKind :=
  t.objects.map RemoteObject.kind

end BluetoothDirectory
