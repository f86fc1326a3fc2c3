import BluetoothDirectory.ObjectTree
import BluetoothDirectory.Text.Case

/-!
# Queries on an object tree

Finding an adapter by its name or address, listing the adapters, and listing the devices whose
adapter's path a pattern matches.
-/

namespace BluetoothDirectory

namespace RemoteObject

/-- Whether a property of the adapter interface is a text in which the given one occurs, ASCII
letters being compared without case. -/
def adapterTextContains (o : RemoteObject) (name : String) (needle : String) : Bool :=
  match (o.properties? Interface.adapter).bind fun s => Snapshot.getAs? String s name with
  | some value => Text.occursIn (Text.lowercase needle) (Text.lowercase value)
  | none => false

/-- Whether an adapter's name or address contains the text. -/
def isAdapterNamed (o : RemoteObject) (needle : String) : Bool :=
  o.adapterTextContains "Name" needle || o.adapterTextContains "Address" needle

/-- The path of the adapter through which a device is known. -/
def deviceAdapter? (o : RemoteObject) : Option ObjectPath :=
  ((o.properties? Interface.device).bind fun s => s.get? "Adapter").bind Variant.objectPath?

end RemoteObject

namespace ObjectTree

/-- The first adapter whose name or address contains the text; without a text, or with the empty
one, the first adapter. -/
def findAdapter? (t : ObjectTree) (pattern : Option String) : Option RemoteObject :=
  let adapters := t.withInterface Interface.adapter
  match pattern with
  | none => adapters.head?
  | some needle =>
    if needle.isEmpty then adapters.head?
    else adapters.find? fun o => o.isAdapterNamed needle

/-- The paths of all adapters, in the order of the tree. -/
def adapterPaths (t : ObjectTree) : List ObjectPath :=
  (t.withInterface Interface.adapter).map (·.path)

/-- The paths of the devices whose adapter's path satisfies the condition, in the order of the
tree. A device without a readable adapter path never does. -/
def devicePaths (t : ObjectTree) (accepts : String → Bool) : List ObjectPath :=
  ((t.withInterface Interface.device).filter fun o =>
    o.deviceAdapter?.any fun p => accepts p.text).map (·.path)

end ObjectTree

end BluetoothDirectory
