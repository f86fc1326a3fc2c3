import BluetoothDirectory.Error
import BluetoothDirectory.Schema

/-!
# Checking a write

A write to a described interface is refused unless the property is declared, may be written, and
has the kind of the value. The first of these that fails is the reason given. Writes to other
interfaces are left for the service to judge.
-/

namespace BluetoothDirectory.Schema

/-- Refuses a write that the declarations do not allow. -/
def checkWrite (interface property : String) (value : Variant) : Except Error Unit :=
  match lookup interface property with
  | .unknownInterface => .ok ()
  | .undeclared => .error (.propertyNotFound interface property)
  | .declared d =>
    if !d.writable then .error (.readOnly interface property)
    else if d.kind ≠ value.kind then
      .error (.typeMismatch interface property d.kind value.kind)
    else .ok ()

end BluetoothDirectory.Schema
