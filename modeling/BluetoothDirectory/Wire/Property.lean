import BluetoothDirectory.SortedMap
import BluetoothDirectory.Wire

/-!
# Property values on the bus

Every value on the bus can be read as a property value: basic values, arrays of texts or bytes
and dictionaries from texts to variants have a form of their own, and all others keep their
signature. Property values of the first thirteen kinds can be written back.
-/

namespace BluetoothDirectory.Wire

namespace Value

mutual

/-- The property value that a value on the bus stands for. In a dictionary one variant around
each entry is taken off, and the last value of a repeated key counts. -/
def toVariant : Value → Variant
  | bool b => .bool b
  | byte n => .byte n
  | int16 n => .int16 n
  | uint16 n => .uint16 n
  | int32 n => .int32 n
  | uint32 n => .uint32 n
  | int64 n => .int64 n
  | uint64 n => .uint64 n
  | double x => .double x
  | text s => .text s
  | objectPath p => .objectPath p
  | array .text items => .texts (items.filterMap text?)
  | array .byte items => .bytes (items.filterMap byte?)
  | dict .text .variant entries => .dict (SortedMap.ofList (toVariants entries)).entries
  | v => .unsupported v.signatureText

/-- The entries of a dictionary from texts to variants. -/
def toVariants : List (Value × Value) → List (String × Variant)
  | [] => []
  | (text k, variant v) :: rest => (k, v.toVariant) :: toVariants rest
  | _ :: rest => toVariants rest

end

end Value

/-- The value to send for a property value. Dictionaries and unsupported values are not sent. -/
def ofVariant? : Variant → Option Value
  | .bool b => some (.bool b)
  | .byte n => some (.byte n)
  | .int16 n => some (.int16 n)
  | .uint16 n => some (.uint16 n)
  | .int32 n => some (.int32 n)
  | .uint32 n => some (.uint32 n)
  | .int64 n => some (.int64 n)
  | .uint64 n => some (.uint64 n)
  | .double x => some (.double x)
  | .text s => some (.text s)
  | .objectPath p => some (.objectPath p)
  | .texts l => some (.array .text (l.map .text))
  | .bytes l => some (.array .byte (l.map .byte))
  | .dict _ => none
  | .unsupported _ => none

end BluetoothDirectory.Wire
