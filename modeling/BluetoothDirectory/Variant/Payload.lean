import BluetoothDirectory.Variant

/-!
# Typed payloads

The types that a value can be read as, each from the one kind that carries it, and the types that
a value can be made from.
-/

namespace BluetoothDirectory.Variant

/-- A type whose values are the payloads of one kind. -/
class Payload (α : Type) where
  /-- The kind that carries the payload. -/
  kind : Kind
  /-- The payload of a value of that kind. -/
  ofVariant? : Variant → Option α

/-- A type whose values can be written as property values. -/
class Writable (α : Type) where
  /-- The value with this payload. -/
  toVariant : α → Variant

instance : Payload Bool where
  kind := .bool
  ofVariant?
    | .bool b => some b
    | _ => none

instance : Payload UInt8 where
  kind := .byte
  ofVariant?
    | .byte n => some n
    | _ => none

instance : Payload Int16 where
  kind := .int16
  ofVariant?
    | .int16 n => some n
    | _ => none

instance : Payload UInt16 where
  kind := .uint16
  ofVariant?
    | .uint16 n => some n
    | _ => none

instance : Payload Int32 where
  kind := .int32
  ofVariant?
    | .int32 n => some n
    | _ => none

instance : Payload UInt32 where
  kind := .uint32
  ofVariant?
    | .uint32 n => some n
    | _ => none

instance : Payload String where
  kind := .text
  ofVariant? := text?

instance : Payload ObjectPath where
  kind := .objectPath
  ofVariant? := objectPath?

instance : Payload (List String) where
  kind := .texts
  ofVariant?
    | .texts l => some l
    | _ => none

instance : Payload (List UInt8) where
  kind := .bytes
  ofVariant?
    | .bytes l => some l
    | _ => none

instance : Writable Bool := ⟨.bool⟩

instance : Writable Int16 := ⟨.int16⟩

instance : Writable UInt16 := ⟨.uint16⟩

instance : Writable UInt32 := ⟨.uint32⟩

instance : Writable String := ⟨.text⟩

instance : Writable ObjectPath := ⟨.objectPath⟩

instance : Writable (List String) := ⟨.texts⟩

instance : Writable Variant := ⟨id⟩

/-- Reads the payload of a value, handing the value back if it is of another kind. -/
def read (α : Type) [Payload α] (v : Variant) : Except Variant α :=
  match Payload.ofVariant? v with
  | some x => .ok x
  | none => .error v

end BluetoothDirectory.Variant
