import BluetoothDirectory.Variant

/-!
# Equality of property values

Values are equal when their kinds and payloads are. Doubles are compared as numbers: the two
zeros are equal, and what is not a number equals nothing, itself included.
-/

namespace BluetoothDirectory

namespace Double

/-- The bits without the sign. -/
def magnitude (x : Double) : UInt64 :=
  x.bits &&& 0x7FFFFFFFFFFFFFFF

/-- The magnitude of infinity; whatever is above it is not a number. -/
def infinity : UInt64 := 0x7FF0000000000000

/-- Whether the bits stand for no number. -/
def isNaN (x : Double) : Bool :=
  infinity < x.magnitude

/-- Whether the bits stand for zero, of either sign. -/
def isZero (x : Double) : Bool :=
  x.magnitude == 0

/-- Numerical equality. -/
def equals (x y : Double) : Bool :=
  !x.isNaN && !y.isNaN && (x.bits == y.bits || (x.isZero && y.isZero))

instance : BEq Double := ⟨equals⟩

end Double

namespace Variant

mutual

/-- Whether two values are equal, doubles being compared as numbers. -/
def equals : Variant → Variant → Bool
  | bool a, bool b => a == b
  | byte a, byte b => a == b
  | int16 a, int16 b => a == b
  | uint16 a, uint16 b => a == b
  | int32 a, int32 b => a == b
  | uint32 a, uint32 b => a == b
  | int64 a, int64 b => a == b
  | uint64 a, uint64 b => a == b
  | double a, double b => a.equals b
  | text a, text b => a == b
  | objectPath a, objectPath b => a == b
  | texts a, texts b => a == b
  | bytes a, bytes b => a == b
  | dict a, dict b => entriesEqual a b
  | unsupported a, unsupported b => a == b
  | _, _ => false

/-- Whether two dictionaries have the same keys with equal values. -/
def entriesEqual : List (String × Variant) → List (String × Variant) → Bool
  | [], [] => true
  | (k, v) :: rest, (l, w) :: others => k == l && v.equals w && entriesEqual rest others
  | _, _ => false

end

instance : BEq Variant := ⟨equals⟩

end Variant

end BluetoothDirectory
