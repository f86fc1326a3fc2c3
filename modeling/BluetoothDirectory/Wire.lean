import BluetoothDirectory.Variant

/-!
# Values on the bus

A value on the bus is of a basic type, or an array, dictionary, structure or variant built from
other values; every type has a signature. Arrays and dictionaries carry the types of what they
hold, so that empty ones have a type as well.
-/

namespace BluetoothDirectory.Wire

/-- The types of values on the bus. -/
inductive Ty where
  | bool | byte | int16 | uint16 | int32 | uint32 | int64 | uint64 | double
  | text | objectPath | signature | fileDescriptor | variant
  | array (item : Ty)
  | dict (key value : Ty)
  | struct (fields : List Ty)
deriving Inhabited, Repr

namespace Ty

mutual

/-- The characters of a type's signature. -/
def code : Ty → List Char
  | bool => ['b']
  | byte => ['y']
  | int16 => ['n']
  | uint16 => ['q']
  | int32 => ['i']
  | uint32 => ['u']
  | int64 => ['x']
  | uint64 => ['t']
  | double => ['d']
  | text => ['s']
  | objectPath => ['o']
  | signature => ['g']
  | fileDescriptor => ['h']
  | variant => ['v']
  | array t => 'a' :: t.code
  | dict k v => 'a' :: '\x7b' :: (k.code ++ v.code ++ ['\x7d'])
  | struct ts => '(' :: (codes ts ++ [')'])

/-- The signatures of several types, one after another. -/
def codes : List Ty → List Char
  | [] => []
  | t :: ts => t.code ++ codes ts

end

/-- The signature of a type. -/
def signatureText (t : Ty) : String :=
  String.ofList t.code

/-- The basic types that one letter stands for. -/
def basic? : Char → Option Ty
  | 'b' => some bool
  | 'y' => some byte
  | 'n' => some int16
  | 'q' => some uint16
  | 'i' => some int32
  | 'u' => some uint32
  | 'x' => some int64
  | 't' => some uint64
  | 'd' => some double
  | 's' => some text
  | 'o' => some objectPath
  | 'g' => some signature
  | 'h' => some fileDescriptor
  | 'v' => some variant
  | _ => none

mutual

/-- Reads one type from the front of a signature; the number bounds the depth of nesting. -/
def readOne : Nat → List Char → Option (Ty × List Char)
  | 0, _ => none
  | _, [] => none
  | depth + 1, c :: rest =>
    match c, rest with
    | 'a', '\x7b' :: inner => do
      let (k, afterKey) ← readOne depth inner
      let (v, afterValue) ← readOne depth afterKey
      match afterValue with
      | '\x7d' :: remaining => some (dict k v, remaining)
      | _ => none
    | 'a', _ => do
      let (t, remaining) ← readOne depth rest
      some (array t, remaining)
    | '(', _ => do
      let (ts, remaining) ← readFields depth rest
      some (struct ts, remaining)
    | _, _ => (basic? c).map fun t => (t, rest)

/-- Reads the fields of a structure up to the bracket that closes it. -/
def readFields : Nat → List Char → Option (List Ty × List Char)
  | 0, _ => none
  | _, [] => none
  | depth + 1, c :: rest =>
    if c = ')' then some ([], rest)
    else do
      let (t, afterField) ← readOne depth (c :: rest)
      let (ts, remaining) ← readFields depth afterField
      some (t :: ts, remaining)

end

/-- Reads a signature that stands for one type. -/
def ofSignature? (s : String) : Option Ty :=
  match readOne (2 * s.length + 2) s.toList with
  | some (t, []) => some t
  | _ => none

end Ty

/-- A value on the bus. A file descriptor is sent beside the message, in which its number among
those sent stands for it. -/
inductive Value where
  | bool (value : Bool)
  | byte (value : UInt8)
  | int16 (value : Int16)
  | uint16 (value : UInt16)
  | int32 (value : Int32)
  | uint32 (value : UInt32)
  | int64 (value : Int64)
  | uint64 (value : UInt64)
  | double (value : Double)
  | text (value : String)
  | objectPath (value : ObjectPath)
  | signature (value : String)
  | fileDescriptor (index : UInt32)
  | variant (content : Value)
  | array (item : Ty) (items : List Value)
  | dict (key value : Ty) (entries : List (Value × Value))
  | struct (fields : List Value)
deriving Inhabited

namespace Value

mutual

/-- The type of a value. -/
def ty : Value → Ty
  | bool _ => .bool
  | byte _ => .byte
  | int16 _ => .int16
  | uint16 _ => .uint16
  | int32 _ => .int32
  | uint32 _ => .uint32
  | int64 _ => .int64
  | uint64 _ => .uint64
  | double _ => .double
  | text _ => .text
  | objectPath _ => .objectPath
  | signature _ => .signature
  | fileDescriptor _ => .fileDescriptor
  | variant _ => .variant
  | array t _ => .array t
  | dict k v _ => .dict k v
  | struct fields => .struct (tys fields)

/-- The types of several values. -/
def tys : List Value → List Ty
  | [] => []
  | v :: vs => v.ty :: tys vs

end

/-- The signature of a value's type. -/
def signatureText (v : Value) : String :=
  v.ty.signatureText

/-- The text, if the value is one. -/
def text? : Value → Option String
  | text s => some s
  | _ => none

/-- The byte, if the value is one. -/
def byte? : Value → Option UInt8
  | byte b => some b
  | _ => none

end Value

end BluetoothDirectory.Wire
