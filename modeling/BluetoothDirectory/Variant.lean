import BluetoothDirectory.ObjectPath

/-!
# Property values

The value of a property is one of fourteen kinds that adapters and devices use, or a value of
another type, of which only the signature is kept. Dictionaries nest, and list their entries in
ascending order of the keys.
-/

namespace BluetoothDirectory

/-- A double-precision number, kept as its 64 bits. -/
structure Double where
  bits : UInt64
deriving DecidableEq, Repr, Inhabited

/-- A value read from or written to a property. -/
inductive Variant where
  | bool (value : Bool)
  | byte (value : UInt8)
  | int16 (value : Int16)
  | uint16 (value : UInt16)
  | int32 (value : Int32)
  | uint32 (value : UInt32)
  | int64 (value : Int64)
  | uint64 (value : UInt64)
  | double (value : Double)
  | text (value : String)
  | objectPath (value : ObjectPath)
  | texts (values : List String)
  | bytes (values : List UInt8)
  | dict (entries : List (String × Variant))
  /-- A value of a type that has no form here, with the signature of that type. -/
  | unsupported (signature : String)
deriving Inhabited

namespace Variant

/-- The kinds of values. -/
inductive Kind where
  | bool | byte | int16 | uint16 | int32 | uint32 | int64 | uint64 | double
  | text | objectPath | texts | bytes | dict | unsupported
deriving DecidableEq, Repr, Inhabited

/-- The signature that stands for a kind in messages. -/
def Kind.signature : Kind → String
  | .bool => "b"
  | .byte => "y"
  | .int16 => "n"
  | .uint16 => "q"
  | .int32 => "i"
  | .uint32 => "u"
  | .int64 => "x"
  | .uint64 => "t"
  | .double => "d"
  | .text => "s"
  | .objectPath => "o"
  | .texts => "as"
  | .bytes => "ay"
  | .dict => "a\x7bsv\x7d"
  | .unsupported => "unsupported"

/-- The kind of a value. -/
def kind : Variant → Kind
  | bool _ => .bool
  | byte _ => .byte
  | int16 _ => .int16
  | uint16 _ => .uint16
  | int32 _ => .int32
  | uint32 _ => .uint32
  | int64 _ => .int64
  | uint64 _ => .uint64
  | double _ => .double
  | text _ => .text
  | objectPath _ => .objectPath
  | texts _ => .texts
  | bytes _ => .bytes
  | dict _ => .dict
  | unsupported _ => .unsupported

/-- The text, if the value is one. -/
def text? : Variant → Option String
  | text s => some s
  | _ => none

/-- The object path, if the value is one. -/
def objectPath? : Variant → Option ObjectPath
  | objectPath p => some p
  | _ => none

end Variant

end BluetoothDirectory
