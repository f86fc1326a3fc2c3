import BluetoothDirectory.ClassOfDevice
import BluetoothDirectory.Document
import BluetoothDirectory.Unicode.Character

/-!
# Records of classes

A class as a record: the number, the name of the major class, the minor class, and the names of
the service classes. Bits without a name are written as one hexadecimal number, so that nothing
is lost.
-/

namespace BluetoothDirectory

namespace MajorClass

/-- The major classes other than reserved codes, with their names in records. -/
def names : List (String × MajorClass) :=
  [("Miscellaneous", miscellaneous), ("Computer", computer), ("Phone", phone),
   ("NetworkAccessPoint", networkAccessPoint), ("AudioVideo", audioVideo),
   ("Peripheral", peripheral), ("Imaging", imaging), ("Wearable", wearable), ("Toy", toy),
   ("Health", health), ("Uncategorized", uncategorized)]

/-- The name of a class in records. -/
def name : MajorClass → String
  | miscellaneous => "Miscellaneous"
  | computer => "Computer"
  | phone => "Phone"
  | networkAccessPoint => "NetworkAccessPoint"
  | audioVideo => "AudioVideo"
  | peripheral => "Peripheral"
  | imaging => "Imaging"
  | wearable => "Wearable"
  | toy => "Toy"
  | health => "Health"
  | uncategorized => "Uncategorized"
  | other _ => "Other"

/-- A class as a record: its name, and with a reserved code also that code. -/
def document : MajorClass → Document
  | other code => .object [("Other", .whole code.toNat)]
  | c => .text c.name

/-- Reads a class from its name, or from an object whose one member is named for it: the member
holds the code of a reserved class, and null otherwise. -/
def ofDocument? : Document → Option MajorClass
  | .text s => names.lookup s
  | .object [(s, d)] =>
    if s = "Other" then (d.natBelow? 256).map fun n => other n.toUInt8
    else match d with
      | .null => names.lookup s
      | _ => none
  | _ => none

end MajorClass

namespace ServiceClasses

/-- What stands between the names of a set. -/
def separator : Char := '|'

/-- The bits without a name, as one hexadecimal number; nothing if there are none. -/
def unknownText (s : ServiceClasses) : List String :=
  if s.unknownBits = 0 then []
  else ["0x" ++ String.ofList (Text.hexDigits s.unknownBits.toNat)]

/-- A set as the names of its members, lowest bit first, and the bits without a name. -/
def text (s : ServiceClasses) : String :=
  " | ".intercalate (s.members.map Flag.name ++ s.unknownText)

/-- Takes blanks off both ends. -/
def trim (cs : List Char) : List Char :=
  ((cs.dropWhile Unicode.isBlank).reverse.dropWhile Unicode.isBlank).reverse

/-- The parts of a text between its separators. -/
def parts : List Char → List (List Char)
  | [] => [[]]
  | c :: rest =>
    if c = separator then [] :: parts rest
    else match parts rest with
      | [] => [[c]]
      | p :: ps => (c :: p) :: ps

/-- The bits that one part stands for: a hexadecimal number after `0x`, with or without a plus
sign, or the name of a service class. -/
def partBits? (part : List Char) : Option UInt32 :=
  match part with
  | '0' :: 'x' :: digits =>
    let digits := match digits with
      | '+' :: rest => rest
      | _ => digits
    (Text.readHex? digits).bind fun n => if n < UInt32.size then some n.toUInt32 else none
  | _ => (flags.find? fun f => f.name == String.ofList part).map Flag.mask

/-- Reads a set: the union of its parts. A blank text is the empty set. -/
def ofText? (s : String) : Option ServiceClasses :=
  if (trim s.toList).isEmpty then some ⟨0⟩
  else
    ((parts s.toList).mapM fun p => partBits? (trim p)).map fun masks =>
      ⟨masks.foldl (· ||| ·) 0⟩

end ServiceClasses

namespace DeviceClass

/-- The names of the members of a record. -/
def memberNames : List String := ["raw", "major", "minor", "services"]

/-- A class as a record. -/
def document (c : DeviceClass) : Document :=
  .object
    [("raw", .whole c.raw.toNat), ("major", c.major.document), ("minor", .whole c.minor.toNat),
     ("services", .text c.services.text)]

/-- Reads a class from a record; all members are needed. -/
def ofDocument? (d : Document) : Option DeviceClass := do
  match ← d.fields? memberNames with
  | [some raw, some major, some minor, some services] =>
    let raw ← raw.natBelow? UInt32.size
    let major ← MajorClass.ofDocument? major
    let minor ← minor.natBelow? 256
    let services ← ServiceClasses.ofText? (← services.text?)
    return ⟨raw.toUInt32, major, minor.toUInt8, services⟩
  | _ => none

end DeviceClass

end BluetoothDirectory
