import BluetoothDirectory.Text.Hex

/-!
# Class of Device

The `Class` property is a field of 24 bits: bits 2 to 7 hold the minor class, bits 8 to 12 the
major class, and bits 13 to 23, without bit 15, a set of service classes.
-/

namespace BluetoothDirectory

/-- The major class of a device. -/
inductive MajorClass where
  | miscellaneous
  | computer
  | phone
  | networkAccessPoint
  | audioVideo
  | peripheral
  | imaging
  | wearable
  | toy
  | health
  | uncategorized
  /-- A reserved code. -/
  | other (code : UInt8)
deriving DecidableEq, Repr, Inhabited

namespace MajorClass

/-- The class that a code stands for. -/
def ofCode (code : UInt8) : MajorClass :=
  match code.toNat with
  | 0 => miscellaneous
  | 1 => computer
  | 2 => phone
  | 3 => networkAccessPoint
  | 4 => audioVideo
  | 5 => peripheral
  | 6 => imaging
  | 7 => wearable
  | 8 => toy
  | 9 => health
  | 31 => uncategorized
  | _ => other code

/-- How a class is shown. -/
def text : MajorClass → String
  | miscellaneous => "Miscellaneous"
  | computer => "Computer"
  | phone => "Phone"
  | networkAccessPoint => "Network access point"
  | audioVideo => "Audio/Video"
  | peripheral => "Peripheral"
  | imaging => "Imaging"
  | wearable => "Wearable"
  | toy => "Toy"
  | health => "Health"
  | uncategorized => "Uncategorized"
  | other code => "Other(" ++ toString code.toNat ++ ")"

end MajorClass

/-- A set of service classes, one bit for each; the other bits of the word may be set too. -/
structure ServiceClasses where
  bits : UInt32
deriving DecidableEq, Repr, Inhabited

namespace ServiceClasses

/-- One service class: its bit, its name in records and its name for people. -/
structure Flag where
  bit : UInt32
  name : String
  description : String
deriving DecidableEq, Repr

/-- The word in which only the bit of a service class is set. -/
def Flag.mask (f : Flag) : UInt32 :=
  1 <<< f.bit

/-- The service classes, lowest bit first. -/
def flags : List Flag :=
  [⟨13, "LIMITED_DISCOVERABLE", "limited discoverable"⟩,
   ⟨14, "LE_AUDIO", "LE audio"⟩,
   ⟨16, "POSITIONING", "positioning"⟩,
   ⟨17, "NETWORKING", "networking"⟩,
   ⟨18, "RENDERING", "rendering"⟩,
   ⟨19, "CAPTURING", "capturing"⟩,
   ⟨20, "OBJECT_TRANSFER", "object transfer"⟩,
   ⟨21, "AUDIO", "audio"⟩,
   ⟨22, "TELEPHONY", "telephony"⟩,
   ⟨23, "INFORMATION", "information"⟩]

/-- The bits of all service classes. -/
def knownMask : UInt32 :=
  flags.foldl (fun bits f => bits ||| f.mask) 0

/-- Whether a service class belongs to the set. -/
def contains (s : ServiceClasses) (f : Flag) : Bool :=
  s.bits &&& f.mask == f.mask

/-- The service classes in the set, lowest bit first. -/
def members (s : ServiceClasses) : List Flag :=
  flags.filter s.contains

/-- The names for people of the service classes in the set. -/
def names (s : ServiceClasses) : List String :=
  s.members.map Flag.description

/-- The bits that belong to no service class. -/
def unknownBits (s : ServiceClasses) : UInt32 :=
  s.bits &&& ~~~knownMask

/-- The set of the service classes among some bits; all other bits are dropped. -/
def ofBits (bits : UInt32) : ServiceClasses :=
  ⟨bits &&& knownMask⟩

end ServiceClasses

/-- A decoded Class of Device, with the number it came from. -/
structure DeviceClass where
  raw : UInt32
  major : MajorClass
  minor : UInt8
  services : ServiceClasses
deriving DecidableEq, Repr, Inhabited

namespace DeviceClass

/-- Decodes a Class of Device. -/
def ofRaw (raw : UInt32) : DeviceClass where
  raw := raw
  major := MajorClass.ofCode ((raw >>> 8) &&& 0x1f).toUInt8
  minor := ((raw >>> 2) &&& 0x3f).toUInt8
  services := ServiceClasses.ofBits raw

/-- How a class is shown: the number, the major class, and the service classes if there are
any. -/
def text (c : DeviceClass) : String :=
  let names := c.services.names
  "0x" ++ String.ofList (Text.paddedHexDigits 6 c.raw.toNat) ++ " (" ++ c.major.text ++ ")"
    ++ if names.isEmpty then "" else " [" ++ ", ".intercalate names ++ "]"

end DeviceClass

end BluetoothDirectory
