import BluetoothDirectory.ClassOfDevice
import BluetoothDirectory.Snapshot

/-!
# Summaries of adapters and devices

What one snapshot of an adapter's or a device's properties says, with each property read
leniently: one that is missing or of another kind is left out.
-/

namespace BluetoothDirectory

/-- A summary of an adapter. -/
structure AdapterInfo where
  path : ObjectPath
  address : Option String
  name : Option String
  aliasName : Option String
  deviceClass : Option DeviceClass
  powered : Option Bool
  discoverable : Option Bool
  discoverableTimeout : Option UInt32
  pairable : Option Bool
  pairableTimeout : Option UInt32
  discovering : Option Bool
  modalias : Option String
  uuids : List String
deriving DecidableEq

/-- A summary of a device. -/
structure DeviceInfo where
  path : ObjectPath
  adapter : Option ObjectPath
  address : Option String
  name : Option String
  aliasName : Option String
  icon : Option String
  deviceClass : Option DeviceClass
  appearance : Option UInt16
  paired : Option Bool
  trusted : Option Bool
  blocked : Option Bool
  connected : Option Bool
  legacyPairing : Option Bool
  rssi : Option Int16
  modalias : Option String
  uuids : List String
deriving DecidableEq

namespace Info

/-- How a truth value that may be missing is shown. -/
def yesNo : Option Bool → String
  | some true => "yes"
  | some false => "no"
  | none => "-"

/-- How a text that may be missing is shown. -/
def orDash (s : Option String) : String :=
  s.getD "-"

/-- A line with a label, indented. -/
def line (label value : String) : String :=
  "  " ++ label ++ ": " ++ value

/-- A line with a label, if there is something to show. -/
def lineIf (label : String) : Option String → List String
  | none => []
  | some value => [line label value]

/-- How the profiles are shown. -/
def listText (items : List String) : String :=
  "[" ++ ", ".intercalate items ++ "]"

end Info

open Info

namespace AdapterInfo

/-- The summary of an adapter from a snapshot of its properties. -/
def ofSnapshot (path : ObjectPath) (s : Snapshot) : AdapterInfo where
  path := path
  address := Snapshot.getAs? String s "Address"
  name := Snapshot.getAs? String s "Name"
  aliasName := Snapshot.getAs? String s "Alias"
  deviceClass := (Snapshot.getAs? UInt32 s "Class").map DeviceClass.ofRaw
  powered := Snapshot.getAs? Bool s "Powered"
  discoverable := Snapshot.getAs? Bool s "Discoverable"
  discoverableTimeout := Snapshot.getAs? UInt32 s "DiscoverableTimeout"
  pairable := Snapshot.getAs? Bool s "Pairable"
  pairableTimeout := Snapshot.getAs? UInt32 s "PairableTimeout"
  discovering := Snapshot.getAs? Bool s "Discovering"
  modalias := Snapshot.getAs? String s "Modalias"
  uuids := (Snapshot.getAs? (List String) s "UUIDs").getD []

/-- The lines in which a summary is shown. -/
def lines (i : AdapterInfo) : List String :=
  ["[" ++ i.path.text ++ "]",
   line "Name" (orDash i.name),
   line "Address" (orDash i.address),
   line "Alias" (orDash i.aliasName),
   line "Class" (orDash (i.deviceClass.map DeviceClass.text)),
   line "Powered" (yesNo i.powered),
   line "Discoverable" (yesNo i.discoverable),
   line "Pairable" (yesNo i.pairable),
   line "Discovering" (yesNo i.discovering),
   line "UUIDs" (listText i.uuids)]

/-- How a summary is shown. -/
def text (i : AdapterInfo) : String :=
  "\n".intercalate i.lines

end AdapterInfo

namespace DeviceInfo

/-- The summary of a device from a snapshot of its properties. -/
def ofSnapshot (path : ObjectPath) (s : Snapshot) : DeviceInfo where
  path := path
  adapter := Snapshot.getAs? ObjectPath s "Adapter"
  address := Snapshot.getAs? String s "Address"
  name := Snapshot.getAs? String s "Name"
  aliasName := Snapshot.getAs? String s "Alias"
  icon := Snapshot.getAs? String s "Icon"
  deviceClass := (Snapshot.getAs? UInt32 s "Class").map DeviceClass.ofRaw
  appearance := Snapshot.getAs? UInt16 s "Appearance"
  paired := Snapshot.getAs? Bool s "Paired"
  trusted := Snapshot.getAs? Bool s "Trusted"
  blocked := Snapshot.getAs? Bool s "Blocked"
  connected := Snapshot.getAs? Bool s "Connected"
  legacyPairing := Snapshot.getAs? Bool s "LegacyPairing"
  rssi := Snapshot.getAs? Int16 s "RSSI"
  modalias := Snapshot.getAs? String s "Modalias"
  uuids := (Snapshot.getAs? (List String) s "UUIDs").getD []

/-- The name to show to people: the alias, else the name, else the address. -/
def displayName (i : DeviceInfo) : String :=
  ((i.aliasName <|> i.name) <|> i.address).getD "<unknown>"

/-- The lines in which a summary is shown. -/
def lines (i : DeviceInfo) : List String :=
  [i.displayName ++ " [" ++ orDash i.address ++ "]",
   line "Path" i.path.text]
  ++ lineIf "Adapter" (i.adapter.map (·.text))
  ++ lineIf "Class" (i.deviceClass.map DeviceClass.text)
  ++ lineIf "Icon" i.icon
  ++ [line "Paired" (yesNo i.paired),
      line "Trusted" (yesNo i.trusted),
      line "Blocked" (yesNo i.blocked),
      line "Connected" (yesNo i.connected)]
  ++ lineIf "RSSI" (i.rssi.map fun n => toString n.toInt ++ " dBm")
  ++ [line "UUIDs" (listText i.uuids)]

/-- How a summary is shown. -/
def text (i : DeviceInfo) : String :=
  "\n".intercalate i.lines

end DeviceInfo

end BluetoothDirectory
