import BluetoothDirectory.Bus
import BluetoothDirectory.Duration

/-!
# Settings

Which bus to use, which service to talk to, where its list of objects is, and how long an answer
may take. Every setting has a default.
-/

namespace BluetoothDirectory

/-- The settings of a directory. -/
structure Config where
  /-- The bus to connect to. -/
  bus : Bus := .system
  /-- The name of the service. -/
  service : String := "org.bluez"
  /-- The object that lists the objects of the service. -/
  root : String := "/"
  /-- How long an answer may take; without a limit, for ever. -/
  timeout : Option Duration := some ⟨25, 0⟩
deriving DecidableEq, Repr, Inhabited

namespace Config

/-- The settings that hold unless others are chosen. -/
def standard : Config := {}

/-- Chooses the bus. -/
def withBus (c : Config) (bus : Bus) : Config := { c with bus }

/-- Chooses the service. -/
def withService (c : Config) (service : String) : Config := { c with service }

/-- Chooses the object that lists the objects. -/
def withRoot (c : Config) (root : String) : Config := { c with root }

/-- Limits the time for an answer. -/
def withTimeout (c : Config) (limit : Duration) : Config := { c with timeout := some limit }

/-- Lifts the limit on the time for an answer. -/
def withoutTimeout (c : Config) : Config := { c with timeout := none }

end Config

end BluetoothDirectory
