/-!
# Interfaces

The interfaces of the Bluetooth service and the standard interfaces through which its objects are
listed and their properties read and written.
-/

namespace BluetoothDirectory.Interface

/-- A local Bluetooth controller. -/
def adapter : String := "org.bluez.Adapter1"

/-- A remote Bluetooth device known to an adapter. -/
def device : String := "org.bluez.Device1"

/-- The list of a service's objects. -/
def objectManager : String := "org.freedesktop.DBus.ObjectManager"

/-- Reading and writing of properties. -/
def properties : String := "org.freedesktop.DBus.Properties"

end BluetoothDirectory.Interface
