import BluetoothDirectory.Bus
import BluetoothDirectory.Duration
import BluetoothDirectory.Variant

/-!
# Errors

Why an operation failed, and the message for each cause. A property that is not there, a call
without an answer in time, and mistakes of the caller can be told apart from the rest.
-/

namespace BluetoothDirectory

/-- Why an operation failed. -/
inductive Error where
  /-- The bus could not be reached. -/
  | connection (bus : Bus) (source : String)
  /-- A call could not be addressed, because a name or path breaks the rules of the bus. -/
  | address (source : String)
  /-- A call was made and broke down without an answer. -/
  | breakdown (context source : String)
  /-- No answer arrived in time. -/
  | timeout (operation : String) (limit : Duration)
  /-- The service refused the call. -/
  | remote (name message : String)
  /-- An answer did not have the expected shape. -/
  | malformedReply (text : String)
  /-- The object has no such property. -/
  | propertyNotFound (interface property : String)
  /-- A value of the wrong kind was to be written. -/
  | typeMismatch (interface property : String) (expected found : Variant.Kind)
  /-- A property that may only be read was to be written. -/
  | readOnly (interface property : String)
  /-- A value of an unexpected kind was read. -/
  | decode (interface property : String) (expected found : Variant.Kind)
  /-- The pattern for adapter paths cannot be read. -/
  | invalidPattern (source : String)
  /-- The text is no profile identifier. -/
  | invalidUuid (text : String)
  /-- The text is no object path. -/
  | invalidObjectPath (text : String)
  /-- The arguments cannot be sent. -/
  | unsupportedArguments (text : String)
deriving DecidableEq, Repr, Inhabited

namespace Error

/-- The full name of a property in messages. -/
def propertyName (interface property : String) : String :=
  interface ++ "." ++ property

/-- The message for a cause. -/
def message : Error → String
  | connection bus source => "failed to connect to the " ++ bus.text ++ " bus: " ++ source
  | address source => "D-Bus error: " ++ source
  | breakdown context source => context ++ ": " ++ source
  | timeout operation limit => operation ++ " timed out after " ++ limit.text
  | remote name text => name ++ ": " ++ text
  | malformedReply text => "malformed reply: " ++ text
  | propertyNotFound i p => "property " ++ propertyName i p ++ " not found"
  | typeMismatch i p expected found =>
    "property " ++ propertyName i p ++ " expects '" ++ expected.signature ++ "', got '"
      ++ found.signature ++ "'"
  | readOnly i p => "property " ++ propertyName i p ++ " is read-only"
  | decode i p expected found =>
    "cannot decode " ++ propertyName i p ++ ": expected '" ++ expected.signature ++ "', found '"
      ++ found.signature ++ "'"
  | invalidPattern source => "invalid adapter pattern: " ++ source
  | invalidUuid text => "invalid profile UUID: " ++ text
  | invalidObjectPath text => "invalid object path: " ++ text
  | unsupportedArguments text => "unsupported arguments: " ++ text

/-- Whether the property was not there. -/
def isNotFound : Error → Bool
  | propertyNotFound .. => true
  | _ => false

/-- Whether no answer arrived in time. -/
def isTimeout : Error → Bool
  | timeout .. => true
  | _ => false

/-- Whether the caller's input was wrong, rather than anything on the bus. -/
def isConfiguration : Error → Bool
  | invalidPattern _ | invalidUuid _ | invalidObjectPath _ => true
  | _ => false

end Error

end BluetoothDirectory
