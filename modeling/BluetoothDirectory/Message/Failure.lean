import BluetoothDirectory.Error

/-!
# Failed calls

A call on the bus fails because the service refuses it, or because it breaks down. The standard
interfaces have errors with names of their own, and either sort of failure may be wrapped in the
other, to any depth. Only the innermost failure counts: a refusal is reported with its name and
message, anything else with the operation that broke down.
-/

namespace BluetoothDirectory

mutual

/-- Why a call failed. -/
inductive CallFailure where
  /-- The service answered with an error. -/
  | refused (name : String) (message : Option String)
  /-- A failure of a standard interface. -/
  | standard (f : StandardFailure)
  /-- There was no answer, or none that could be understood. -/
  | broken (reason : String)

/-- Why a call to a standard interface failed. -/
inductive StandardFailure where
  /-- The service answered with one of the standard errors. -/
  | named (name message : String)
  /-- Any other failure of the call. -/
  | other (f : CallFailure)

end

namespace StandardFailure

/-- What the names of all standard errors begin with. -/
def namespaceText : String := "org.freedesktop.DBus.Error."

/-- The standard errors. -/
def names : List String :=
  ["Failed", "NoMemory", "ServiceUnknown", "NameHasNoOwner", "NoReply", "IOError", "BadAddress",
   "NotSupported", "LimitsExceeded", "AccessDenied", "AuthFailed", "NoServer", "Timeout",
   "NoNetwork", "AddressInUse", "Disconnected", "InvalidArgs", "FileNotFound", "FileExists",
   "UnknownMethod", "UnknownObject", "UnknownInterface", "UnknownProperty", "PropertyReadOnly",
   "TimedOut", "MatchRuleNotFound", "MatchRuleInvalid", "Spawn.ExecFailed", "Spawn.ForkFailed",
   "Spawn.ChildExited", "Spawn.ChildSignaled", "Spawn.Failed", "Spawn.FailedToSetup",
   "Spawn.ConfigInvalid", "Spawn.ServiceNotValid", "Spawn.ServiceNotFound",
   "Spawn.PermissionsInvalid", "Spawn.FileInvalid", "Spawn.NoMemory", "UnixProcessIdUnknown",
   "InvalidSignature", "InvalidFileContent", "SELinuxSecurityContextUnknown",
   "AdtAuditDataUnknown", "ObjectPathInUse", "InconsistentMessage",
   "InteractiveAuthorizationRequired", "NotContainer"]

/-- Whether an error is a standard one. -/
def isStandard (name : String) : Bool :=
  names.any fun n => namespaceText ++ n == name

/-- A refusal as a standard interface reports it. -/
def ofRefusal (name : String) (message : Option String) : StandardFailure :=
  if isStandard name then named name (message.getD "") else other (.refused name message)

/-- The errors that mean that an object has no such property. -/
def missingProperty : List String :=
  [namespaceText ++ "UnknownProperty", namespaceText ++ "InvalidArgs"]

end StandardFailure

mutual

/-- The error for a failed call; the operation is what was attempted. -/
def CallFailure.error (operation : String) : CallFailure → Error
  | .refused name message => .remote name (message.getD "")
  | .standard f => f.error operation
  | .broken reason => .breakdown (operation ++ " failed") reason

/-- The error for a failed call to a standard interface. -/
def StandardFailure.error (operation : String) : StandardFailure → Error
  | .named name message => .remote name message
  | .other f => f.error operation

end

/-- The error for a failed reading of a property, which may only mean that there is none. -/
def StandardFailure.propertyError (operation interface property : String) :
    StandardFailure → Error
  | .named name message =>
    if name ∈ missingProperty then .propertyNotFound interface property
    else .remote name message
  | f => f.error operation

end BluetoothDirectory
