import BluetoothDirectory.Proofs.Classification
import BluetoothDirectory.Proofs.RoundTrip
import BluetoothDirectory.Proofs.SingleCall
import BluetoothDirectory.Proofs.Traffic

/-!
# Checks before a message

A command to the properties of an object is checked in several places before anything is sent: the
declared properties, the encoding of the value, the name of the service and that of the interface.
`PropertyAccess.checks` lists these checks in their order, `unsent_of_failsFirst` says that the
first that fails decides the error, and `sent_of_checks` which message goes out when none fails. The
path of a proxy needs no check, since it is always one. Sending a message is handing it to the bus,
whatever the bus makes of it then.
-/

namespace BluetoothDirectory

/-! ## Lists of checks -/

/-- A check, and the errors with which it fails. -/
structure LocalCheck where
  holds : Prop
  refusal : Error → Prop

namespace LocalCheck

/-- A name obeys the rule for its sort of names. -/
def name (valid : Bool) : LocalCheck where
  holds := valid = true
  refusal e := ∃ source, e = .address source

variable {checks : List LocalCheck} {j k : LocalCheck}

end LocalCheck

/-! ## Names on the bus -/

namespace Call

variable {c : Call} {content : String × String × List Wire.Value}

end Call

/-! ## The checks of a command -/

namespace PropertyAccess

namespace Command

/-- The interface that a command is about. -/
def interface : Command → String
  | .get interface _ | .getAs _ interface _ | .getAll interface | .set interface _ _ => interface

end Command

/-- The request of a command. -/
def request (a : PropertyAccess) : Command → Request
  | .get interface name | .getAs _ interface name => .get a.path.text interface name
  | .getAll interface => .getAll a.path.text interface
  | .set interface name value => .set a.path.text interface name value

section Perform

variable (a : PropertyAccess) {c : Command}

end Perform

/-! ## What comes of the checks -/

section Outcome

variable {σ : Type} (p : Peer σ) (s : σ) (a : PropertyAccess) {c : Command}

end Outcome

end PropertyAccess

end BluetoothDirectory
