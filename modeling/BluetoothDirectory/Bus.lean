/-!
# Buses and the names used on them

A directory talks to the system bus or to the session bus. Services and interfaces on a bus have
dotted names; the two rules for them differ in the characters allowed and in unique names.
-/

namespace BluetoothDirectory

/-- Which message bus is meant. -/
inductive Bus where
  /-- The machine's bus, where the Bluetooth daemon lives. -/
  | system
  /-- The bus of one user's login session. -/
  | session
deriving DecidableEq, Repr, Inhabited

/-- How a bus is called in messages. -/
def Bus.text : Bus → String
  | .system => "system"
  | .session => "session"

/-- How a bus is called in descriptions of a proxy. -/
def Bus.title : Bus → String
  | .system => "System"
  | .session => "Session"

namespace BusName

/-- The longest name that a bus accepts, in bytes. -/
def maxLength : Nat := 255

/-- The parts of a text between its dots. -/
def elements : List Char → List (List Char)
  | [] => [[]]
  | c :: rest =>
    if c = '.' then [] :: elements rest
    else match elements rest with
      | [] => [[c]]
      | e :: es => (c :: e) :: es

/-- Whether an element is not empty, has only allowed characters and, where the rule asks for
it, does not start with a digit. -/
def isElement (allowed : Char → Bool) (digitFirst : Bool) (e : List Char) : Bool :=
  e.all allowed && match e with
    | [] => false
    | c :: _ => digitFirst || !c.isDigit

/-- Two or more elements, each obeying the rule. -/
def isDotted (allowed : Char → Bool) (digitFirst : Bool) (s : List Char) : Bool :=
  let es := elements s
  2 ≤ es.length && es.all (isElement allowed digitFirst)

/-- Characters of an interface name: letters, digits and underscores. -/
def isInterfaceChar (c : Char) : Bool :=
  c.isAlphanum || c == '_'

/-- Characters of a service name: also hyphens. -/
def isServiceChar (c : Char) : Bool :=
  isInterfaceChar c || c == '-'

/-- The rule for the name of a service: a well-known name, or a colon and a unique name, whose
elements may start with a digit. -/
def isService (name : String) : Bool :=
  name.utf8ByteSize ≤ maxLength && match name.toList with
    | [] => false
    | c :: rest =>
      if c = ':' then isDotted isServiceChar true rest
      else isDotted isServiceChar false (c :: rest)

/-- The rule for the name of an interface. -/
def isInterface (name : String) : Bool :=
  name.utf8ByteSize ≤ maxLength && isDotted isInterfaceChar false name.toList

end BusName

end BluetoothDirectory
