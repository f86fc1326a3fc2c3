/-!
# Documents

Structured records as they are exchanged between programs: null, truth values, numbers, texts,
lists, and objects whose members have names.
-/

namespace BluetoothDirectory

/-- A structured record. A number is a whole number over a power of ten. -/
inductive Document where
  | null
  | bool (value : Bool)
  | number (mantissa : Int) (decimals : Nat)
  | text (value : String)
  | list (items : List Document)
  | object (members : List (String × Document))
deriving Inhabited

namespace Document

/-- A whole number. -/
def whole (n : Int) : Document :=
  .number n 0

/-- The member of an object with a name. -/
def member? (members : List (String × Document)) (name : String) : Option Document :=
  members.lookup name

/-- Reads a text. -/
def text? : Document → Option String
  | text s => some s
  | _ => none

/-- Reads a truth value. -/
def bool? : Document → Option Bool
  | bool b => some b
  | _ => none

/-- Reads a whole number. -/
def int? : Document → Option Int
  | number n 0 => some n
  | _ => none

/-- Reads a whole number below a bound. -/
def natBelow? (bound : Nat) (d : Document) : Option Nat :=
  d.int?.bind fun n => if 0 ≤ n ∧ n < bound then some n.toNat else none

/-- Reads a list of texts. -/
def texts? : Document → Option (List String)
  | list items => items.mapM text?
  | _ => none

/-- Reads what may be missing: null stands for nothing. -/
def optional? {α : Type} (read : Document → Option α) : Document → Option (Option α)
  | null => some none
  | d => (read d).map some

/-- What may be missing, as a document: nothing is null. -/
def ofOptional {α : Type} (write : α → Document) : Option α → Document
  | none => null
  | some a => write a

/-- The members of a record in the order of their names. A record may also be given as a list of
exactly its members' values in that order; a member that an object leaves out is nothing. The names
in an object are taken to be distinct: a member that is given again is not refused, and the first
one counts. -/
def fields? (names : List String) : Document → Option (List (Option Document))
  | object members => some (names.map (member? members))
  | list items => if items.length = names.length then some (items.map some) else none
  | _ => none

end Document

end BluetoothDirectory
