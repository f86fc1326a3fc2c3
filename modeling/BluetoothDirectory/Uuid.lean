import BluetoothDirectory.Text.Hex

/-!
# Profile identifiers

An identifier of 128 bits is written as 32 hexadecimal digits: on their own, in groups of
8, 4, 4, 4 and 12 joined by hyphens, or as such groups between braces or after `urn:uuid:`. It is
sent in one form, the groups of lowercase digits.
-/

namespace BluetoothDirectory

/-- An identifier: the values of its hexadecimal digits. -/
structure Uuid where
  digits : List (Fin 16)
  length_eq : digits.length = 32
deriving DecidableEq

namespace Uuid

/-- The value of a hexadecimal digit. -/
def digit? (c : Char) : Option (Fin 16) :=
  (Text.hexValue? c).bind fun n => if h : n < 16 then some ⟨n, h⟩ else none

/-- The lowercase digit of a value. -/
def digitChar (d : Fin 16) : Char :=
  Nat.digitChar d.val

/-- The identifier whose digits the characters are. -/
def ofDigits? (cs : List Char) : Option Uuid :=
  (cs.mapM digit?).bind fun ds => if h : ds.length = 32 then some ⟨ds, h⟩ else none

/-- The lengths of the groups. -/
def groupLengths : List Nat := [8, 4, 4, 4, 12]

/-- Takes groups of the given lengths off the front, with a hyphen between two of them, and
joins their characters; nothing may be left over. -/
def joinGroups? : List Nat → List Char → Option (List Char)
  | [], cs => if cs.isEmpty then some [] else none
  | [n], cs => if cs.length = n then some cs else none
  | n :: m :: lengths, cs =>
    if n ≤ cs.length then
      match cs.drop n with
      | c :: rest =>
        if c = '-' then (joinGroups? (m :: lengths) rest).map (cs.take n ++ ·) else none
      | [] => none
    else none

/-- Puts the characters into groups of the given lengths, with hyphens between them. -/
def splitGroups : List Nat → List Char → List Char
  | [], cs => cs
  | [_], cs => cs
  | n :: m :: lengths, cs => cs.take n ++ '-' :: splitGroups (m :: lengths) (cs.drop n)

/-- What may stand before the groups, in letters of either case. -/
def marker : List Char := "urn:uuid:".toList

/-- Whether the characters begin with the marker. -/
def isMarked (cs : List Char) : Bool :=
  marker.isPrefixOf (cs.map Char.toLower)

/-- The characters of the groups: between braces, after the marker, or all of them. -/
def unwrap (cs : List Char) : List Char :=
  match cs with
  | '\x7b' :: rest =>
    if rest.getLast? = some '\x7d' then rest.dropLast else cs
  | _ => if isMarked cs then cs.drop marker.length else cs

/-- Reads an identifier in any of its written forms. -/
def ofString? (s : String) : Option Uuid :=
  let cs := s.toList
  if cs.length = 32 then ofDigits? cs
  else (joinGroups? groupLengths (unwrap cs)).bind ofDigits?

/-- The form in which an identifier is sent. -/
def text (u : Uuid) : String :=
  String.ofList (splitGroups groupLengths (u.digits.map digitChar))

end Uuid

end BluetoothDirectory
