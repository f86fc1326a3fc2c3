import BluetoothDirectory.Text.Hex
import BluetoothDirectory.Unicode.Character

/-!
# Quoted text

A text between quotation marks, as descriptions of a proxy show it. The quotation mark, the
backslash and the common control characters have short escapes; any other character that has no
visible form of its own is written as its code point.
-/

namespace BluetoothDirectory.Text

/-- The character that a quoted text begins and ends with. -/
def quotationMark : Char := '"'

/-- A code point in base sixteen, between braces. -/
def escapedCode (c : Char) : List Char :=
  ['\\', 'u', '\x7b'] ++ hexDigits c.toNat ++ ['\x7d']

/-- How one character is written between quotation marks. -/
def quotedChar (c : Char) : List Char :=
  if c = '\x00' then ['\\', '0']
  else if c = '\t' then ['\\', 't']
  else if c = '\r' then ['\\', 'r']
  else if c = '\n' then ['\\', 'n']
  else if c = quotationMark || c = '\\' then ['\\', c]
  else if Unicode.isPrintable c && !Unicode.isExtending c then [c]
  else escapedCode c

/-- A text between quotation marks. -/
def quoted (s : String) : String :=
  String.ofList (quotationMark :: s.toList.flatMap quotedChar ++ [quotationMark])

end BluetoothDirectory.Text
