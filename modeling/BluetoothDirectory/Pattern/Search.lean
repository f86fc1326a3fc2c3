import BluetoothDirectory.Pattern.Node

/-!
# Searching with a pattern

A pattern is found in a subject if it matches some stretch of it. Positions in the subject are
the bits of a number, and a pattern takes a set of positions at which it may begin to the set of
positions at which it may then end, so all stretches are tried at once.
-/

namespace BluetoothDirectory.Pattern

/-- The positions of the characters that satisfy a condition. -/
def positionsWhere (ok : Char → Bool) : List Char → Nat
  | [] => 0
  | c :: rest => (if ok c then 1 else 0) + 2 * positionsWhere ok rest

/-- All positions of a subject, the one after its last character included. -/
def allPositions (subject : List Char) : Nat :=
  (1 <<< (subject.length + 1)) - 1

/-- Whether a character belongs to a word. -/
def isWordChar (c : Char) : Bool :=
  Property.word.contains c

namespace Look

/-- Whether an assertion holds between the character before a position and the one after it. -/
def holds (l : Look) (before after : Option Char) : Bool :=
  let wordBefore := before.any isWordChar
  let wordAfter := after.any isWordChar
  match l with
  | start => before.isNone
  | stop => after.isNone
  | lineStart false => before.all (· == '\n')
  | lineEnd false => after.all (· == '\n')
  | lineStart true => before.all fun c => c == '\n' || (c == '\r' && after != some '\n')
  | lineEnd true => after.all fun c => c == '\r' || (c == '\n' && before != some '\r')
  | wordBoundary => wordBefore != wordAfter
  | notWordBoundary => wordBefore == wordAfter
  | wordStart => !wordBefore && wordAfter
  | wordEnd => wordBefore && !wordAfter
  | wordStartHalf => !wordBefore
  | wordEndHalf => !wordAfter

/-- The positions at which an assertion holds, given the character before the subject. -/
def positions (l : Look) (before : Option Char) : List Char → Nat
  | [] => if l.holds before none then 1 else 0
  | c :: rest =>
    (if l.holds before (some c) then 1 else 0) + 2 * l.positions (some c) rest

end Look

/-- Applies a step a number of times. -/
def iterate (f : Nat → Nat) : Nat → Nat → Nat
  | 0, p => p
  | n + 1, p => if p = 0 then 0 else iterate f n (f p)

/-- Adds what a step reaches, at most a number of times and until nothing new is reached. -/
def closure (f : Nat → Nat) : Nat → Nat → Nat
  | 0, p => p
  | n + 1, p =>
    let q := p ||| f p
    if q = p then p else closure f n q

namespace Node

mutual

/-- The positions at which a pattern may end, from the positions at which it may begin. -/
def ends (subject : List Char) : Node → Nat → Nat
  | empty, p => p
  | char c, p => (p &&& positionsWhere (· == c) subject) <<< 1
  | set s, p => (p &&& positionsWhere s.contains subject) <<< 1
  | look l, p => p &&& l.positions none subject
  | repetition least most n, p =>
    let more := match most with
      | none => subject.length + 1
      | some m => min (m - least) (subject.length + 1)
    closure (n.ends subject) more (iterate (n.ends subject) least p)
  | capture n, p => n.ends subject p
  | concat parts, p => endsAfterAll subject parts p
  | alternation branches, p => endsAfterAny subject branches p

/-- The positions at which several patterns in a row may end. -/
def endsAfterAll (subject : List Char) : List Node → Nat → Nat
  | [], p => p
  | n :: rest, p => endsAfterAll subject rest (n.ends subject p)

/-- The positions at which any of several patterns may end. -/
def endsAfterAny (subject : List Char) : List Node → Nat → Nat
  | [], _ => 0
  | n :: rest, p => n.ends subject p ||| endsAfterAny subject rest p

end

/-- Whether a pattern matches some stretch of a subject. -/
def isFoundIn (n : Node) (subject : List Char) : Bool :=
  n.ends subject (allPositions subject) != 0

end Node

end BluetoothDirectory.Pattern
