import BluetoothDirectory.Pattern.Expr
import BluetoothDirectory.Pattern.Property

/-!
# What patterns mean

A pattern without switches: each class is a set of characters, each assertion says exactly what
it tests. `Expr.node?` applies the switches on the way, from left to right; a group keeps the
switches set inside it to itself. Without the switch for Unicode, classes are made of bytes, and a
pattern in which one could be a byte beyond ASCII is refused, for such a byte is no character.
-/

namespace BluetoothDirectory.Pattern

/-- What is tested at a position, all switches applied. -/
inductive Look where
  | start | stop
  | lineStart (carriageReturns : Bool)
  | lineEnd (carriageReturns : Bool)
  | wordBoundary | notWordBoundary | wordStart | wordEnd | wordStartHalf | wordEndHalf
deriving DecidableEq, Repr

/-- The meaning of a pattern. -/
inductive Node where
  | empty
  | char (c : Char)
  | set (s : CharSet)
  | look (l : Look)
  | repetition (least : Nat) (most : Option Nat) (n : Node)
  | capture (n : Node)
  | concat (parts : List Node)
  | alternation (branches : List Node)
deriving Inhabited

namespace Node

mutual

/-- Whether a pattern can only match the empty text. -/
def isZeroWidth : Node → Bool
  | empty => true
  | char _ => false
  | set _ => false
  | look _ => true
  | repetition _ most n => n.isZeroWidth || most == some 0
  | capture n => n.isZeroWidth
  | concat parts => allZeroWidth parts
  | alternation branches => allZeroWidth branches

/-- Whether all of several patterns can only match the empty text. -/
def allZeroWidth : List Node → Bool
  | [] => true
  | n :: rest => n.isZeroWidth && allZeroWidth rest

end

/-- A set as a pattern; a single character stands for itself. -/
def ofSet (s : CharSet) : Node :=
  match s.only? with
  | some c => char c
  | none => set s

/-- A repetition. What only matches the empty text is matched at most once, and a repetition that
is none is left out. -/
def ofRepetition (least : Nat) (most : Option Nat) (n : Node) : Node :=
  let (least, most) := if n.isZeroWidth then (min least 1, some (min (most.getD 1) 1))
    else (least, most)
  if least = 0 && most = some 0 then empty
  else if least = 1 && most = some 1 then n
  else repetition least most n

/-- The set of a pattern that reads one character. -/
def set? : Node → Option CharSet
  | char c => some (CharSet.singleton c)
  | set s => some s
  | _ => none

/-- A choice. Between single characters it is a choice from a set. -/
def ofBranches (branches : List Node) : Node :=
  match branches.mapM set? with
  | some sets => ofSet (sets.foldl CharSet.union CharSet.empty)
  | none => alternation branches

end Node

/-- The positions of the switches that matter for the meaning of a pattern. -/
structure Switches where
  ignoreCase : Bool := false
  multiLine : Bool := false
  dotMatchesAll : Bool := false
  unicode : Bool := true
  carriageReturns : Bool := false

namespace Switches

/-- Turns one switch. -/
def turn (s : Switches) : Switch × Bool → Switches
  | (.ignoreCase, on) => { s with ignoreCase := on }
  | (.multiLine, on) => { s with multiLine := on }
  | (.dotMatchesAll, on) => { s with dotMatchesAll := on }
  | (.unicode, on) => { s with unicode := on }
  | (.carriageReturns, on) => { s with carriageReturns := on }
  | (.swapGreed, _) => s
  | (.ignoreBlanks, _) => s

/-- Turns several switches. -/
def turnAll (s : Switches) (changes : Switching) : Switches :=
  changes.foldl turn s

end Switches

/-- The ranges of a class of ASCII characters. -/
def AsciiClass.set : AsciiClass → CharSet
  | alnum => ⟨[(0x30, 0x39), (0x41, 0x5A), (0x61, 0x7A)]⟩
  | alpha => ⟨[(0x41, 0x5A), (0x61, 0x7A)]⟩
  | ascii => CharSet.ascii
  | blank => ⟨[(0x09, 0x09), (0x20, 0x20)]⟩
  | cntrl => ⟨[(0x00, 0x1F), (0x7F, 0x7F)]⟩
  | digit => ⟨[(0x30, 0x39)]⟩
  | graph => ⟨[(0x21, 0x7E)]⟩
  | lower => ⟨[(0x61, 0x7A)]⟩
  | print => ⟨[(0x20, 0x7E)]⟩
  | punct => ⟨[(0x21, 0x2F), (0x3A, 0x40), (0x5B, 0x60), (0x7B, 0x7E)]⟩
  | space => ⟨[(0x09, 0x0D), (0x20, 0x20)]⟩
  | upper => ⟨[(0x41, 0x5A)]⟩
  | word => ⟨[(0x30, 0x39), (0x41, 0x5A), (0x5F, 0x5F), (0x61, 0x7A)]⟩
  | xdigit => ⟨[(0x30, 0x39), (0x41, 0x46), (0x61, 0x66)]⟩

/-- The characters of a shorthand. -/
def Shorthand.set : Shorthand → CharSet
  | digit => Property.digit
  | blank => Property.blank
  | word => Property.word

/-- The ASCII characters of a shorthand. -/
def Shorthand.asciiSet : Shorthand → CharSet
  | digit => AsciiClass.digit.set
  | blank => AsciiClass.space.set
  | word => AsciiClass.word.set

/-- The set of the bytes that are not in a set. -/
def CharSet.byteCompl (s : CharSet) : CharSet :=
  (CharSet.range 0 0xFF).inter ⟨CharSet.gapsFrom 0 s.ranges⟩

namespace Switches

/-- Applies the switch for case to a set, then negation. Bytes beyond ASCII are refused. -/
def finishSet (sw : Switches) (negated : Bool) (s : CharSet) : Option CharSet :=
  if sw.unicode then
    let s := if sw.ignoreCase then s.fold else s
    some (if negated then s.compl else s)
  else
    let s := if sw.ignoreCase then s.foldAscii else s
    let s := if negated then s.byteCompl else s
    if s.isAscii then some s else none

/-- The characters of a shorthand. -/
def shorthandSet (sw : Switches) (negated : Bool) (s : Shorthand) : Option CharSet :=
  if sw.unicode then some (if negated then s.set.compl else s.set)
  else
    let t := if negated then s.asciiSet.byteCompl else s.asciiSet
    if t.isAscii then some t else none

/-- The characters with a property, which needs the switch for Unicode. -/
def propertySet (sw : Switches) (negated : Bool) (q : Query) : Option CharSet := do
  guard sw.unicode
  let s ← match q with
    | .named name => Property.named? name
    | .valued name value => Property.valued? name value
  sw.finishSet negated s

/-- The character of a literal. A byte beyond ASCII is none without the switch for Unicode. -/
def literalChar (sw : Switches) (l : Literal) : Option Char :=
  if !sw.unicode && l.asByte && 0x7F < l.char.toNat then none else some l.char

/-- The code point of a literal in a set, which must be a byte without the switch for Unicode. -/
def memberCode (sw : Switches) (l : Literal) : Option Nat := do
  let c ← sw.literalChar l
  if sw.unicode || c.toNat ≤ 0x7F then some c.toNat else none

end Switches

namespace SetExpr

mutual

/-- The characters of a set in brackets, before the brackets' own negation. -/
def charSet? (sw : Switches) : SetExpr → Option CharSet
  | empty => some CharSet.empty
  | literal l => (sw.memberCode l).map fun n => CharSet.range n n
  | range first last => do
    let lo ← sw.memberCode first
    let hi ← sw.memberCode last
    some (CharSet.range lo hi)
  | ascii negated c => sw.finishSet negated c.set
  | shorthand negated s => sw.shorthandSet negated s
  | property negated q => sw.propertySet negated q
  | bracketed negated s => (s.charSet? sw).bind fun t => sw.finishSet negated t
  | union items => unionSet? sw items
  | op kind l r => do
    let s ← l.charSet? sw
    let t ← r.charSet? sw
    let fold := fun u : CharSet =>
      if !sw.ignoreCase then u else if sw.unicode then u.fold else u.foldAscii
    some (match kind with
      | .intersection => (fold s).inter (fold t)
      | .difference => (fold s).diff (fold t)
      | .symmetricDifference => (fold s).symmDiff (fold t))

/-- The characters of several sets. -/
def unionSet? (sw : Switches) : List SetExpr → Option CharSet
  | [] => some CharSet.empty
  | s :: rest => do
    let t ← s.charSet? sw
    let u ← unionSet? sw rest
    some (t.union u)

end

end SetExpr

namespace Atom

/-- The characters that a dot stands for. -/
def dotSet (sw : Switches) : CharSet :=
  if sw.dotMatchesAll then CharSet.all
  else if sw.carriageReturns then (CharSet.union (CharSet.singleton '\n')
    (CharSet.singleton '\r')).compl
  else (CharSet.singleton '\n').compl

/-- What an assertion tests. -/
def lookOf (sw : Switches) : Assertion → Look
  | .lineStart => if sw.multiLine then .lineStart sw.carriageReturns else .start
  | .lineEnd => if sw.multiLine then .lineEnd sw.carriageReturns else .stop
  | .textStart => .start
  | .textEnd => .stop
  | .wordBoundary => .wordBoundary
  | .notWordBoundary => .notWordBoundary
  | .wordStart => .wordStart
  | .wordEnd => .wordEnd
  | .wordStartHalf => .wordStartHalf
  | .wordEndHalf => .wordEndHalf

/-- The meaning of one step. -/
def node? (sw : Switches) : Atom → Option Node
  | literal l => do
    let c ← sw.literalChar l
    let s := CharSet.singleton c
    some (Node.ofSet (if !sw.ignoreCase then s else if sw.unicode then s.fold else s.foldAscii))
  | dot => if sw.unicode then some (.set (dotSet sw)) else none
  | look a => some (.look (lookOf sw a))
  | shorthand negated s => (sw.shorthandSet negated s).map Node.ofSet
  | property negated q => (sw.propertySet negated q).map Node.ofSet

end Atom

namespace Expr

mutual

/-- The meaning of a pattern under some switches, and the switches after it. -/
def node? (sw : Switches) : Expr → Option (Node × Switches)
  | empty => some (.empty, sw)
  | switching s => some (.empty, sw.turnAll s)
  | atom a => (a.node? sw).map fun n => (n, sw)
  | set negated s => do
    let t ← s.charSet? sw
    let t ← sw.finishSet negated t
    some (Node.ofSet t, sw)
  | repetition least most e => do
    let (n, sw) ← e.node? sw
    some (Node.ofRepetition least most n, sw)
  | group .capture e => (e.node? sw).map fun r => (.capture r.1, sw)
  | group (.plain s) e => (e.node? (sw.turnAll s)).map fun r => (r.1, sw)
  | alternation branches => (nodes? sw branches).map fun r => (Node.ofBranches r.1, r.2)
  | concat parts => (nodes? sw parts).map fun r => (.concat r.1, r.2)

/-- The meanings of several patterns, each under the switches after the one before. -/
def nodes? (sw : Switches) : List Expr → Option (List Node × Switches)
  | [] => some ([], sw)
  | e :: rest => do
    let (n, sw) ← e.node? sw
    let (ns, sw) ← nodes? sw rest
    some (n :: ns, sw)

end

end Expr

end BluetoothDirectory.Pattern
