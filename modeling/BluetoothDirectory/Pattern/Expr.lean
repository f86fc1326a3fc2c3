/-!
# Patterns as written

What the text of a pattern says, before any of its switches are applied: literals, classes,
assertions, repetitions, groups and alternatives, and inside brackets the expressions for sets.
-/

namespace BluetoothDirectory.Pattern

/-- The switches that a pattern can turn on and off. -/
inductive Switch where
  | ignoreCase | multiLine | dotMatchesAll | swapGreed | unicode | carriageReturns | ignoreBlanks
deriving DecidableEq, Repr

/-- Switches to turn, each with its new position. -/
abbrev Switching := List (Switch × Bool)

/-- A character, and whether it was written as the two hexadecimal digits of a byte. -/
structure Literal where
  char : Char
  asByte : Bool := false
deriving DecidableEq, Repr, Inhabited

/-- What is tested at a position without reading a character. -/
inductive Assertion where
  | lineStart | lineEnd | textStart | textEnd
  | wordBoundary | notWordBoundary | wordStart | wordEnd | wordStartHalf | wordEndHalf
deriving DecidableEq, Repr

/-- The classes that a backslash and a letter stand for. -/
inductive Shorthand where
  | digit | blank | word
deriving DecidableEq, Repr

/-- The classes of ASCII characters with names. -/
inductive AsciiClass where
  | alnum | alpha | ascii | blank | cntrl | digit | graph | lower | print | punct | space | upper
  | word | xdigit
deriving DecidableEq, Repr

/-- A property of characters, named alone or with a value. -/
inductive Query where
  | named (name : List Char)
  | valued (name value : List Char)
deriving DecidableEq, Repr

/-- One step of a pattern, inside brackets or outside. -/
inductive Atom where
  | literal (l : Literal)
  | dot
  | look (a : Assertion)
  | shorthand (negated : Bool) (s : Shorthand)
  | property (negated : Bool) (q : Query)
deriving DecidableEq, Repr

/-- Ways to combine two sets. -/
inductive SetOp where
  | intersection | difference | symmetricDifference
deriving DecidableEq, Repr

/-- An expression for a set of characters. -/
inductive SetExpr where
  | empty
  | literal (l : Literal)
  | range (first last : Literal)
  | ascii (negated : Bool) (c : AsciiClass)
  | shorthand (negated : Bool) (s : Shorthand)
  | property (negated : Bool) (q : Query)
  | bracketed (negated : Bool) (inner : SetExpr)
  | union (items : List SetExpr)
  | op (kind : SetOp) (left right : SetExpr)
deriving Inhabited

/-- What a group is for. -/
inductive GroupKind where
  /-- The group remembers what it matched. -/
  | capture
  /-- The group only holds its parts together, with switches of its own. -/
  | plain (switching : Switching)

/-- A pattern as written. -/
inductive Expr where
  | empty
  | switching (s : Switching)
  | atom (a : Atom)
  | set (negated : Bool) (s : SetExpr)
  | repetition (least : Nat) (most : Option Nat) (e : Expr)
  | group (kind : GroupKind) (e : Expr)
  | alternation (branches : List Expr)
  | concat (parts : List Expr)
deriving Inhabited

namespace SetExpr

/-- One expression for the union of several. -/
def ofItems : List SetExpr → SetExpr
  | [] => empty
  | [s] => s
  | items => union items

mutual

/-- How deep sets are nested in one another. -/
def depth : SetExpr → Nat
  | bracketed _ s => s.depth + 1
  | union items => maxDepth items + 1
  | op _ l r => max l.depth r.depth + 1
  | _ => 0

/-- The greatest depth among several expressions. -/
def maxDepth : List SetExpr → Nat
  | [] => 0
  | s :: rest => max s.depth (maxDepth rest)

end

end SetExpr

namespace Expr

/-- One expression for several in a row. -/
def ofParts : List Expr → Expr
  | [] => empty
  | [e] => e
  | parts => concat parts

/-- One expression for several to choose from. -/
def ofBranches : List Expr → Expr
  | [e] => e
  | branches => alternation branches

mutual

/-- How deep a pattern is nested. -/
def depth : Expr → Nat
  | set _ s => s.depth + 1
  | repetition _ _ e => e.depth + 1
  | group _ e => e.depth + 1
  | alternation branches => maxDepth branches + 1
  | concat parts => maxDepth parts + 1
  | _ => 0

/-- The greatest depth among several patterns. -/
def maxDepth : List Expr → Nat
  | [] => 0
  | e :: rest => max e.depth (maxDepth rest)

end

end Expr

end BluetoothDirectory.Pattern
