import BluetoothDirectory.Unicode.Character

/-!
# Sets of characters

A set of code points is a list of ranges, ascending and apart from one another. Complements are
taken within the code points that stand for characters, which leave out the surrogates.

Case is folded for the letters of the ASCII alphabet and for the two other letters that fold to
one of them. Patterns are only ever compared with object paths, whose characters are ASCII, so no
other folding can be seen.
-/

namespace BluetoothDirectory.Pattern

/-- A set of code points, as ascending ranges with gaps between them. -/
structure CharSet where
  ranges : List (Nat × Nat)
deriving DecidableEq, Repr, Inhabited

namespace CharSet

/-- The largest code point. -/
def maxCode : Nat := 0x10FFFF

/-- Adds a range to ascending ranges, joining those that it touches. -/
def insertRange (lo hi : Nat) : List (Nat × Nat) → List (Nat × Nat)
  | [] => [(lo, hi)]
  | (a, b) :: rest =>
    if hi + 1 < a then (lo, hi) :: (a, b) :: rest
    else if b + 1 < lo then (a, b) :: insertRange lo hi rest
    else insertRange (min lo a) (max hi b) rest

/-- The set of the code points in some ranges. -/
def ofRanges (ranges : List (Nat × Nat)) : CharSet :=
  ⟨ranges.foldr (fun r found => insertRange r.1 r.2 found) []⟩

/-- The empty set. -/
def empty : CharSet := ⟨[]⟩

/-- The characters from one to another. -/
def range (lo hi : Nat) : CharSet := ⟨[(lo, hi)]⟩

/-- One character. -/
def singleton (c : Char) : CharSet := range c.toNat c.toNat

/-- All characters. -/
def all : CharSet := ⟨[(0, 0xD7FF), (0xE000, maxCode)]⟩

/-- The ASCII characters. -/
def ascii : CharSet := range 0 0x7F

/-- Whether a code point belongs to the set. -/
def containsCode (s : CharSet) (code : Nat) : Bool :=
  match s.ranges.find? fun r => code ≤ r.2 with
  | some r => r.1 ≤ code
  | none => false

/-- Whether a character belongs to the set. -/
def contains (s : CharSet) (c : Char) : Bool :=
  s.containsCode c.toNat

/-- Merges two ascending lists of ranges by where they begin. -/
def merge : List (Nat × Nat) → List (Nat × Nat) → List (Nat × Nat)
  | [], rs => rs
  | ls, [] => ls
  | l :: ls, r :: rs =>
    if l.1 ≤ r.1 then l :: merge ls (r :: rs) else r :: merge (l :: ls) rs
termination_by ls rs => ls.length + rs.length

/-- The union of two sets. -/
def union (s t : CharSet) : CharSet :=
  ofRanges (merge s.ranges t.ranges)

/-- The gaps between ascending ranges, from a code point up. -/
def gapsFrom (start : Nat) : List (Nat × Nat) → List (Nat × Nat)
  | [] => if start ≤ maxCode then [(start, maxCode)] else []
  | (a, b) :: rest =>
    if start < a then (start, a - 1) :: gapsFrom (b + 1) rest else gapsFrom (b + 1) rest

/-- The code points of two ascending lists of ranges that both have. -/
def common : List (Nat × Nat) → List (Nat × Nat) → List (Nat × Nat)
  | [], _ => []
  | _, [] => []
  | (a, b) :: ls, (c, d) :: rs =>
    let rest := if b < d then common ls ((c, d) :: rs) else common ((a, b) :: ls) rs
    if max a c ≤ min b d then (max a c, min b d) :: rest else rest
termination_by ls rs => ls.length + rs.length

/-- The intersection of two sets. -/
def inter (s t : CharSet) : CharSet :=
  ⟨common s.ranges t.ranges⟩

/-- All characters that are not in the set. -/
def compl (s : CharSet) : CharSet :=
  inter ⟨gapsFrom 0 s.ranges⟩ all

/-- The characters of the first set that are not in the second. -/
def diff (s t : CharSet) : CharSet :=
  s.inter t.compl

/-- The characters that exactly one of the sets has. -/
def symmDiff (s t : CharSet) : CharSet :=
  (s.diff t).union (t.diff s)

/-- Whether the set has no characters. -/
def isEmpty (s : CharSet) : Bool :=
  s.ranges.isEmpty

/-- Whether all characters of the set are ASCII. -/
def isAscii (s : CharSet) : Bool :=
  s.ranges.all fun r => r.2 ≤ 0x7F

/-- The only character of the set, if there is exactly one. -/
def only? (s : CharSet) : Option Char :=
  match s.ranges with
  | [(a, b)] => if a = b then some (Char.ofNat a) else none
  | _ => none

/-- The long letter `s`, which folds to `s`. -/
def longS : Nat := 0x17F

/-- The sign for kelvin, which folds to `k`. -/
def kelvin : Nat := 0x212A

/-- The members of the set among some letters, each moved to the letter of the other case. -/
def moved (s letters : CharSet) (move : Nat → Nat) : List (Nat × Nat) :=
  (s.inter letters).ranges.map fun r => (move r.1, move r.2)

/-- The set with both cases of each ASCII letter in it. -/
def foldAscii (s : CharSet) : CharSet :=
  let up := moved s (range 0x61 0x7A) (· - 0x20)
  let down := moved s (range 0x41 0x5A) (· + 0x20)
  (s.union (ofRanges up)).union (ofRanges down)

/-- The set with all letters that differ from a letter in it by case. -/
def fold (s : CharSet) : CharSet :=
  let special (code : Nat) (letter : Char) (t : CharSet) : CharSet :=
    if t.containsCode code then (t.union (singleton letter)).foldAscii
    else if t.contains letter then t.union (range code code)
    else t
  special kelvin 'k' (special longS 's' s.foldAscii)

/-- The characters of some general categories, from the runs of the table. -/
def ofCategories (wanted : Unicode.Category → Bool) : List (Nat × Unicode.Category) →
    List (Nat × Nat)
  | [] => []
  | [(start, c)] => if wanted c then [(start, maxCode)] else []
  | (start, c) :: (next, d) :: rest =>
    let tail := ofCategories wanted ((next, d) :: rest)
    if wanted c then (start, next - 1) :: tail else tail

/-- The set of the characters of some general categories. -/
def categories (wanted : Unicode.Category → Bool) : CharSet :=
  inter (ofRanges (ofCategories wanted Unicode.Category.runs)) all

/-- The ranges between pairs of boundaries. -/
def betweenBoundaries : List Nat → List (Nat × Nat)
  | first :: stop :: rest => (first, stop - 1) :: betweenBoundaries rest
  | _ => []

/-- The set that boundaries describe. -/
def ofBoundaries (boundaries : List Nat) : CharSet :=
  ofRanges (betweenBoundaries boundaries)

end CharSet

end BluetoothDirectory.Pattern
