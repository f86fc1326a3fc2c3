import BluetoothDirectory.Pattern.Node

/-!
# The size of a pattern

A pattern whose automaton would grow beyond ten mebibytes is refused. The automaton reads the
bytes of UTF-8, and is needed in both directions: reading forward it also keeps track of groups,
and shares all equal ends of the byte sequences of a set; reading backward it shares equal
beginnings. A state takes 32 bytes, a labelled transition of a state with several 8, and a way out
of a choice 4.
-/

namespace BluetoothDirectory.Pattern

/-! ## Sets as sequences of bytes -/

/-- A range of bytes. -/
abbrev ByteRange := Nat × Nat

/-- The bytes of a code point in UTF-8. -/
def utf8Bytes (code : Nat) : List Nat :=
  if code ≤ 0x7F then [code]
  else if code ≤ 0x7FF then [0xC0 + code / 64, 0x80 + code % 64]
  else if code ≤ 0xFFFF then [0xE0 + code / 4096, 0x80 + code / 64 % 64, 0x80 + code % 64]
  else [0xF0 + code / 262144, 0x80 + code / 4096 % 64, 0x80 + code / 64 % 64, 0x80 + code % 64]

/-- The first code point of a range after which the number of bytes changes, if any. -/
def lengthSplit? (lo hi : Nat) : Option Nat :=
  [0x7F, 0x7FF, 0xFFFF].find? fun m => lo ≤ m && m < hi

/-- Where a range of code points with equally many bytes has to be cut for the last bytes, below
a power of 64, to run through all their values; the last code point of the first part. -/
def blockSplit? (lo hi : Nat) : Option Nat :=
  [64, 4096, 262144].findSome? fun block =>
    if lo / block = hi / block then none
    else if lo % block ≠ 0 then some (lo / block * block + (block - 1))
    else if hi % block ≠ block - 1 then some (hi / block * block - 1)
    else none

/-- The sequences of byte ranges for a range of code points, ascending; the number bounds the
cuts. -/
def byteSequences : Nat → Nat → Nat → List (List ByteRange)
  | 0, _, _ => []
  | n + 1, lo, hi =>
    match (lengthSplit? lo hi).or (if hi ≤ 0x7F then none else blockSplit? lo hi) with
    | some m => byteSequences n lo m ++ byteSequences n (m + 1) hi
    | none => [(utf8Bytes lo).zip (utf8Bytes hi)]

/-- The sequences of byte ranges for a set. -/
def CharSet.byteSequences (s : CharSet) : List (List ByteRange) :=
  s.ranges.flatMap fun r => Pattern.byteSequences 16 r.1 r.2

/-- Gathers neighbouring sequences that begin alike; those that are over are left out. -/
def gather : List (List ByteRange) → List (ByteRange × List (List ByteRange))
  | [] => []
  | [] :: rest => gather rest
  | (r :: tail) :: rest =>
    match gather rest with
    | [] => [(r, [tail])]
    | (q, tails) :: others =>
      if r = q then (q, tail :: tails) :: others else (r, [tail]) :: (q, tails) :: others

/-- The number of different beginnings of some sequences; the first number bounds their length. -/
def countBeginnings : Nat → List (List ByteRange) → Nat
  | 0, _ => 0
  | n + 1, seqs =>
    (gather seqs).foldl (fun total g => total + 1 + countBeginnings n g.2) 0

/-- The ways out of a state: a range of bytes and the number of the state after it. -/
abbrev Transitions := List (ByteRange × Nat)

/-- The number of the state with some ways out, adding it if it is new. State 0 is the end. -/
def numberOf (ways : Transitions) (states : List Transitions) : Nat × List Transitions :=
  match states.findIdx? (· == ways) with
  | some i => (states.length - i, states)
  | none => (states.length + 1, ways :: states)

/-- The state from which some sequences are read, with equal states shared, on top of the states
there are; the first number bounds the length of the sequences. -/
def stateFor : Nat → List (List ByteRange) → List Transitions → Nat × List Transitions
  | 0, _, states => (0, states)
  | n + 1, seqs, states =>
    let groups := gather seqs
    if groups.isEmpty then (0, states)
    else
      let (ways, states) := groups.foldl
        (fun (found : Transitions × List Transitions) g =>
          let (target, states) := stateFor n g.2 found.2
          ((g.1, target) :: found.1, states))
        ([], states)
      numberOf ways states

/-! ## Counting -/

/-- Which way the automaton reads. -/
inductive Direction where
  | forward | backward
deriving DecidableEq, Repr

/-- What a state takes. -/
def stateBytes : Nat := 32

/-- What the labelled transitions of one state take; a single one is part of the state. -/
def transitionBytes (count : Nat) : Nat :=
  if count ≤ 1 then 0 else 8 * count

/-- What the ways out of a choice take. -/
def branchBytes (count : Nat) : Nat :=
  4 * count

/-- The size of the automaton for a set. -/
def CharSet.size (d : Direction) (s : CharSet) : Nat :=
  if s.isAscii then 2 * stateBytes + transitionBytes s.ranges.length
  else
    let seqs := s.byteSequences
    match d with
    | .forward =>
      let states := (stateFor 4 seqs []).2
      states.foldl (fun total ways => total + stateBytes + transitionBytes ways.length) stateBytes
    | .backward => (2 + countBeginnings 4 seqs) * stateBytes + branchBytes seqs.length

namespace Node

mutual

/-- Whether every match of a pattern has a character. -/
def isNonempty : Node → Bool
  | empty => false
  | char _ => true
  | set s => !s.isEmpty
  | look _ => false
  | repetition least _ n => least != 0 && n.isNonempty
  | capture n => n.isNonempty
  | concat parts => anyNonempty parts
  | alternation branches => allNonempty branches

/-- Whether one of several patterns always has a character. -/
def anyNonempty : List Node → Bool
  | [] => false
  | n :: rest => n.isNonempty || anyNonempty rest

/-- Whether all of several patterns always have a character. -/
def allNonempty : List Node → Bool
  | [] => true
  | n :: rest => n.isNonempty && allNonempty rest

end

/-- The size of a number of copies of a pattern in a row. -/
def copies (count size : Nat) : Nat :=
  if count = 0 then stateBytes else count * size

/-- The size of a repetition of a pattern of the given size. -/
def repetitionSize (least : Nat) (most : Option Nat) (nonempty : Bool) (size : Nat) : Nat :=
  match most with
  | none =>
    if least = 0 then
      if nonempty then size + stateBytes + branchBytes 1
      else size + 3 * stateBytes + branchBytes 4
    else least * size + stateBytes + branchBytes 1
  | some m =>
    if least = m then copies m size
    else copies least size + stateBytes + (m - least) * (size + stateBytes + branchBytes 2)

mutual

/-- The size of the automaton for a pattern. -/
def size (d : Direction) : Node → Nat
  | empty => stateBytes
  | char c => c.utf8Size * stateBytes
  | set s => s.size d
  | look _ => stateBytes
  | repetition least most n => repetitionSize least most n.isNonempty (n.size d)
  | capture n =>
    match d with
    | .forward => n.size d + 2 * stateBytes
    | .backward => n.size d
  | concat parts => if parts.isEmpty then stateBytes else totalSize d parts
  | alternation branches =>
    2 * stateBytes + branchBytes branches.length + totalSize d branches

/-- The size of the automata for several patterns. -/
def totalSize (d : Direction) : List Node → Nat
  | [] => 0
  | n :: rest => n.size d + totalSize d rest

end

/-- What the whole automaton takes beside the pattern: reading on to where a match begins, the
state of success, and reading forward also the group that is the whole match. -/
def overhead (d : Direction) : Nat :=
  match d with
  | .forward => 6 * stateBytes + branchBytes 2
  | .backward => 4 * stateBytes + branchBytes 2

/-- The largest size allowed, ten mebibytes. -/
def maxSize : Nat := 10485760

/-- Whether the automata of both directions are small enough. -/
def fits (n : Node) : Bool :=
  n.size .forward + overhead .forward ≤ maxSize
    && n.size .backward + overhead .backward ≤ maxSize

end Node

end BluetoothDirectory.Pattern
