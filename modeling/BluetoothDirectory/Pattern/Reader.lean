import BluetoothDirectory.Pattern.Expr
import BluetoothDirectory.Text.Hex
import BluetoothDirectory.Unicode.Character

/-!
# Reading patterns

Reads the text of a pattern, or finds that it is none. Under the switch that ignores blanks,
blanks and comments may stand almost anywhere; the position of that switch is carried along while
reading. What is read comes back with the characters after it.
-/

namespace BluetoothDirectory.Pattern.Reader

/-- Drops blanks and comments; a comment begins with a number sign and ends with its line. -/
def dropBlanks : Bool → List Char → List Char
  | _, [] => []
  | true, c :: rest => dropBlanks (c != '\n') rest
  | false, c :: rest =>
    if Unicode.isBlank c then dropBlanks false rest
    else if c = '#' then dropBlanks true rest
    else c :: rest

/-- The characters from the next one that counts. -/
def skip (ignoreBlanks : Bool) (cs : List Char) : List Char :=
  if ignoreBlanks then dropBlanks false cs else cs

/-- The characters from the one that counts after the next. -/
def advance (ignoreBlanks : Bool) (cs : List Char) : List Char :=
  skip ignoreBlanks (cs.drop 1)

/-- Looks at the characters after one for the next that counts. A comment is only looked into as
far as its number sign. -/
def lookAhead (ignoreBlanks : Bool) (cs : List Char) : Option Char :=
  if ignoreBlanks then
    let rest := cs.dropWhile Unicode.isBlank
    let rest := match rest with
      | '#' :: tail => tail.dropWhile Unicode.isBlank
      | _ => rest
    (rest.head?).or cs.head?
  else cs.head?

/-- Characters that can be written after a backslash to stand for themselves: the ASCII characters
other than letters, digits and angle brackets. -/
def isEscapable (c : Char) : Bool :=
  c.toNat ≤ 0x7F && !c.isAlphanum && c != '<' && c != '>'

/-- The character with a code point, if there is one. -/
def charOfCode? (n : Nat) : Option Char :=
  if h : n.isValidChar then some (Char.ofNatAux n h) else none

/-- Reads an exact number of hexadecimal digits. -/
def readDigits (x : Bool) : Nat → List Char → Option (List Char × List Char)
  | 0, cs => some ([], cs)
  | n + 1, cs =>
    match cs with
    | [] => none
    | c :: _ =>
      if (Text.hexValue? c).isSome then
        (readDigits x n (advance x cs)).map fun r => (c :: r.1, r.2)
      else none

/-- Reads characters that satisfy a condition up to a closing brace; the number bounds how many. -/
def readBraced (x : Bool) (ok : Char → Bool) : Nat → List Char → Option (List Char × List Char)
  | 0, _ => none
  | n + 1, cs =>
    match cs with
    | [] => none
    | c :: _ =>
      if c = '\x7d' then some ([], cs)
      else if ok c then (readBraced x ok n (advance x cs)).map fun r => (c :: r.1, r.2)
      else none

/-- The character with a code point given in hexadecimal digits. -/
def charOfDigits? (digits : List Char) : Option Char :=
  (Text.readHex? digits).bind charOfCode?

/-- Reads a code point after the letter that announces it: in braces, or of a fixed length. -/
def readCode (x : Bool) (letter : Char) (cs : List Char) : Option (Literal × List Char) :=
  match cs with
  | [] => none
  | c :: _ =>
    if c = '\x7b' then do
      let (digits, after) ← readBraced x (fun d => (Text.hexValue? d).isSome) (cs.length + 1)
        (advance x cs)
      let char ← charOfDigits? digits
      some (⟨char, false⟩, advance x after)
    else do
      let length := if letter = 'x' then 2 else if letter = 'u' then 4 else 8
      let (digits, after) ← readDigits x length cs
      let char ← charOfDigits? digits
      some (⟨char, letter == 'x'⟩, after)

/-- The name and value of a property written between braces; the sign between them is `!=`, or
else a colon, or else an equals sign. -/
def splitQuery (cs : List Char) : Query :=
  match splitAtUnequal cs with
  | some (name, value) => .valued name value
  | none =>
    if cs.contains ':' then splitAt ':'
    else if cs.contains '=' then splitAt '='
    else .named cs
where
  splitAtUnequal : List Char → Option (List Char × List Char)
    | '!' :: '=' :: rest => some ([], rest)
    | c :: rest => (splitAtUnequal rest).map fun r => (c :: r.1, r.2)
    | [] => none
  splitAt (sign : Char) : Query :=
    .valued (cs.takeWhile (· != sign)) ((cs.dropWhile (· != sign)).drop 1)

/-- Reads a property after the letter that announces it: one letter, or a name in braces. -/
def readQuery (x : Bool) (cs : List Char) : Option (Query × List Char) :=
  match cs with
  | [] => none
  | c :: _ =>
    if c = '\x7b' then do
      let (name, after) ← readBraced x (fun _ => true) (cs.length + 1) (advance x cs)
      some (splitQuery name, after.drop 1)
    else if c = '\\' then none
    else some (.named [c], advance x cs)

/-- Characters of the names of word assertions. -/
def isWordAssertionChar (c : Char) : Bool :=
  c.isAlpha || c == '-'

/-- The word assertions with names. -/
def wordAssertions : List (String × Assertion) :=
  [("start", .wordStart), ("end", .wordEnd), ("start-half", .wordStartHalf),
   ("end-half", .wordEndHalf)]

/-- Reads what follows `\b`: the name of a word assertion in braces, or nothing that belongs to
it. Braces around a number are left for a repetition. -/
def readWordAssertion (x : Bool) (cs : List Char) : Option (Assertion × List Char) :=
  match cs with
  | '\x7b' :: _ =>
    let inner := advance x cs
    match inner with
    | [] => none
    | c :: _ =>
      if isWordAssertionChar c then do
        let (name, after) ← readBraced x isWordAssertionChar (cs.length + 1) inner
        let a ← wordAssertions.lookup (String.ofList name)
        some (a, after.drop 1)
      else some (.wordBoundary, cs)
  | _ => some (.wordBoundary, cs)

/-- The letters that stand for one character each after a backslash. -/
def controlEscapes : List (Char × Nat) :=
  [('a', 0x07), ('f', 0x0C), ('t', 0x09), ('n', 0x0A), ('r', 0x0D), ('v', 0x0B)]

/-- The letters that stand for an assertion each after a backslash. -/
def assertionEscapes : List (Char × Assertion) :=
  [('A', .textStart), ('z', .textEnd), ('B', .notWordBoundary), ('<', .wordStart),
   ('>', .wordEnd)]

/-- The letters that stand for a class each after a backslash. -/
def shorthandEscapes : List (Char × Bool × Shorthand) :=
  [('d', false, .digit), ('s', false, .blank), ('w', false, .word),
   ('D', true, .digit), ('S', true, .blank), ('W', true, .word)]

/-- Reads what follows a backslash. -/
def readEscape (x : Bool) (cs : List Char) : Option (Atom × List Char) :=
  match cs with
  | [] => none
  | c :: rest =>
    if c = 'x' || c = 'u' || c = 'U' then
      (readCode x c (advance x cs)).map fun r => (.literal r.1, r.2)
    else if c = 'p' || c = 'P' then
      (readQuery x (advance x cs)).map fun r => (.property (c == 'P') r.1, r.2)
    else if c = 'b' then
      (readWordAssertion x rest).map fun r => (.look r.1, r.2)
    else match shorthandEscapes.lookup c with
      | some (negated, s) => some (.shorthand negated s, rest)
      | none =>
        match assertionEscapes.lookup c with
        | some a => some (.look a, rest)
        | none =>
          match controlEscapes.lookup c with
          | some code => some (.literal ⟨Char.ofNat code, false⟩, rest)
          | none => if isEscapable c then some (.literal ⟨c, false⟩, rest) else none

/-! ## Sets in brackets -/

/-- The names of the classes of ASCII characters. -/
def asciiClasses : List (String × AsciiClass) :=
  [("alnum", .alnum), ("alpha", .alpha), ("ascii", .ascii), ("blank", .blank), ("cntrl", .cntrl),
   ("digit", .digit), ("graph", .graph), ("lower", .lower), ("print", .print),
   ("punct", .punct), ("space", .space), ("upper", .upper), ("word", .word), ("xdigit", .xdigit)]

/-- Reads a named class of ASCII characters, if one stands here. -/
def readAsciiClass (cs : List Char) : Option (SetExpr × List Char) :=
  match cs with
  | '[' :: ':' :: rest =>
    let (negated, rest) := match rest with
      | '^' :: tail => (true, tail)
      | _ => (false, rest)
    let name := rest.takeWhile (· != ':')
    match rest.dropWhile (· != ':') with
    | ':' :: ']' :: after =>
      (asciiClasses.lookup (String.ofList name)).map fun c => (.ascii negated c, after)
    | _ => none
  | _ => none

/-- Reads one member of a set. -/
def readMember (x : Bool) (cs : List Char) : Option (Atom × List Char) :=
  match cs with
  | [] => none
  | '\\' :: rest => readEscape x rest
  | c :: rest => some (.literal ⟨c, false⟩, rest)

/-- A member as a set; assertions are none. -/
def memberSet? : Atom → Option SetExpr
  | .literal l => some (.literal l)
  | .shorthand negated s => some (.shorthand negated s)
  | .property negated q => some (.property negated q)
  | _ => none

/-- A member as the end of a range. -/
def memberLiteral? : Atom → Option Literal
  | .literal l => some l
  | _ => none

/-- Reads a range, or one member where no range follows. A hyphen before the closing bracket or
before another hyphen makes no range. -/
def readRange (x : Bool) (cs : List Char) : Option (SetExpr × List Char) := do
  let (first, after) ← readMember x cs
  let after := skip x after
  match after with
  | [] => none
  | c :: rest =>
    let ahead := lookAhead x rest
    if c != '-' || ahead == some ']' || ahead == some '-' then
      (memberSet? first).map fun s => (s, after)
    else do
      let (last, after) ← readMember x (advance x after)
      let a ← memberLiteral? first
      let b ← memberLiteral? last
      if a.char.toNat ≤ b.char.toNat then some (.range a b, after) else none

/-- A set that is being read, while one nested in it or the right side of an operation is. -/
inductive SetFrame where
  | bracket (before : List SetExpr) (negated : Bool)
  | left (kind : SetOp) (left : SetExpr)

/-- Puts the left sides that wait for a right side together with it. -/
def closeOps : List SetFrame → SetExpr → SetExpr × List SetFrame
  | .left kind l :: stack, r => closeOps stack (.op kind l r)
  | stack, r => (r, stack)

/-- Reads what may follow an opening bracket: the sign of negation, hyphens, and a closing bracket
that stands for itself. -/
def readOpening (x : Bool) (cs : List Char) : Option (Bool × List SetExpr × List Char) :=
  let cs := advance x cs
  let (negated, cs) := match cs with
    | '^' :: _ => (true, advance x cs)
    | _ => (false, cs)
  let (items, cs) := hyphens (cs.length + 1) [] cs
  match cs with
  | [] => none
  | ']' :: _ =>
    if items.isEmpty then
      let cs := advance x cs
      if cs.isEmpty then none else some (negated, [.literal ⟨']', false⟩], cs)
    else some (negated, items, cs)
  | _ => some (negated, items, cs)
where
  hyphens : Nat → List SetExpr → List Char → List SetExpr × List Char
    | 0, items, cs => (items, cs)
    | n + 1, items, cs =>
      match cs with
      | '-' :: _ => hyphens n (.literal ⟨'-', false⟩ :: items) (advance x cs)
      | _ => (items, cs)

/-- The operation that two equal signs stand for. -/
def setOp? : List Char → Option SetOp
  | '&' :: '&' :: _ => some .intersection
  | '-' :: '-' :: _ => some .difference
  | '~' :: '~' :: _ => some .symmetricDifference
  | _ => none

/-- Reads a set from after its first opening. The stack holds what the set at hand is nested in,
and `items` its members so far, last first; the number bounds the steps. -/
def readSetFrom (x : Bool) : Nat → List SetFrame → List SetExpr → List Char →
    Option ((Bool × SetExpr) × List Char)
  | 0, _, _, _ => none
  | n + 1, stack, items, cs =>
    let cs := skip x cs
    match cs with
    | [] => none
    | '[' :: _ =>
      match readAsciiClass cs with
      | some (s, after) => readSetFrom x n stack (s :: items) after
      | none => do
        let (negated, first, after) ← readOpening x cs
        readSetFrom x n (.bracket items negated :: stack) first after
    | ']' :: after =>
      match closeOps stack (SetExpr.ofItems items.reverse) with
      | (s, [.bracket _ negated]) => some ((negated, s), after)
      | (s, .bracket before negated :: outer) =>
        readSetFrom x n outer (.bracketed negated s :: before) after
      | _ => none
    | _ =>
      match setOp? cs with
      | some kind =>
        let (l, outer) := closeOps stack (SetExpr.ofItems items.reverse)
        readSetFrom x n (.left kind l :: outer) [] (cs.drop 2)
      | none => do
        let (s, after) ← readRange x cs
        readSetFrom x n stack (s :: items) after

/-- Reads a set in brackets. -/
def readSet (x : Bool) (cs : List Char) : Option (Expr × List Char) := do
  let (negated, first, after) ← readOpening x cs
  let ((negated, s), after) ←
    readSetFrom x (cs.length + 1) [.bracket [] negated] first after
  some (.set negated s, after)

/-! ## Repetitions -/

/-- The largest count that can be written. -/
def maxCount : Nat := UInt32.size - 1

/-- The value of decimal digits. -/
def decimalValue (digits : List Char) : Nat :=
  digits.foldl (fun n c => 10 * n + (c.toNat - '0'.toNat)) 0

/-- Reads decimal digits; the number bounds how many. -/
def readDecimalDigits (x : Bool) : Nat → List Char → List Char × List Char
  | 0, cs => ([], cs)
  | n + 1, cs =>
    match cs with
    | [] => ([], [])
    | c :: _ =>
      if c.isDigit then
        let (digits, after) := readDecimalDigits x n (advance x cs)
        (c :: digits, after)
      else ([], cs)

/-- Drops blanks, and also comments where blanks are ignored. -/
def dropCountBlanks (x : Bool) (cs : List Char) : List Char :=
  let rest := cs.dropWhile Unicode.isBlank
  if rest.length < cs.length then skip x rest else rest

/-- Reads a count, with blanks around it; none if there is no digit. A count that is too large is
no count either. -/
def readCount (x : Bool) (cs : List Char) : Option Nat × List Char :=
  let cs := cs.dropWhile Unicode.isBlank
  let (digits, after) := readDecimalDigits x (cs.length + 1) cs
  let n := decimalValue digits
  (if digits.isEmpty || maxCount < n then none else some n, dropCountBlanks x after)

/-- Drops the question mark after a repetition, which changes only which match is preferred. -/
def dropLazy (cs : List Char) : List Char :=
  match cs with
  | '?' :: rest => rest
  | _ => cs

/-- Reads counts in braces: one, a least one, or a least and a most. -/
def readCounts (x : Bool) (cs : List Char) : Option ((Nat × Option Nat) × List Char) := do
  let (first, after) := readCount x (advance x cs)
  let (counts, after) ← match after with
    | ',' :: _ =>
      let after := advance x after
      match after with
      | '\x7d' :: _ => first.map fun n => ((n, none), after)
      | _ =>
        let (last, after) := readCount x after
        first.bind fun n => last.bind fun m =>
          if n ≤ m then some ((n, some m), after) else none
    | _ => first.map fun n => ((n, some n), after)
  match after with
  | '\x7d' :: _ => some (counts, dropLazy (advance x after))
  | _ => none

/-! ## Groups -/

/-- The letters of the switches. -/
def switches : List (Char × Switch) :=
  [('i', .ignoreCase), ('m', .multiLine), ('s', .dotMatchesAll), ('U', .swapGreed),
   ('u', .unicode), ('R', .carriageReturns), ('x', .ignoreBlanks)]

/-- Reads switches up to a colon or closing bracket, which is not read. No switch may be named
twice, and a minus sign must have one after it. -/
def readSwitches (on : Bool) (found : Switching) : List Char → Option (Switching × List Char)
  | [] => none
  | c :: rest =>
    if c = ':' || c = ')' then
      if !on && found.all (·.2) then none else some (found.reverse, c :: rest)
    else if c = '-' then
      if on then readSwitches false found rest else none
    else do
      let s ← switches.lookup c
      if found.any fun f => f.1 == s then none else readSwitches on ((s, on) :: found) rest

/-- Whether a character may stand in the name of a group. -/
def isNameChar (isFirst : Bool) (c : Char) : Bool :=
  c == '_' || (if isFirst then Unicode.isAlphabetic c
    else c == '.' || c == '[' || c == ']' || Unicode.isAlphanumeric c)

/-- Reads the name of a group up to the angle bracket that closes it. -/
def readName (cs : List Char) : Option (String × List Char) :=
  let name := cs.takeWhile (· != '>')
  match name, cs.dropWhile (· != '>') with
  | c :: rest, _ :: after =>
    if isNameChar true c && rest.all (isNameChar false) then some (String.ofList name, after)
    else none
  | _, _ => none

/-- What an opening bracket begins. -/
inductive Opening where
  | group (kind : GroupKind) (name : Option String)
  | switching (s : Switching)

/-- Reads what an opening bracket begins. Looking ahead or behind is not to be had. -/
def readGroup (x : Bool) (cs : List Char) : Option (Opening × List Char) :=
  let cs := advance x cs
  match cs with
  | '?' :: 'P' :: '<' :: rest => (readName rest).map fun r => (.group .capture (some r.1), r.2)
  | '?' :: '<' :: '=' :: _ => none
  | '?' :: '<' :: '!' :: _ => none
  | '?' :: '<' :: rest => (readName rest).map fun r => (.group .capture (some r.1), r.2)
  | '?' :: rest => do
    let (s, after) ← readSwitches true [] rest
    match after with
    | ':' :: after => some (.group (.plain s) none, after)
    | ')' :: after => if s.isEmpty then none else some (.switching s, after)
    | _ => none
  | _ => some (.group .capture none, cs)

/-- The position of the switch that ignores blanks after some switching. -/
def blanksAfter (s : Switching) (x : Bool) : Bool :=
  (s.lookup .ignoreBlanks).getD x

/-! ## Whole patterns -/

/-- A group that is being read, while one nested in it is: its parts and branches so far, last
first, the kind of the nested group, and whether blanks were ignored before that. -/
structure Frame where
  parts : List Expr
  branches : List Expr
  kind : GroupKind
  ignoreBlanks : Bool

/-- How far a pattern has been read: the parts and branches of the group at hand, last first, the
groups around it, whether blanks are ignored, and the names of groups. -/
structure State where
  parts : List Expr := []
  branches : List Expr := []
  stack : List Frame := []
  ignoreBlanks : Bool := false
  names : List String := []

namespace State

/-- Adds a part. -/
def push (s : State) (e : Expr) : State :=
  { s with parts := e :: s.parts }

/-- The expression for the group at hand. -/
def close (s : State) : Expr :=
  Expr.ofBranches (Expr.ofParts s.parts.reverse :: s.branches).reverse

/-- Repeats the last part. Switches, and nothing, cannot be repeated. -/
def repeatLast (s : State) (least : Nat) (most : Option Nat) : Option State :=
  match s.parts with
  | [] => none
  | .empty :: _ => none
  | .switching _ :: _ => none
  | e :: rest => some { s with parts := .repetition least most e :: rest }

/-- Begins a group, or applies switches. -/
def begin (s : State) : Opening → Option State
  | .switching sw =>
    some { s.push (.switching sw) with ignoreBlanks := blanksAfter sw s.ignoreBlanks }
  | .group kind name =>
    let known := match name with
      | some n => s.names.contains n
      | none => false
    let x := match kind with
      | .capture => s.ignoreBlanks
      | .plain sw => blanksAfter sw s.ignoreBlanks
    if known then none
    else some {
      parts := []
      branches := []
      stack := ⟨s.parts, s.branches, kind, s.ignoreBlanks⟩ :: s.stack
      ignoreBlanks := x
      names := name.toList ++ s.names }

/-- Ends the group at hand. -/
def finish (s : State) : Option State :=
  match s.stack with
  | [] => none
  | f :: stack =>
    some { s with
      parts := .group f.kind s.close :: f.parts
      branches := f.branches
      stack := stack
      ignoreBlanks := f.ignoreBlanks }

end State

/-- Reads one part of a pattern or one sign. -/
def step (s : State) (cs : List Char) : Option (State × List Char) :=
  match cs with
  | [] => none
  | c :: rest =>
    if c = '(' then do
      let (o, after) ← readGroup s.ignoreBlanks cs
      (s.begin o).map fun t => (t, after)
    else if c = ')' then s.finish.map fun t => (t, rest)
    else if c = '|' then
      some ({ s with parts := [], branches := Expr.ofParts s.parts.reverse :: s.branches }, rest)
    else if c = '[' then (readSet s.ignoreBlanks cs).map fun r => (s.push r.1, r.2)
    else if c = '?' then (s.repeatLast 0 (some 1)).map fun t => (t, dropLazy rest)
    else if c = '*' then (s.repeatLast 0 none).map fun t => (t, dropLazy rest)
    else if c = '+' then (s.repeatLast 1 none).map fun t => (t, dropLazy rest)
    else if c = '\x7b' then do
      let ((least, most), after) ← readCounts s.ignoreBlanks cs
      (s.repeatLast least most).map fun t => (t, after)
    else if c = '\\' then
      (readEscape s.ignoreBlanks rest).map fun r => (s.push (.atom r.1), r.2)
    else if c = '.' then some (s.push (.atom .dot), rest)
    else if c = '^' then some (s.push (.atom (.look .lineStart)), rest)
    else if c = '$' then some (s.push (.atom (.look .lineEnd)), rest)
    else some (s.push (.atom (.literal ⟨c, false⟩)), rest)

/-- Reads the rest of a pattern; the number bounds the steps. -/
def readFrom : Nat → State → List Char → Option Expr
  | 0, _, _ => none
  | n + 1, s, cs =>
    match skip s.ignoreBlanks cs with
    | [] => if s.stack.isEmpty then some s.close else none
    | cs => (step s cs).bind fun r => readFrom n r.1 r.2

/-- How deep a pattern may be nested. -/
def maxDepth : Nat := 250

/-- Reads a pattern. -/
def read (text : String) : Option Expr :=
  let cs := text.toList
  (readFrom (cs.length + 1) {} cs).bind fun e => if e.depth ≤ maxDepth then some e else none

end BluetoothDirectory.Pattern.Reader
