import BluetoothDirectory.Pattern.Reader
import BluetoothDirectory.Pattern.Search
import BluetoothDirectory.Pattern.Size

/-!
# Patterns

Patterns select devices by the path of their adapter. A text is compiled once, which fails if it
is no pattern or too large, and the compiled pattern is then looked for in paths.
-/

namespace BluetoothDirectory

/-- A compiled pattern. -/
structure Pattern where
  node : Pattern.Node

namespace Pattern

/-- Compiles the text of a pattern, if it is one of acceptable size. -/
def compile? (text : String) : Option Pattern := do
  let e ← Reader.read text
  let (n, _) ← e.node? {}
  if n.fits then some ⟨n⟩ else none

/-- Whether the pattern matches some stretch of a text. -/
def isMatch (p : Pattern) (text : String) : Bool :=
  p.node.isFoundIn text.toList

end Pattern

end BluetoothDirectory
