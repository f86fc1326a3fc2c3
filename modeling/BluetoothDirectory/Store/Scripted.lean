import BluetoothDirectory.Store

/-!
# A store that follows a script

A store in memory that keeps a log of the calls that reach it, and can be told how to answer the
next ones: late, with an error, or with a value of the script's own. Each reply of the script is
used for one call, in order; without one the store answers by itself. A reply other than a value
leaves the store as it is.
-/

namespace BluetoothDirectory.Store

/-- How a call is to be answered. -/
inductive Script where
  /-- No answer in time. -/
  | late
  /-- The service refuses. -/
  | refuse (name message : String)
  /-- The answer has no proper shape. -/
  | garble (text : String)
  /-- Reading a property, or a method, yields a value; all else goes on as usual. -/
  | value (v : Variant)

/-- A store with the replies still in the script and the calls so far, last first. -/
structure Scripted where
  store : Store
  script : List Script := []
  calls : List Call := []

namespace Scripted

/-- How a request is named when no answer comes in time. -/
def title : Request → String
  | .managedObjects _ => "GetManagedObjects"
  | .get path interface property => "Get " ++ path ++ " " ++ Error.propertyName interface property
  | .getAll path interface => "GetAll " ++ path ++ " " ++ interface
  | .set path interface property _ =>
    "Set " ++ path ++ " " ++ Error.propertyName interface property
  | .method path interface member _ => interface ++ "." ++ member ++ " " ++ path

/-- Answers a request with a value from the script, where it yields one. -/
def answerWith (s : Store) (v : Variant) : (r : Request) → Except Error r.Reply × Store
  | .get .. => (.ok v, s)
  | .method .. => (.ok (some v), s)
  | r => s.answer r

/-- Answers a request as the script says. -/
def follow (s : Store) (timeout : Option Duration) (r : Request) :
    Option Script → Except Error r.Reply × Store
  | none => s.answer r
  | some .late => (.error (.timeout (title r) (timeout.getD .zero)), s)
  | some (.refuse name message) => (.error (.remote name message), s)
  | some (.garble text) => (.error (.malformedReply text), s)
  | some (.value v) => answerWith s v r

/-- A scripted store as a remote. -/
def remote : Remote Scripted where
  answer c s :=
    let answered := follow s.store c.timeout c.request s.script.head?
    (answered.1, { store := answered.2, script := s.script.tail, calls := c :: s.calls })

/-- Puts a reply at the end of the script. -/
def queue (s : Scripted) (reply : Script) : Scripted :=
  { s with script := s.script ++ [reply] }

end Scripted

end BluetoothDirectory.Store
