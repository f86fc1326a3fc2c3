import BluetoothDirectory.ObjectTree

/-!
# Exchanges with a service

What can be asked of a service is a closed set of requests, each with its type of reply. An
exchange is a program that asks some calls and then has a result; what answers the calls is left
open, so one exchange can be run against any remote. An operation is an exchange that may fail.
-/

namespace BluetoothDirectory

/-- What can be asked of a service. -/
inductive Request where
  /-- List the objects below a root. -/
  | managedObjects (root : String)
  /-- Read one property. -/
  | get (path interface property : String)
  /-- Read all properties of an interface. -/
  | getAll (path interface : String)
  /-- Write one property. -/
  | set (path interface property : String) (value : Variant)
  /-- Invoke a method. -/
  | method (path interface member : String) (arguments : List Variant)

/-- The type of the reply to a request. -/
abbrev Request.Reply : Request → Type
  | .managedObjects _ => ManagedObjects
  | .get .. => Variant
  | .getAll .. => Snapshot
  | .set .. => Unit
  | .method .. => Option Variant

/-- A request to a service, with the time that an answer may take. -/
structure Call where
  service : String
  timeout : Option Duration
  request : Request

/-- The type of the reply to a call. -/
abbrev Call.Reply (c : Call) : Type := c.request.Reply

/-- A program that asks calls, one after another, and has a result. Each call is answered by a
reply or an error, and the program goes on from either. -/
inductive Exchange (α : Type) where
  | done (result : α)
  | ask (call : Call) (next : Except Error call.Reply → Exchange α)

namespace Exchange

variable {α β γ σ : Type}

/-- Goes on with a second program from the result of the first. -/
def bind : Exchange α → (α → Exchange β) → Exchange β
  | done a, f => f a
  | ask c next, f => ask c fun r => (next r).bind f

instance : Monad Exchange where
  pure := done
  bind := bind

@[simp] theorem pure_bind (a : α) (f : α → Exchange β) : (pure a >>= f) = f a := rfl

theorem bind_done (x : Exchange α) : x.bind done = x := by
  induction x with
  | done a => rfl
  | ask c next ih => exact congrArg (ask c) (funext ih)

theorem bind_assoc (x : Exchange α) (f : α → Exchange β) (g : β → Exchange γ) :
    (x.bind f).bind g = x.bind fun a => (f a).bind g := by
  induction x with
  | done a => rfl
  | ask c next ih => exact congrArg (ask c) (funext ih)

end Exchange

/-- Something that answers calls, keeping a state from call to call. -/
structure Remote (σ : Type) where
  answer : (call : Call) → σ → Except Error call.Reply × σ

namespace Exchange

variable {α β σ : Type}

/-- Runs a program against a remote, from a state to the state after the last call. -/
def run (remote : Remote σ) : Exchange α → σ → α × σ
  | done a, s => (a, s)
  | ask c next, s =>
    let answered := remote.answer c s
    (next answered.1).run remote answered.2

@[simp] theorem run_done (remote : Remote σ) (a : α) (s : σ) :
    (done a).run remote s = (a, s) := rfl

theorem run_bind (remote : Remote σ) (x : Exchange α) (f : α → Exchange β) (s : σ) :
    (x.bind f).run remote s = (f (x.run remote s).1).run remote (x.run remote s).2 := by
  induction x generalizing s with
  | done a => rfl
  | ask c next ih => exact ih _ _

end Exchange

/-- A program that may fail. -/
abbrev Operation (α : Type) := ExceptT Error Exchange α

namespace Operation

variable {α σ : Type}

/-- Asks one call; its reply is the result and its error the failure. -/
def ask (c : Call) : Operation c.Reply :=
  ExceptT.mk (.ask c .done)

/-- A result, or a failure, without any call. -/
def ofExcept (r : Except Error α) : Operation α :=
  ExceptT.mk (.done r)

/-- Runs an operation against a remote. -/
def runOn (remote : Remote σ) (op : Operation α) (s : σ) : Except Error α × σ :=
  Exchange.run remote (ExceptT.run op) s

end Operation

end BluetoothDirectory
