import BluetoothDirectory.Message.Reply
import BluetoothDirectory.Proofs.OneCall

/-!
# Messages handed to the bus

A peer that writes down what is handed to it shows which messages an operation sends. They are those
of the calls that the operation asks (`messagesTo_eq`): a call sends its message, or nothing where
it has none. What the bus makes of a message is not looked at here.
-/

namespace BluetoothDirectory

namespace Call

variable {c : Call} {m : Message}

/-- The message that a call sends, if it sends one. -/
def sent (c : Call) : List Message :=
  match c.message with
  | .ok m => [m]
  | .error _ => []

theorem sent_of_message (hm : c.message = .ok m) : c.sent = [m] := by
  simp only [sent, hm]

theorem sent_of_error {e : Error} (hm : c.message = .error e) : c.sent = [] := by
  simp only [sent, hm]

end Call

/-! ## A peer that keeps a log -/

/-- A peer that writes down the messages that are handed to it, in their order. -/
def Peer.logging {σ : Type} (p : Peer σ) : Peer (σ × List Message) where
  deliver m s := ((p.deliver m s.1).1, (p.deliver m s.1).2, s.2 ++ [m])

variable {α σ : Type} {p : Peer σ}

/-- The log grows by what a call sends, and makes no difference to its answer. -/
theorem Peer.answer_logging (p : Peer σ) (c : Call) (s : σ) (log : List Message) :
    p.logging.remote.answer c (s, log) =
      ((p.remote.answer c s).1, (p.remote.answer c s).2, log ++ c.sent) := by
  cases hm : c.message with
  | error e => simp only [Peer.remote, hm, Call.sent_of_error hm, List.append_nil]
  | ok m => simp only [Peer.remote, Peer.logging, hm, Call.sent_of_message hm]

/-- The log grows by what the calls of a program send, and makes no difference to it. -/
theorem Exchange.run_logging_peer (p : Peer σ) (x : Exchange α) (s : σ) (log : List Message) :
    x.run p.logging.remote (s, log) =
      ((x.run p.remote s).1, (x.run p.remote s).2,
        log ++ (x.calls p.remote s).flatMap Call.sent) := by
  induction x generalizing s log with
  | done a => simp only [run, calls, List.flatMap_nil, List.append_nil]
  | ask c next ih =>
      simp only [run, calls, Peer.answer_logging, ih, List.flatMap_cons, List.append_assoc]

namespace Operation

/-- The messages of an operation that are handed to the bus, in their order. -/
def messagesTo (p : Peer σ) (op : Operation α) (s : σ) : List Message :=
  (op.runOn p.logging.remote (s, [])).2.2

/-- The messages of an operation are those of its calls. -/
theorem messagesTo_eq (op : Operation α) (s : σ) :
    op.messagesTo p s = (op.callsOn p.remote s).flatMap Call.sent := by
  unfold messagesTo runOn
  rw [Exchange.run_logging_peer]
  exact List.nil_append _

theorem messagesTo_once (c : Call) (use : c.Reply → Except Error α) (s : σ) :
    (once c use).messagesTo p s = c.sent := by
  rw [messagesTo_eq, callsOn_once, List.flatMap_singleton]

/-- A call without a message fails for the reason why there is none, and the other end is as
before. -/
theorem runOn_once_of_error {c : Call} {e : Error} (hm : c.message = .error e)
    (use : c.Reply → Except Error α) (s : σ) :
    (once c use).runOn p.remote s = (.error e, s) := by
  simp only [runOn_once, Peer.remote, hm]
  rfl

end Operation

end BluetoothDirectory
