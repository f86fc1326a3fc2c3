import BluetoothDirectory.Proofs.Classification
import BluetoothDirectory.Proofs.Deed
import BluetoothDirectory.Proofs.Flattening
import BluetoothDirectory.Proofs.Traffic

/-!
# The table of methods

Three places name the methods of adapters and devices: the proxies, which invoke them, the table of
methods that have messages, and the messages themselves. `Message.Row` says which messages there
are, one row for each method, and `Peer.method_table_exact` that the three agree: an action sends
the message of its own row, and a call outside of the table sends nothing.
-/

namespace BluetoothDirectory

/-- A row of the table: a method, its arguments, and the values in its message. -/
inductive Message.Row : String → String → List Variant → List Wire.Value → Prop
  | removeDevice (device : ObjectPath) :
      Row Interface.adapter "RemoveDevice" [.objectPath device] [.objectPath device]
  | startDiscovery : Row Interface.adapter "StartDiscovery" [] []
  | stopDiscovery : Row Interface.adapter "StopDiscovery" [] []
  | cancelPairing : Row Interface.device "CancelPairing" [] []
  | connect : Row Interface.device "Connect" [] []
  | connectProfile (uuid : String) :
      Row Interface.device "ConnectProfile" [.text uuid] [.text uuid]
  | disconnect : Row Interface.device "Disconnect" [] []
  | disconnectProfile (uuid : String) :
      Row Interface.device "DisconnectProfile" [.text uuid] [.text uuid]
  | pair : Row Interface.device "Pair" [] []

/-! ## Rows and requests -/

namespace Message

variable {interface member : String} {arguments : List Variant} {body : List Wire.Value}

theorem exists_of_kinds_objectPath (h : arguments.map Variant.kind = [.objectPath]) :
    ∃ p, arguments = [.objectPath p] := by
  obtain ⟨v, rfl, hkind⟩ := List.map_eq_singleton_iff.mp h
  cases v with
  | objectPath p => exact ⟨p, rfl⟩
  | _ => cases hkind

theorem exists_of_kinds_text (h : arguments.map Variant.kind = [.text]) :
    ∃ t, arguments = [.text t] := by
  obtain ⟨v, rfl, hkind⟩ := List.map_eq_singleton_iff.mp h
  cases v with
  | text t => exact ⟨t, rfl⟩
  | _ => cases hkind

/-- The methods that have messages are those with a row. -/
theorem mem_methods_iff :
    (interface, member, arguments.map Variant.kind) ∈ methods ↔
      ∃ body, Row interface member arguments body := by
  constructor
  · intro h
    simp only [methods, List.mem_cons, Prod.mk.injEq, List.not_mem_nil, or_false,
      List.map_eq_nil_iff] at h
    rcases h with ⟨rfl, rfl, h⟩ | ⟨rfl, rfl, rfl⟩ | ⟨rfl, rfl, rfl⟩ | ⟨rfl, rfl, rfl⟩ |
      ⟨rfl, rfl, rfl⟩ | ⟨rfl, rfl, h⟩ | ⟨rfl, rfl, rfl⟩ | ⟨rfl, rfl, h⟩ | ⟨rfl, rfl, rfl⟩
    · obtain ⟨device, rfl⟩ := exists_of_kinds_objectPath h
      exact ⟨_, .removeDevice device⟩
    · exact ⟨_, .startDiscovery⟩
    · exact ⟨_, .stopDiscovery⟩
    · exact ⟨_, .cancelPairing⟩
    · exact ⟨_, .connect⟩
    · obtain ⟨uuid, rfl⟩ := exists_of_kinds_text h
      exact ⟨_, .connectProfile uuid⟩
    · exact ⟨_, .disconnect⟩
    · obtain ⟨uuid, rfl⟩ := exists_of_kinds_text h
      exact ⟨_, .disconnectProfile uuid⟩
    · exact ⟨_, .pair⟩
  · rintro ⟨body, h⟩
    cases h <;> simp [methods, Variant.kind]

/-- A message carries its arguments as they are. -/
theorem Row.mapM_eq (h : Row interface member arguments body) :
    arguments.mapM Wire.ofVariant? = some body := by
  cases h <;> rfl

theorem Row.content_eq (h : Row interface member arguments body) (path : String) :
    (Request.method path interface member arguments).content = .ok (interface, member, body) := by
  simp only [Request.content, if_pos (mem_methods_iff.mpr ⟨body, h⟩), h.mapM_eq]

theorem content_of_not_row (h : ∀ body, ¬ Row interface member arguments body) (path : String) :
    (Request.method path interface member arguments).content =
      .error (Request.unknownMethod interface member arguments) := by
  have hnot : (interface, member, arguments.map Variant.kind) ∉ methods :=
    fun hmem => (mem_methods_iff.mp hmem).elim h
  simp only [Request.content, if_neg hnot]

end Message

/-! ## Operations that send one message -/

/-- An operation sends one message and has a result where the message is accepted. It is never
refused for its arguments. -/
structure Operation.Delivers {σ α : Type} (p : Peer σ) (s : σ) (op : Operation α) (m : Message)
    (result : α) : Prop where
  sent : op.messagesTo p s = [m]
  supported : ∀ text, (op.runOn p.remote s).1 ≠ .error (.unsupportedArguments text)
  accepted : (p.deliver m s).1 = .reply [] →
    op.runOn p.remote s = (.ok result, (p.deliver m s).2)

section Delivery

variable {α σ : Type} (p : Peer σ) (s : σ) {service path interface member : String}
  {arguments : List Variant} {body : List Wire.Value} (timeout : Option Duration)

/-- A method call with a row is sent to a valid name and path. -/
theorem Message.Row.delivers (h : Message.Row interface member arguments body)
    (hservice : BusName.isService service = true) (hpath : ObjectPath.isValid path.toList = true)
    (use : Option Variant → α) :
    (Operation.once ⟨service, timeout, .method path interface member arguments⟩
      fun reply => .ok (use reply)).Delivers p s ⟨service, path, interface, member, body⟩
        (use none) := by
  have hm : Call.message ⟨service, timeout, .method path interface member arguments⟩ =
      .ok ⟨service, path, interface, member, body⟩ := by
    simp [Call.message, h.content_eq, Call.require, hservice, Request.path, hpath,
      Request.namedInterface?, bind, Except.bind, pure, Except.pure]
  refine ⟨?_, ?_, ?_⟩
  · rw [Operation.messagesTo_once, Call.sent_of_message hm]
  · intro text hrun
    rw [Operation.runOn_once] at hrun
    rcases bind_eq_error_iff.mp hrun with hanswer | ⟨reply, -, huse⟩
    · exact p.answer_ne_unsupportedArguments s hm text hanswer
    · cases huse
  · intro haccepted
    rw [Operation.runOn_once, Peer.remote_answer s hm, haccepted]
    rfl

/-- A method call without a row sends nothing, and its error tells the kinds of its arguments. -/
theorem Message.unsent_of_not_row (h : ∀ body, ¬ Message.Row interface member arguments body) :
    (Operation.ask ⟨service, timeout, .method path interface member arguments⟩).messagesTo p s =
        [] ∧
      (Operation.ask ⟨service, timeout, .method path interface member arguments⟩).runOn
        p.remote s = (.error (Request.unknownMethod interface member arguments), s) := by
  have hm : Call.message ⟨service, timeout, .method path interface member arguments⟩ =
      .error (Request.unknownMethod interface member arguments) := by
    simp only [Call.message, Message.content_of_not_row h, bind, Except.bind]
  rw [Operation.ask_eq_once, Operation.messagesTo_once, Call.sent_of_error hm]
  exact ⟨rfl, Operation.runOn_once_of_error hm _ s⟩

end Delivery

/-! ## Actions of the proxies -/

/-- An action of a proxy, with the member and the values of the message that it is to send. -/
structure Action where
  operation : Operation Unit
  member : String
  body : List Wire.Value

/-- The actions of an adapter. -/
def Adapter.actions (a : Adapter) (device : ObjectPath) : List Action :=
  [⟨a.removeDevice device, "RemoveDevice", [.objectPath device]⟩,
   ⟨a.startDiscovery, "StartDiscovery", []⟩,
   ⟨a.stopDiscovery, "StopDiscovery", []⟩]

/-- The actions of a device, for a profile that is read as an identifier. -/
def Device.actions (v : Device) (profile : String) (uuid : Uuid) : List Action :=
  [⟨v.cancelPairing, "CancelPairing", []⟩,
   ⟨v.connect, "Connect", []⟩,
   ⟨v.connectProfile profile, "ConnectProfile", [.text uuid.text]⟩,
   ⟨v.disconnect, "Disconnect", []⟩,
   ⟨v.disconnectProfile profile, "DisconnectProfile", [.text uuid.text]⟩,
   ⟨v.pair, "Pair", []⟩]

/-- Connecting and disconnecting a profile invokes the method with the identifier in the form in
which identifiers are sent. -/
theorem Device.act_profile {profile : String} {uuid : Uuid}
    (h : Uuid.ofString? profile = some uuid) (v : Device) (member : String) :
    (Operation.ofExcept (Device.profile profile) >>= fun u => v.act member [.text u]) =
      v.act member [.text uuid.text] := by
  simp only [Operation.ofExcept_bind, Device.profile, h]

section Actions

variable {σ : Type} (p : Peer σ) (s : σ)

/-- Invoking a method with a row sends its message, whatever proxy it is for. -/
theorem PropertyAccess.invoke_delivers {a : PropertyAccess} {interface member : String}
    {arguments : List Variant} {body : List Wire.Value}
    (h : Message.Row interface member arguments body)
    (hservice : BusName.isService a.service = true) :
    (do let _ ← a.invoke interface member arguments : Operation Unit).Delivers p s
      ⟨a.service, a.path.text, interface, member, body⟩ () := by
  show (Operation.ask _ >>= fun _ => Operation.ofExcept (.ok ())).Delivers p s _ _
  rw [Operation.ask_eq_once, Operation.once_bind_ofExcept]
  exact h.delivers p s a.timeout hservice a.path.valid fun _ => ()

/-- Each action of an adapter sends the message of its own row. -/
theorem Adapter.actions_delivered {a : Adapter}
    (hservice : BusName.isService a.properties.service = true) (device : ObjectPath) :
    ∀ act ∈ a.actions device, act.operation.Delivers p s
      ⟨a.properties.service, a.path.text, Interface.adapter, act.member, act.body⟩ () := by
  simp only [actions, List.forall_mem_cons, List.not_mem_nil, false_implies, implies_true,
    and_true]
  exact ⟨PropertyAccess.invoke_delivers p s (.removeDevice device) hservice,
    PropertyAccess.invoke_delivers p s .startDiscovery hservice,
    PropertyAccess.invoke_delivers p s .stopDiscovery hservice⟩

/-- Each action of a device sends the message of its own row. -/
theorem Device.actions_delivered {v : Device}
    (hservice : BusName.isService v.properties.service = true) {profile : String} {uuid : Uuid}
    (hprofile : Uuid.ofString? profile = some uuid) :
    ∀ act ∈ v.actions profile uuid, act.operation.Delivers p s
      ⟨v.properties.service, v.path.text, Interface.device, act.member, act.body⟩ () := by
  simp only [actions, connectProfile, disconnectProfile, Device.act_profile hprofile,
    List.forall_mem_cons, List.not_mem_nil, false_implies, implies_true, and_true]
  exact ⟨PropertyAccess.invoke_delivers p s .cancelPairing hservice,
    PropertyAccess.invoke_delivers p s .connect hservice,
    PropertyAccess.invoke_delivers p s (.connectProfile uuid.text) hservice,
    PropertyAccess.invoke_delivers p s .disconnect hservice,
    PropertyAccess.invoke_delivers p s (.disconnectProfile uuid.text) hservice,
    PropertyAccess.invoke_delivers p s .pair hservice⟩

/-- **The proxies and the table of methods agree.** Every action of a proxy with a valid service
sends exactly the message of its method, to its own path and with the arguments asked for. Of all
method calls whatever, those with a row send its message and answer nothing where it is accepted,
and all others send nothing: they are refused with the kinds of their arguments, be the service and
the path valid or not. -/
theorem Peer.method_table_exact :
    (∀ (a : Adapter) (device : ObjectPath), BusName.isService a.properties.service = true →
      ∀ act ∈ a.actions device, act.operation.Delivers p s
        ⟨a.properties.service, a.path.text, Interface.adapter, act.member, act.body⟩ ()) ∧
    (∀ (v : Device) (profile : String) (uuid : Uuid),
      BusName.isService v.properties.service = true → Uuid.ofString? profile = some uuid →
        ∀ act ∈ v.actions profile uuid, act.operation.Delivers p s
          ⟨v.properties.service, v.path.text, Interface.device, act.member, act.body⟩ ()) ∧
    ∀ (service path interface member : String) (timeout : Option Duration)
      (arguments : List Variant),
      (∀ body, Message.Row interface member arguments body →
        BusName.isService service = true → ObjectPath.isValid path.toList = true →
          (Operation.ask ⟨service, timeout, .method path interface member arguments⟩).Delivers p s
            ⟨service, path, interface, member, body⟩ none) ∧
      ((∀ body, ¬ Message.Row interface member arguments body) →
        (Operation.ask ⟨service, timeout, .method path interface member arguments⟩).messagesTo p s
            = [] ∧
          (Operation.ask ⟨service, timeout, .method path interface member arguments⟩).runOn
              p.remote s =
            (.error (.unsupportedArguments (interface ++ "." ++ member ++ "(" ++
              ", ".intercalate (arguments.map fun v => v.kind.signature) ++ ")")), s)) := by
  refine ⟨fun a device hservice => Adapter.actions_delivered p s hservice device,
    fun v profile uuid hservice hprofile => Device.actions_delivered p s hservice hprofile,
    fun service path interface member timeout arguments =>
      ⟨fun body hrow hservice hpath => ?_, Message.unsent_of_not_row p s timeout⟩⟩
  rw [Operation.ask_eq_once]
  exact hrow.delivers p s timeout hservice hpath id

end Actions

end BluetoothDirectory
