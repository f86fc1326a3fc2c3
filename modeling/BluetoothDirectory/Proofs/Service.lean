import BluetoothDirectory.Proofs.Encoding
import BluetoothDirectory.Proofs.Failure
import BluetoothDirectory.Proofs.Listing

/-!
# Services on the bus

A service that keeps a content: what it is assumed to reply to the messages of the standard
interfaces. Against such a service a call over the bus and the same call to a store that mirrors the
content have the same outcome, and afterwards the store mirrors what the service keeps then. The
text that comes with a refusal is the service's own.
-/

namespace BluetoothDirectory

/-- The message that asks for all objects. -/
def Message.listing (destination root : String) : Message :=
  ⟨destination, root, Interface.objectManager, "GetManagedObjects", []⟩

/-- A message about the properties of an object. -/
def Message.properties (destination : String) (path : ObjectPath) (member : String)
    (body : List Wire.Value) : Message :=
  ⟨destination, path.text, Interface.properties, member, body⟩

/-- No text in the message has a zero character. -/
def Message.Plain (m : Message) : Prop :=
  Wire.Value.AllPlain m.body

namespace Peer

open Scripted (listing propertyEntries)

/-- The members of the standard interface for properties, with what follows the name of the
interface. -/
inductive Access : String → List Wire.Value → Prop
  | get (name : String) : Access "Get" [.text name]
  | getAll : Access "GetAll" []
  | set (name : String) (value : Wire.Value) : Access "Set" [.text name, .variant value]

/-- What comes of a message in a state, and what the peer keeps then. Nothing is said of a message
with a zero character in a text, which texts on the bus cannot hold. -/
def Answers {σ : Type} (p : Peer σ) (content : σ → Wire.Content) (s : σ) (m : Message)
    (outcome : Outcome) (after : Wire.Content) : Prop :=
  m.Plain → (p.deliver m s).1 = outcome ∧ content (p.deliver m s).2 = after

/-- A peer that keeps a content, under whatever name it is addressed. It lists the objects in any
order and answers readings from them, also in any order; it keeps what is written to an interface
that is there; and it refuses what concerns an object or interface that is not there, with one of
the given texts. -/
structure Keeps {σ : Type} (p : Peer σ) (content : σ → Wire.Content)
    (texts : ObjectPath → Option String → Prop) : Prop where
  named : ∀ s, (content s).Named
  listing : ∀ s destination root, ∃ objects, (content s).ListedBy objects ∧
    p.Answers content s (.listing destination root) (.reply [listing objects]) (content s)
  get : ∀ s destination path interface name props value,
    (content s).properties? path interface = some props → props name = some value →
    p.Answers content s (.properties destination path "Get" [.text interface, .text name])
      (.reply [.variant value]) (content s)
  getMissing : ∀ s destination path interface name props,
    (content s).properties? path interface = some props → props name = none →
    ∃ error ∈ StandardFailure.missingProperty, ∃ body,
      p.Answers content s (.properties destination path "Get" [.text interface, .text name])
        (.refusal error body) (content s)
  getAll : ∀ s destination path interface props,
    (content s).properties? path interface = some props →
    ∃ entries, Lists Eq entries props ∧
      p.Answers content s (.properties destination path "GetAll" [.text interface])
        (.reply [.dict .text .variant (propertyEntries entries)]) (content s)
  set : ∀ s destination path interface name value props,
    (content s).properties? path interface = some props →
    p.Answers content s
      (.properties destination path "Set" [.text interface, .text name, .variant value])
      (.reply []) ((content s).set path interface name value)
  unknown : ∀ s destination path interface member arguments,
    (content s).properties? path interface = none → Access member arguments →
    ∃ body, texts path (Outcome.refusalText? body) ∧
      p.Answers content s (.properties destination path member (.text interface :: arguments))
        (.refusal (StandardFailure.namespaceText ++ "UnknownObject") body) (content s)

end Peer

/-- A result in memory and the one over the bus agree: they are the same, or both say that there is
no such object, the latter with a text of the service. -/
def Agree {α : Type} (texts : ObjectPath → Option String → Prop) (r r' : Except Error α) : Prop :=
  r = r' ∨ ∃ path text, texts path text ∧ r = .error (Store.unknownObject path.text) ∧
    r' = .error (.remote (StandardFailure.namespaceText ++ "UnknownObject") (text.getD ""))

theorem Agree.bind {α β : Type} {texts : ObjectPath → Option String → Prop}
    {r r' : Except Error α} (h : Agree texts r r') (use : α → Except Error β) :
    Agree texts (r >>= use) (r' >>= use) := by
  rcases h with rfl | ⟨path, text, htext, rfl, rfl⟩
  · exact .inl rfl
  · exact .inr ⟨path, text, htext, rfl, rfl⟩

/-- Where the service uses the store's text, results that agree are the same. -/
theorem Agree.eq {α : Type} {texts : ObjectPath → Option String → Prop} {r r' : Except Error α}
    (h : Agree texts r r')
    (htexts : ∀ path text, texts path text → text = some ("no object at " ++ path.text)) :
    r = r' := by
  rcases h with rfl | ⟨path, text, htext, rfl, rfl⟩
  · rfl
  · rw [htexts path text htext]
    rfl

/-! ## Sending a call -/

theorem Call.message_listing {service root : String} (timeout : Option Duration)
    (hservice : BusName.isService service = true)
    (hroot : ObjectPath.isValid root.toList = true) :
    Call.message ⟨service, timeout, .managedObjects root⟩ = .ok (.listing service root) := by
  simp [Call.message, Request.content, Request.path, Request.namedInterface?, Call.require,
    hservice, hroot, Message.listing, bind, Except.bind, pure, Except.pure]

/-- The message of a request to the standard interface for properties. -/
theorem Call.message_properties {service interface member : String} {r : Request}
    {path : ObjectPath} {body : List Wire.Value} (timeout : Option Duration)
    (hservice : BusName.isService service = true)
    (hinterface : BusName.isInterface interface = true)
    (hcontent : r.content = .ok (Interface.properties, member, body))
    (hpath : r.path = path.text) (hnamed : r.namedInterface? = some interface) :
    Call.message ⟨service, timeout, r⟩ = .ok (.properties service path member body) := by
  simp [Call.message, hcontent, hpath, hnamed, Call.require, hservice, hinterface, path.valid,
    Message.properties, bind, Except.bind, pure, Except.pure]

theorem Message.plain_properties {interface : String} {arguments : List Wire.Value}
    (hinterface : BusName.isInterface interface = true)
    (harguments : Wire.Value.AllPlain arguments) (service : String) (path : ObjectPath)
    (member : String) :
    (Message.properties service path member (.text interface :: arguments)).Plain :=
  ⟨BusName.plain_of_isInterface hinterface, harguments⟩

/-- A call with a message has the outcome of that message. -/
theorem Peer.remote_answer {σ : Type} {p : Peer σ} {c : Call} {m : Message} (s : σ)
    (hm : c.message = .ok m) :
    p.remote.answer c s = (c.conclude (p.deliver m s).1, (p.deliver m s).2) := by
  simp only [Peer.remote, hm]

/-! ## Refusals -/

/-- A refusal of what is not there is reported as such. -/
theorem Request.refusalError_unknownObject (r : Request) (message : Option String) :
    r.refusalError (StandardFailure.namespaceText ++ "UnknownObject") message =
      .remote (StandardFailure.namespaceText ++ "UnknownObject") (message.getD "") :=
  refusalError_eq_remote message fun _ _ _ _ => by decide

/-! ## One call -/

/-- A call to a store that mirrors the content and the same call over the bus agree, and the store
mirrors the content again. -/
def Peer.AgreesOn {σ : Type} (p : Peer σ) (content : σ → Wire.Content)
    (texts : ObjectPath → Option String → Prop) (c : Call) : Prop :=
  ∀ store s, Store.Mirrors store (content s) →
    Agree texts (store.answer c.request).1 (p.remote.answer c s).1 ∧
      (store.answer c.request).2.Mirrors (content (p.remote.answer c s).2)

namespace Peer.Keeps

variable {σ : Type} {p : Peer σ} {content : σ → Wire.Content}
  {texts : ObjectPath → Option String → Prop}

theorem agreesOn_listing (hp : p.Keeps content texts) {service root : String}
    (timeout : Option Duration) (hservice : BusName.isService service = true)
    (hroot : ObjectPath.isValid root.toList = true) :
    p.AgreesOn content texts ⟨service, timeout, .managedObjects root⟩ := by
  intro store s hstore
  obtain ⟨objects, hlisted, hanswers⟩ := hp.listing s service root
  obtain ⟨hreply, hafter⟩ := hanswers trivial
  -- in whichever order the objects are listed, there is one store that mirrors them
  have hobjects : Wire.decodeObjects objects = store.objects :=
    congrArg Store.objects ((Wire.mirrors_decodeObjects hlisted).unique hstore)
  rw [Peer.remote_answer s (Call.message_listing timeout hservice hroot), hreply, hafter]
  refine ⟨.inl ?_, hstore⟩
  simp only [Store.answer, Call.conclude, Wire.managedObjects?_listing (hlisted.named (hp.named s)),
    hobjects]

/-- What is asked of an object or interface that is not there is refused on both sides. -/
theorem agrees_unknown (hp : p.Keeps content texts) {service : String} {timeout : Option Duration}
    {r : Request} {path : ObjectPath} {interface member : String} {arguments : List Wire.Value}
    {s : σ} {store : Store} (hstore : store.Mirrors (content s))
    (hmissing : (content s).properties? path interface = none) (haccess : Access member arguments)
    (hmessage : Call.message ⟨service, timeout, r⟩ =
      .ok (.properties service path member (.text interface :: arguments)))
    (hplain : (Message.properties service path member (.text interface :: arguments)).Plain)
    (hanswer : store.answer r = (.error (Store.unknownObject path.text), store)) :
    Agree texts (store.answer r).1 (p.remote.answer ⟨service, timeout, r⟩ s).1 ∧
      (store.answer r).2.Mirrors (content (p.remote.answer ⟨service, timeout, r⟩ s).2) := by
  obtain ⟨body, htext, hanswers⟩ :=
    hp.unknown s service path interface member arguments hmissing haccess
  obtain ⟨hrefusal, hafter⟩ := hanswers hplain
  rw [Peer.remote_answer s hmessage, hanswer, hrefusal, hafter]
  refine ⟨.inr ⟨path, _, htext, rfl, ?_⟩, hstore⟩
  simp only [Call.conclude, Request.refusalError_unknownObject]

theorem agreesOn_get (hp : p.Keeps content texts) {service : String} (timeout : Option Duration)
    (hservice : BusName.isService service = true) (path : ObjectPath) {interface name : String}
    (hinterface : BusName.isInterface interface = true) (hname : Text.Plain name) :
    p.AgreesOn content texts ⟨service, timeout, .get path.text interface name⟩ := by
  intro store s hstore
  have hmessage : Call.message ⟨service, timeout, .get path.text interface name⟩ =
      .ok (.properties service path "Get" [.text interface, .text name]) :=
    Call.message_properties timeout hservice hinterface rfl rfl rfl
  have harguments : Wire.Value.AllPlain [.text name] := ⟨hname, trivial⟩
  have hplain := Message.plain_properties hinterface harguments service path "Get"
  rcases hstore.properties?_cases path interface with ⟨hs, hc⟩ | ⟨snapshot, props, hs, hc, hprops⟩
  · refine hp.agrees_unknown hstore hc (.get name) hmessage hplain ?_
    simp only [Store.answer, hs]
  · have hvalue := hprops.get? name
    cases hv : props name with
    | none =>
        obtain ⟨error, herror, body, hanswers⟩ :=
          hp.getMissing s service path interface name props hc hv
        obtain ⟨hrefusal, hafter⟩ := hanswers hplain
        rw [Peer.remote_answer s hmessage, hrefusal, hafter]
        rw [hv, Option.map_none] at hvalue
        simp only [Store.answer, hs, hvalue]
        refine ⟨.inl ?_, hstore⟩
        simp only [Call.conclude, Request.refusalError_missing herror]
    | some w =>
        obtain ⟨hreply, hafter⟩ := hp.get s service path interface name props w hc hv hplain
        rw [Peer.remote_answer s hmessage, hreply, hafter]
        rw [hv, Option.map_some] at hvalue
        simp only [Store.answer, hs, hvalue]
        exact ⟨.inl rfl, hstore⟩

theorem agreesOn_getAll (hp : p.Keeps content texts) {service : String}
    (timeout : Option Duration) (hservice : BusName.isService service = true) (path : ObjectPath)
    {interface : String} (hinterface : BusName.isInterface interface = true) :
    p.AgreesOn content texts ⟨service, timeout, .getAll path.text interface⟩ := by
  intro store s hstore
  have hmessage : Call.message ⟨service, timeout, .getAll path.text interface⟩ =
      .ok (.properties service path "GetAll" [.text interface]) :=
    Call.message_properties timeout hservice hinterface rfl rfl rfl
  have harguments : Wire.Value.AllPlain [] := trivial
  have hplain := Message.plain_properties hinterface harguments service path "GetAll"
  rcases hstore.properties?_cases path interface with ⟨hs, hc⟩ | ⟨snapshot, props, hs, hc, hprops⟩
  · refine hp.agrees_unknown hstore hc .getAll hmessage hplain ?_
    simp only [Store.answer, hs]
  · obtain ⟨entries, hentries, hanswers⟩ := hp.getAll s service path interface props hc
    obtain ⟨hreply, hafter⟩ := hanswers hplain
    have hsame := (Wire.decodes_snapshot hentries).unique hprops
    rw [Peer.remote_answer s hmessage, hreply, hafter]
    simp only [Store.answer, hs]
    refine ⟨.inl ?_, hstore⟩
    simp only [Call.conclude, Request.readReply?, hsame]

theorem agreesOn_set (hp : p.Keeps content texts) {service : String} (timeout : Option Duration)
    (hservice : BusName.isService service = true) (path : ObjectPath) {interface name : String}
    (hinterface : BusName.isInterface interface = true) (hname : Text.Plain name) {v : Variant}
    {w : Wire.Value} (hv : Wire.ofVariant? v = some w) (hw : w.Plain) :
    p.AgreesOn content texts ⟨service, timeout, .set path.text interface name v⟩ := by
  intro store s hstore
  have hmessage : Call.message ⟨service, timeout, .set path.text interface name v⟩ =
      .ok (.properties service path "Set" [.text interface, .text name, .variant w]) :=
    Call.message_properties timeout hservice hinterface (by simp [Request.content, hv]) rfl rfl
  have harguments : Wire.Value.AllPlain [.text name, .variant w] := ⟨hname, hw, trivial⟩
  have hplain := Message.plain_properties hinterface harguments service path "Set"
  rcases hstore.properties?_cases path interface with ⟨hs, hc⟩ | ⟨snapshot, props, hs, hc, -⟩
  · refine hp.agrees_unknown hstore hc (.set name w) hmessage hplain ?_
    simp only [Store.answer, hs]
  · obtain ⟨hreply, hafter⟩ := hp.set s service path interface name w props hc hplain
    rw [Peer.remote_answer s hmessage, hreply, hafter]
    simp only [Store.answer, hs]
    refine ⟨.inl rfl, ?_⟩
    -- the value that the store keeps is the decoded one, because encoding loses nothing
    rw [← Wire.toVariant_of_ofVariant? hv]
    exact hstore.write path interface name w

end Peer.Keeps

end BluetoothDirectory
