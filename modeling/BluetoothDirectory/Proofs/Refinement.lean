import BluetoothDirectory.Proofs.Service
import BluetoothDirectory.Proofs.WriteGate
import BluetoothDirectory.Store.Scripted

/-!
# The bus refines the store

Directories over the bus, against a service that keeps a content, and directories over a store in
memory that mirrors it cannot be told apart: command for command the results agree, and the store
goes on mirroring what the service keeps. Method calls are left out, because the store answers them
with nothing.
-/

namespace BluetoothDirectory

/-! ## Commands that a store can stand for -/

/-- The names and values in a deed can be sent, and it is no method call. A value for an interface
that is not described has to be one that can be sent; the others are checked. -/
def Deed.Comparable : Deed → Prop
  | settled _ | list _ => True
  | get _ interface name | read _ _ interface name =>
    BusName.isInterface interface = true ∧ Text.Plain name
  | readAll _ interface _ => BusName.isInterface interface = true
  | write w =>
    BusName.isInterface w.interface = true ∧ Text.Plain w.property ∧ w.value.Plain ∧
      (Schema.declarations? w.interface = none →
        w.value.kind ≠ .dict ∧ w.value.kind ≠ .unsupported)
  | invoke .. => False

/-- A command to an adapter that is no action, without zero characters in its texts. -/
def Adapter.Command.Comparable : Adapter.Command → Prop
  | .setAlias text => Text.Plain text
  | .setProperty property value => Text.Plain property ∧ value.Plain
  | .removeDevice _ | .startDiscovery | .stopDiscovery => False
  | _ => True

/-- A command to a device that is no action, without zero characters in its texts. -/
def Device.Command.Comparable : Device.Command → Prop
  | .setAlias text => Text.Plain text
  | .setProperty property value => Text.Plain property ∧ value.Plain
  | .cancelPairing | .connect | .connectProfile _ | .disconnect | .disconnectProfile _ | .pair =>
    False
  | _ => True

/-- A command to the properties of an object with a valid name of an interface, without zero
characters in its texts, and with a value that can be sent where the interface is not described. -/
def PropertyAccess.Command.Comparable : PropertyAccess.Command → Prop
  | .get interface name | .getAs _ interface name =>
    BusName.isInterface interface = true ∧ Text.Plain name
  | .getAll interface => BusName.isInterface interface = true
  | .set interface name value =>
    BusName.isInterface interface = true ∧ Text.Plain name ∧ value.Plain ∧
      (Schema.declarations? interface = none → value.kind ≠ .dict ∧ value.kind ≠ .unsupported)

/-- A command to a directory or its proxies that a store can stand for. -/
def Directory.Command.Comparable : Directory.Command → Prop
  | .managedObjects | .findAdapter _ | .adapters | .devices _ => True
  | .adapter _ command => command.Comparable
  | .device _ command => command.Comparable
  | .properties _ command => command.Comparable

/-- A write to an adapter or device is checked, whatever its value. -/
theorem Deed.comparable_write {w : Write} (hinterface : BusName.isInterface w.interface = true)
    (hdescribed : Schema.declarations? w.interface ≠ none) (hproperty : Text.Plain w.property)
    (hvalue : w.value.Plain) : (Deed.write w).Comparable :=
  ⟨hinterface, hproperty, hvalue, fun hnone => absurd hnone hdescribed⟩

theorem Adapter.deed_comparable (a : Adapter) {c : Adapter.Command} (h : c.Comparable) :
    (a.deed c).Comparable := by
  have hinterface : BusName.isInterface Interface.adapter = true := by decide
  have hdescribed : Schema.declarations? Interface.adapter ≠ none := by decide
  cases c
  case path | description => trivial
  case allProperties | info => exact hinterface
  case removeDevice | startDiscovery | stopDiscovery => exact h.elim
  case setAlias text =>
    exact Deed.comparable_write hinterface hdescribed (by simp [Text.Plain]) h
  case setProperty property value =>
    exact Deed.comparable_write hinterface hdescribed h.1 h.2
  case setDiscoverable | setDiscoverableTimeout | setPairable | setPairableTimeout | setPowered =>
    exact Deed.comparable_write hinterface hdescribed (by simp [Text.Plain]) trivial
  all_goals exact ⟨hinterface, by simp [Text.Plain]⟩

theorem Device.deed_comparable (v : Device) {c : Device.Command} (h : c.Comparable) :
    (v.deed c).Comparable := by
  have hinterface : BusName.isInterface Interface.device = true := by decide
  have hdescribed : Schema.declarations? Interface.device ≠ none := by decide
  cases c
  case path | description => trivial
  case allProperties | info => exact hinterface
  case cancelPairing | connect | connectProfile | disconnect | disconnectProfile | pair =>
    exact h.elim
  case setAlias text =>
    exact Deed.comparable_write hinterface hdescribed (by simp [Text.Plain]) h
  case setProperty property value =>
    exact Deed.comparable_write hinterface hdescribed h.1 h.2
  case setBlocked | setTrusted =>
    exact Deed.comparable_write hinterface hdescribed (by simp [Text.Plain]) trivial
  all_goals exact ⟨hinterface, by simp [Text.Plain]⟩

theorem Directory.deed_comparable (d : Directory) {c : Directory.Command} (h : c.Comparable) :
    (d.deed c).Comparable := by
  cases c with
  | managedObjects | findAdapter | adapters => trivial
  | devices pattern =>
      simp only [deed]
      split <;> trivial
  | adapter path command =>
      simp only [deed]
      split
      · exact Adapter.deed_comparable _ h
      · trivial
  | device path command =>
      simp only [deed]
      split
      · exact Device.deed_comparable _ h
      · trivial
  | properties path command => cases command <;> exact h

/-- Every value that passes the check for a comparable write can be sent. -/
theorem Deed.Comparable.exists_ofVariant? {w : Write} (h : (Deed.write w).Comparable)
    (hallows : Schema.Allows w.interface w.property w.value.kind) :
    ∃ v, Wire.ofVariant? w.value = some v ∧ v.Plain := by
  obtain ⟨-, -, hplain, hundescribed⟩ := h
  have hkind : w.value.kind ≠ .dict ∧ w.value.kind ≠ .unsupported := by
    rcases hallows with hnone | ⟨d, hd, -, hkind⟩
    · exact hundescribed hnone
    · rw [← hkind]
      exact hd.sendable
  obtain ⟨v, hv⟩ := Wire.exists_ofVariant? hkind.1 hkind.2
  exact ⟨v, hv, Wire.plain_of_ofVariant? hv hplain⟩

/-! ## One command -/

/-- A directory whose service and root can be addressed. -/
def Directory.Addressable (d : Directory) : Prop :=
  BusName.isService d.config.service = true ∧ ObjectPath.isValid d.config.root.toList = true

/-- What an operation does in memory and over the bus: the results agree, and the store mirrors
the content again and has nothing left in its script. -/
def Operation.Refines {σ : Type} (p : Peer σ) (content : σ → Wire.Content)
    (texts : ObjectPath → Option String → Prop) (op : Operation Answer) : Prop :=
  ∀ (memory : Store.Scripted) (s : σ), memory.script = [] → memory.store.Mirrors (content s) →
    Agree texts (op.runOn Store.Scripted.remote memory).1 (op.runOn p.remote s).1 ∧
      (op.runOn Store.Scripted.remote memory).2.store.Mirrors (content (op.runOn p.remote s).2) ∧
      (op.runOn Store.Scripted.remote memory).2.script = []

section Refines

variable {σ : Type} {p : Peer σ} {content : σ → Wire.Content}
  {texts : ObjectPath → Option String → Prop}

theorem Operation.refines_ofExcept (result : Except Error Answer) :
    (Operation.ofExcept result).Refines p content texts :=
  fun _ _ hscript hmirrors => ⟨.inl rfl, hmirrors, hscript⟩

theorem Operation.refines_once {c : Call} (hc : p.AgreesOn content texts c)
    (use : c.Reply → Except Error Answer) : (Operation.once c use).Refines p content texts := by
  intro memory s hscript hmirrors
  obtain ⟨hagree, hafter⟩ := hc memory.store s hmirrors
  simp only [Operation.runOn_once, Store.Scripted.remote, hscript, List.head?_nil,
    Store.Scripted.follow, List.tail_nil]
  exact ⟨hagree.bind use, hafter, trivial⟩

/-- **Doing a deed over the bus refines doing it in memory.** -/
theorem Deed.refines (hp : p.Keeps content texts) {d : Directory} (hd : d.Addressable)
    {deed : Deed} (h : deed.Comparable) : (deed.operation d).Refines p content texts := by
  obtain ⟨hservice, hroot⟩ := hd
  cases deed with
  | settled result => exact Operation.refines_ofExcept result
  | list use => exact Operation.refines_once (hp.agreesOn_listing _ hservice hroot) _
  | get path interface name =>
      exact Operation.refines_once (hp.agreesOn_get _ hservice path h.1 h.2) _
  | read path type interface name =>
      exact Operation.refines_once (hp.agreesOn_get _ hservice path h.1 h.2) _
  | readAll path interface use =>
      exact Operation.refines_once (hp.agreesOn_getAll _ hservice path h) _
  | invoke path interface member arguments => exact h.elim
  | write w =>
      simp only [Deed.operation]
      cases hcheck : Schema.checkWrite w.interface w.property w.value with
      | error e =>
          -- a write that the check refuses is refused on both sides, before any call
          exact Operation.refines_ofExcept (.error e)
      | ok u =>
          obtain ⟨v, hv, hplain⟩ := h.exists_ofVariant? (Schema.checkWrite_eq_ok_iff.mp hcheck)
          exact Operation.refines_once (hp.agreesOn_set _ hservice w.path h.1 h.2.1 hv hplain) _

end Refines

/-! ## Whole runs -/

/-- Performs commands, each of a directory, one after another. -/
def Directory.performAll {σ : Type} (remote : Remote σ) :
    List (Directory × Directory.Command) → σ → List (Except Error Answer) × σ
  | [], s => ([], s)
  | (d, c) :: rest, s =>
    let performed := (d.perform c).runOn remote s
    let later := performAll remote rest performed.2
    (performed.1 :: later.1, later.2)

/-- **The bus refines the store.** Over a service that keeps a content, and in memory on a store
that mirrors it, any sequence of commands by any directories has results that agree one by one, and
in the end the store mirrors what the service keeps. The results are the same if the service's text
for an object that is not there is that of the store. -/
theorem Directory.bus_refines_store {σ : Type} {p : Peer σ} {content : σ → Wire.Content}
    {texts : ObjectPath → Option String → Prop} (hp : p.Keeps content texts)
    {commands : List (Directory × Directory.Command)}
    (hcommands : ∀ t ∈ commands, t.1.Addressable ∧ t.2.Comparable)
    {memory : Store.Scripted} {s : σ} (hscript : memory.script = [])
    (hmirrors : memory.store.Mirrors (content s)) :
    let inMemory := performAll Store.Scripted.remote commands memory
    let overBus := performAll p.remote commands s
    List.Forall₂ (Agree texts) inMemory.1 overBus.1 ∧
      inMemory.2.store.Mirrors (content overBus.2) ∧
      ((∀ path text, texts path text → text = some ("no object at " ++ path.text)) →
        inMemory.1 = overBus.1) := by
  have hrun : List.Forall₂ (Agree texts) (performAll Store.Scripted.remote commands memory).1
      (performAll p.remote commands s).1 ∧
      (performAll Store.Scripted.remote commands memory).2.store.Mirrors
        (content (performAll p.remote commands s).2) := by
    induction commands generalizing memory s with
    | nil => exact ⟨.nil, hmirrors⟩
    | cons t rest ih =>
        obtain ⟨d, c⟩ := t
        obtain ⟨hd, hc⟩ := hcommands (d, c) (by simp)
        have hstep := Deed.refines hp hd (d.deed_comparable hc)
        rw [← d.perform_eq] at hstep
        -- the step leaves a related pair of states, from which the others go on
        obtain ⟨hagree, hafter, hempty⟩ := hstep memory s hscript hmirrors
        obtain ⟨hagrees, hlast⟩ :=
          ih (fun t ht => hcommands t (List.mem_cons_of_mem _ ht)) hempty hafter
        exact ⟨.cons hagree hagrees, hlast⟩
  refine ⟨hrun.1, hrun.2, fun htexts => ?_⟩
  exact List.forall₂_eq_eq_eq ▸ hrun.1.imp fun _ _ hagree => hagree.eq htexts

/-! ## A service with one adapter -/

namespace Peer.OneAdapter

open Peer.Scripted (listing propertyEntries)

/-- What the service keeps: an adapter at the root, with some properties. -/
def content (props : SortedMap Wire.Value) : Wire.Content := fun path =>
  if path = ObjectPath.root then
    some fun interface => if interface = Interface.adapter then some props.get? else none
  else none

/-- The list of its objects. -/
def objects (props : SortedMap Wire.Value) : WireObjects :=
  [(ObjectPath.root, [(Interface.adapter, props.entries)])]

/-- Answers a message about the adapter, and refuses one about anything else. -/
def ifKnown (path interface : String) (props : SortedMap Wire.Value)
    (known : Outcome × SortedMap Wire.Value) : Outcome × SortedMap Wire.Value :=
  if path = ObjectPath.root.text ∧ interface = Interface.adapter then known
  else (Scripted.refuse "UnknownObject" ("no object at " ++ path), props)

/-- The service. -/
def peer : Peer (SortedMap Wire.Value) where
  deliver m props :=
    match m.member, m.body with
    | "GetManagedObjects", [] => (.reply [listing (objects props)], props)
    | "Get", [.text interface, .text name] =>
      ifKnown m.path interface props <| match props.get? name with
        | some v => (.reply [.variant v], props)
        | none => (Scripted.refuse "InvalidArgs" ("No such property '" ++ name ++ "'"), props)
    | "GetAll", [.text interface] =>
      ifKnown m.path interface props
        (.reply [.dict .text .variant (propertyEntries props.entries)], props)
    | "Set", [.text interface, .text name, .variant v] =>
      ifKnown m.path interface props (.reply [], props.insert name v)
    | _, _ => (.reply [], props)

theorem properties?_content (props : SortedMap Wire.Value) (path : ObjectPath)
    (interface : String) :
    (content props).properties? path interface =
      if path.text = ObjectPath.root.text ∧ interface = Interface.adapter then some props.get?
      else none := by
  unfold Wire.Content.properties? content
  by_cases hpath : path = ObjectPath.root
  · simp [hpath]
  · have htext : path.text ≠ ObjectPath.root.text := fun h => hpath (ObjectPath.ext_text h)
    simp [hpath, htext]

theorem content_insert (props : SortedMap Wire.Value) (name : String) (v : Wire.Value) :
    content (props.insert name v) =
      (content props).set ObjectPath.root Interface.adapter name v := by
  have hget : (props.insert name v).get? = Function.update props.get? name (some v) := by
    funext k
    rw [SortedMap.get?_insert, Function.update_apply]
  funext path
  unfold Wire.Content.set content
  rw [Function.update_apply]
  by_cases hpath : path = ObjectPath.root
  · simp only [hpath, if_true, Option.map_some, hget]
    congr 1
    funext interface
    rw [Function.update_apply]
    by_cases hinterface : interface = Interface.adapter <;> simp [hinterface]
  · simp [hpath]

theorem listedBy (props : SortedMap Wire.Value) : (content props).ListedBy (objects props) := by
  have hsingle : ∀ {κ β γ : Type} [DecidableEq κ] {R : β → γ → Prop} (k : κ) (b : β) (c : γ),
      R b c → Lists R [(k, b)] fun i => if i = k then some c else none := by
    intro κ β γ _ R k b c h
    refine ⟨by simp, fun i => ?_⟩
    rw [SortedMap.lookup_cons_eq]
    by_cases hi : i = k <;> simp [hi, h]
  exact hsingle _ _ _ (hsingle _ _ _ props.lists_entries)

theorem keeps : peer.Keeps content fun path text => text = some ("no object at " ++ path.text) where
  named props path interface h := by
    rw [properties?_content] at h
    split at h
    · rename_i hknown
      rw [hknown.2]
      decide
    · cases h
  listing props destination root := ⟨objects props, listedBy props, fun _ => ⟨rfl, rfl⟩⟩
  get props destination path interface name p v hp hv := by
    rw [properties?_content] at hp
    split at hp
    · rename_i hknown
      cases hp
      simp [Answers, peer, Message.properties, ifKnown, hknown, hv]
    · cases hp
  getMissing props destination path interface name p hp hv := by
    rw [properties?_content] at hp
    split at hp
    · rename_i hknown
      cases hp
      refine ⟨StandardFailure.namespaceText ++ "InvalidArgs", by decide,
        [.text ("No such property '" ++ name ++ "'")], ?_⟩
      simp [Answers, peer, Message.properties, ifKnown, hknown, hv, Scripted.refuse]
    · cases hp
  getAll props destination path interface p hp := by
    rw [properties?_content] at hp
    split at hp
    · rename_i hknown
      cases hp
      refine ⟨props.entries, props.lists_entries, ?_⟩
      simp [Answers, peer, Message.properties, ifKnown, hknown]
    · cases hp
  set props destination path interface name v p hp := by
    rw [properties?_content] at hp
    split at hp
    · rename_i hknown
      obtain ⟨hpath, rfl⟩ := hknown
      obtain rfl : path = ObjectPath.root := ObjectPath.ext_text hpath
      simp [Answers, peer, Message.properties, ifKnown, content_insert]
    · cases hp
  unknown props destination path interface member arguments hp haccess := by
    rw [properties?_content] at hp
    split at hp
    · cases hp
    · rename_i hunknown
      refine ⟨[.text ("no object at " ++ path.text)], rfl, ?_⟩
      cases haccess <;>
        simp [Answers, peer, Message.properties, ifKnown, hunknown, Scripted.refuse]

/-- The adapter is renamed and asked for its name, all objects are listed, and an adapter that is
not there is asked for its name. -/
def commands : List (Directory × Directory.Command) :=
  let directory : Directory := ⟨.session, .standard⟩
  [(directory, .adapter "/" (.setAlias "shelf")),
   (directory, .adapter "/" .aliasName),
   (directory, .managedObjects),
   (directory, .adapter "/nowhere" .name)]

/-- The properties of the adapter at first. -/
def desk : SortedMap Wire.Value :=
  SortedMap.ofList [("Alias", .text "desk")]

/-- The store that mirrors the service at first. -/
def deskStore : Store.Scripted :=
  { store := ⟨Wire.decodeObjects (objects desk)⟩ }

theorem commands_refine :
    peer.Keeps content (fun path text => text = some ("no object at " ++ path.text)) ∧
      deskStore.store.Mirrors (content desk) ∧
      (Directory.performAll Store.Scripted.remote commands deskStore).1 =
        (Directory.performAll peer.remote commands desk).1 := by
  have hmirrors : deskStore.store.Mirrors (content desk) :=
    Wire.mirrors_decodeObjects (listedBy desk)
  have hcommands : ∀ t ∈ commands, t.1.Addressable ∧ t.2.Comparable := by
    have haddressable : Directory.Addressable ⟨.session, .standard⟩ := by
      constructor <;> decide
    intro t ht
    simp only [commands, List.mem_cons, List.not_mem_nil, or_false] at ht
    rcases ht with rfl | rfl | rfl | rfl
    · exact ⟨haddressable, show Text.Plain "shelf" by simp [Text.Plain]⟩
    all_goals exact ⟨haddressable, trivial⟩
  exact ⟨keeps, hmirrors,
    (Directory.bus_refines_store keeps hcommands rfl hmirrors).2.2 fun _ _ h => h⟩

end Peer.OneAdapter

end BluetoothDirectory
