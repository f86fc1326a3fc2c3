import BluetoothDirectory.Proofs.StoreWrite

/-!
# Summaries and getters

An object's properties can be read in two ways: all of them with one call, of which a summary keeps
what it can use, or one by one, each getter telling what is wrong with its own. `getAs?_decode`
compares the two on one snapshot, and `reply_getAs` says that a getter reads from the snapshot that
a summary is made of; so each field of a summary agrees with the getter of its name.
-/

namespace BluetoothDirectory

/-! ## Reading one property of a snapshot -/

/-- The errors of a getter whose object has the interface: its property is missing, or it is of
another kind than the getter reads. -/
inductive Error.Unreadable (interface : String) : Error → Prop
  | missing (property : String) : Unreadable interface (.propertyNotFound interface property)
  | mistyped (property : String) (expected found : Variant.Kind) :
      Unreadable interface (.decode interface property expected found)

namespace Snapshot

variable {α : Type} [Variant.Payload α]

/-- Either way of reading finds the same value, or neither finds one. -/
theorem getAs?_decode (s : Snapshot) (interface name : String) :
    (∃ x : α, s.getAs? α name = some x ∧ s.decode α interface name = .ok x) ∨
      s.getAs? α name = none ∧
        ∃ e, s.decode α interface name = .error e ∧ e.Unreadable interface := by
  unfold getAs? decode
  cases s.get? name with
  | none => exact .inr ⟨rfl, _, rfl, .missing name⟩
  | some v =>
      simp only [Option.bind_some, Variant.decode, Variant.read]
      cases Variant.Payload.ofVariant? (α := α) v with
      | some x => exact .inl ⟨x, rfl, rfl⟩
      | none => exact .inr ⟨rfl, _, rfl, .mistyped name _ _⟩

end Snapshot

/-- A field of a summary says what a getter does: it has the value that the getter answers, in the
form in which the summary keeps it, and is empty where the getter cannot read its property. Nothing
else can become of the getter. -/
structure Reports {α β : Type} (form : α → β) (field : Option β) (interface : String)
    (answer : Except Error α) : Prop where
  some_iff : ∀ x, field = some (form x) ↔ answer = .ok x
  none_iff : field = none ↔ ∃ e, answer = .error e ∧ e.Unreadable interface
  settled : (∃ x, answer = .ok x) ∨ ∃ e, answer = .error e ∧ e.Unreadable interface

/-- A list of a summary says what a getter does: it is the list that the getter answers, and empty
where the getter cannot read its property. -/
structure ReportsList {α : Type} (field : List α) (interface : String)
    (answer : Except Error (List α)) : Prop where
  of_ok : ∀ l, answer = .ok l → field = l
  of_error : ∀ e, answer = .error e → field = [] ∧ e.Unreadable interface

theorem Snapshot.reports_map {α β : Type} [Variant.Payload α] {form : α → β}
    (hform : Function.Injective form) (s : Snapshot) (interface name : String) :
    Reports form ((s.getAs? α name).map form) interface (s.decode α interface name) := by
  rcases s.getAs?_decode (α := α) interface name with
    ⟨x, hget, hdecode⟩ | ⟨hget, e, hdecode, he⟩
  · rw [hget, hdecode]
    refine ⟨fun y => ?_, ?_, .inl ⟨x, rfl⟩⟩
    · constructor
      · intro h
        rw [hform (Option.some.inj h)]
      · intro h
        rw [Except.ok.inj h]
        rfl
    · constructor
      · nofun
      · rintro ⟨e, h, -⟩
        cases h
  · rw [hget, hdecode]
    refine ⟨fun y => ⟨nofun, nofun⟩, ?_, .inr ⟨e, rfl, he⟩⟩
    exact ⟨fun _ => ⟨e, rfl, he⟩, fun _ => rfl⟩

theorem Snapshot.reports {α : Type} [Variant.Payload α] (s : Snapshot) (interface name : String) :
    Reports id (s.getAs? α name) interface (s.decode α interface name) := by
  have h := s.reports_map (α := α) Function.injective_id interface name
  rwa [Option.map_id, id_eq] at h

theorem Snapshot.reportsList {α : Type} [Variant.Payload (List α)] (s : Snapshot)
    (interface name : String) :
    ReportsList ((s.getAs? (List α) name).getD []) interface
      (s.decode (List α) interface name) := by
  rcases s.getAs?_decode (α := List α) interface name with
    ⟨x, hget, hdecode⟩ | ⟨hget, e, hdecode, he⟩
  · rw [hget, hdecode]
    refine ⟨fun l h => Except.ok.inj h, ?_⟩
    nofun
  · rw [hget, hdecode]
    refine ⟨nofun, fun e' h => ⟨rfl, ?_⟩⟩
    rw [← Except.error.inj h]
    exact he

/-- A Class of Device keeps the number it is made of. -/
theorem DeviceClass.ofRaw_injective : Function.Injective DeviceClass.ofRaw :=
  fun _ _ h => congrArg DeviceClass.raw h

/-! ## Reading from a store -/

/-- The deeds that read properties of an object through one of its interfaces. -/
inductive Deed.ReadsFrom (path : ObjectPath) (interface : String) : Deed → Prop
  | read (type : PropertyType) (name : String) :
      ReadsFrom path interface (.read path type interface name)
  | readAll (use : Snapshot → Answer) : ReadsFrom path interface (.readAll path interface use)

theorem Adapter.deed_readsFrom (a : Adapter) {c : Adapter.Command}
    (h : c.isGetter = true ∨ c.readsAll = true) :
    (a.deed c).ReadsFrom a.path Interface.adapter := by
  rcases h with h | h
  · obtain ⟨type, name, hdeed⟩ := a.deed_of_isGetter h
    rw [hdeed]
    exact .read type name
  · obtain ⟨use, hdeed⟩ := a.deed_of_readsAll h
    rw [hdeed]
    exact .readAll use

theorem Device.deed_readsFrom (v : Device) {c : Device.Command}
    (h : c.isGetter = true ∨ c.readsAll = true) :
    (v.deed c).ReadsFrom v.path Interface.device := by
  rcases h with h | h
  · obtain ⟨type, name, hdeed⟩ := v.deed_of_isGetter h
    rw [hdeed]
    exact .read type name
  · obtain ⟨use, hdeed⟩ := v.deed_of_readsAll h
    rw [hdeed]
    exact .readAll use

namespace Store

variable {α : Type} {s : Store} {d : Directory} {p : ObjectPath} {interface : String}

/-- What a store answers an operation. -/
def reply (s : Store) (op : Operation α) : Except Error α :=
  (op.runOn remote s).1

section Present

variable {props : Snapshot} (h : s.properties? p.text interface = some props)
include h

theorem reply_getAs [Variant.Payload α] (name : String) :
    s.reply ((d.access p).getAs α interface name) = props.decode α interface name := by
  unfold reply Snapshot.decode
  rw [PropertyAccess.getAs_eq_once, Operation.runOn_once]
  simp only [remote, answer, h]
  cases props.get? name <;> rfl

/-- A summary is made of the properties of the object. -/
theorem reply_summary (summary : Snapshot → α) :
    s.reply (do let q ← (d.access p).getAll interface; return summary q) =
      .ok (summary props) := by
  have hsummary := Operation.once_bind_ofExcept
    ⟨d.config.service, d.config.timeout, .getAll p.text interface⟩ .ok fun q => .ok (summary q)
  unfold reply
  rw [PropertyAccess.getAll_eq_once]
  refine (congrArg (fun op => (Operation.runOn remote op s).1) hsummary).trans ?_
  rw [Operation.runOn_once]
  simp only [remote, answer, h]
  rfl

/-- What a getter answers is what the same property is in a summary. -/
theorem reports_getAs [Variant.Payload α] (name : String) :
    Reports id (props.getAs? α name) interface
      (s.reply ((d.access p).getAs α interface name)) := by
  rw [reply_getAs h]
  exact props.reports interface name

theorem reports_class (name : String) :
    Reports DeviceClass.ofRaw ((props.getAs? UInt32 name).map DeviceClass.ofRaw) interface
      (s.reply ((d.access p).getAs UInt32 interface name)) := by
  rw [reply_getAs h]
  exact props.reports_map DeviceClass.ofRaw_injective interface name

theorem reportsList_getAs [Variant.Payload (List α)] (name : String) :
    ReportsList ((props.getAs? (List α) name).getD []) interface
      (s.reply ((d.access p).getAs (List α) interface name)) := by
  rw [reply_getAs h]
  exact props.reportsList interface name

end Present

/-- Without the object or its interface, every reading fails alike. -/
theorem reply_of_absent {deed : Deed} (hreads : deed.ReadsFrom p interface)
    (h : s.properties? p.text interface = none) :
    s.reply (deed.operation d) = .error (unknownObject p.text) := by
  unfold reply
  cases hreads with
  | read type name =>
      simp only [Deed.operation, Operation.runOn_once, remote, answer, h]
      rfl
  | readAll use =>
      simp only [Deed.operation, Operation.runOn_once, remote, answer, h]
      rfl

/-- A reading leaves the store as it is. -/
theorem runOn_reading {deed : Deed} (hreads : deed.ReadsFrom p interface) :
    ((deed.operation d).runOn remote s).2 = s := by
  cases hreads with
  | read type name =>
      simp only [Deed.operation, Operation.runOn_once, remote, answer]
      split
      · rfl
      · split <;> rfl
  | readAll use =>
      simp only [Deed.operation, Operation.runOn_once, remote, answer]
      split <;> rfl

end Store

/-! ## Whole summaries -/

/-- A summary of an adapter says in each of its fields what the getter of that name does. -/
structure AdapterInfo.Agrees (i : AdapterInfo) (s : Store) (a : Adapter) : Prop where
  path : i.path = a.path
  address : Reports id i.address Interface.adapter (s.reply a.address)
  name : Reports id i.name Interface.adapter (s.reply a.name)
  aliasName : Reports id i.aliasName Interface.adapter (s.reply a.aliasName)
  deviceClass : Reports DeviceClass.ofRaw i.deviceClass Interface.adapter (s.reply a.rawClass)
  powered : Reports id i.powered Interface.adapter (s.reply a.powered)
  discoverable : Reports id i.discoverable Interface.adapter (s.reply a.discoverable)
  discoverableTimeout :
    Reports id i.discoverableTimeout Interface.adapter (s.reply a.discoverableTimeout)
  pairable : Reports id i.pairable Interface.adapter (s.reply a.pairable)
  pairableTimeout : Reports id i.pairableTimeout Interface.adapter (s.reply a.pairableTimeout)
  discovering : Reports id i.discovering Interface.adapter (s.reply a.discovering)
  modalias : Reports id i.modalias Interface.adapter (s.reply a.modalias)
  uuids : ReportsList i.uuids Interface.adapter (s.reply a.uuids)

/-- A summary of a device says in each of its fields what the getter of that name does. -/
structure DeviceInfo.Agrees (i : DeviceInfo) (s : Store) (v : Device) : Prop where
  path : i.path = v.path
  adapter : Reports id i.adapter Interface.device (s.reply v.adapter)
  address : Reports id i.address Interface.device (s.reply v.address)
  name : Reports id i.name Interface.device (s.reply v.name)
  aliasName : Reports id i.aliasName Interface.device (s.reply v.aliasName)
  icon : Reports id i.icon Interface.device (s.reply v.icon)
  deviceClass : Reports DeviceClass.ofRaw i.deviceClass Interface.device (s.reply v.rawClass)
  appearance : Reports id i.appearance Interface.device (s.reply v.appearance)
  paired : Reports id i.paired Interface.device (s.reply v.paired)
  trusted : Reports id i.trusted Interface.device (s.reply v.trusted)
  blocked : Reports id i.blocked Interface.device (s.reply v.blocked)
  connected : Reports id i.connected Interface.device (s.reply v.connected)
  legacyPairing : Reports id i.legacyPairing Interface.device (s.reply v.legacyPairing)
  rssi : Reports id i.rssi Interface.device (s.reply v.rssi)
  modalias : Reports id i.modalias Interface.device (s.reply v.modalias)
  uuids : ReportsList i.uuids Interface.device (s.reply v.uuids)

/-- The summary made of an adapter's properties agrees with the getters that read them one by
one. -/
theorem AdapterInfo.agrees_ofSnapshot {s : Store} {props : Snapshot} (d : Directory)
    (p : ObjectPath) (h : s.properties? p.text Interface.adapter = some props) :
    (AdapterInfo.ofSnapshot p props).Agrees s ⟨d.access p⟩ where
  path := rfl
  address := Store.reports_getAs h "Address"
  name := Store.reports_getAs h "Name"
  aliasName := Store.reports_getAs h "Alias"
  deviceClass := Store.reports_class h "Class"
  powered := Store.reports_getAs h "Powered"
  discoverable := Store.reports_getAs h "Discoverable"
  discoverableTimeout := Store.reports_getAs h "DiscoverableTimeout"
  pairable := Store.reports_getAs h "Pairable"
  pairableTimeout := Store.reports_getAs h "PairableTimeout"
  discovering := Store.reports_getAs h "Discovering"
  modalias := Store.reports_getAs h "Modalias"
  uuids := Store.reportsList_getAs h "UUIDs"

/-- The summary made of a device's properties agrees with the getters that read them one by
one. -/
theorem DeviceInfo.agrees_ofSnapshot {s : Store} {props : Snapshot} (d : Directory)
    (p : ObjectPath) (h : s.properties? p.text Interface.device = some props) :
    (DeviceInfo.ofSnapshot p props).Agrees s ⟨d.access p⟩ where
  path := rfl
  adapter := Store.reports_getAs h "Adapter"
  address := Store.reports_getAs h "Address"
  name := Store.reports_getAs h "Name"
  aliasName := Store.reports_getAs h "Alias"
  icon := Store.reports_getAs h "Icon"
  deviceClass := Store.reports_class h "Class"
  appearance := Store.reports_getAs h "Appearance"
  paired := Store.reports_getAs h "Paired"
  trusted := Store.reports_getAs h "Trusted"
  blocked := Store.reports_getAs h "Blocked"
  connected := Store.reports_getAs h "Connected"
  legacyPairing := Store.reports_getAs h "LegacyPairing"
  rssi := Store.reports_getAs h "RSSI"
  modalias := Store.reports_getAs h "Modalias"
  uuids := Store.reportsList_getAs h "UUIDs"

/-- A store with an adapter whose class is a text and that has no name. -/
example :
    let s : Store := ⟨[(.root, [(Interface.adapter,
      .ofList [("Alias", .text "desk"), ("Class", .text "none"), ("Powered", .bool true)])])]⟩
    let a : Adapter := ⟨Directory.access default .root⟩
    s.reply (do let i ← a.info; return (i.aliasName, i.deviceClass, i.name)) =
        .ok (some "desk", none, none) ∧
      s.reply a.aliasName = .ok "desk" ∧
      s.reply a.rawClass = .error (.decode Interface.adapter "Class" .uint32 .text) ∧
      s.reply a.name = .error (.propertyNotFound Interface.adapter "Name") := by
  exact ⟨rfl, rfl, rfl, rfl⟩

/-- **A summary agrees with the getters.** On every store, whatever values it has: where the object
of a proxy has the interface, the summary of the proxy is there, and each of its fields says what
the getter of that name does; where it has not, the summary and all getters fail alike, with the
refusal of the store. None of them changes the store, so that it does not matter in which order
they are asked. -/
theorem Store.summary_agrees (s : Store) :
    (∀ a : Adapter,
      (s.Has a.path.text Interface.adapter → ∃ i, s.reply a.info = .ok i ∧ i.Agrees s a) ∧
      ∀ c : Adapter.Command, c.isGetter = true ∨ c.readsAll = true →
        ((a.perform c).runOn remote s).2 = s ∧
        (¬ s.Has a.path.text Interface.adapter →
          s.reply (a.perform c) = .error (unknownObject a.path.text))) ∧
    ∀ v : Device,
      (s.Has v.path.text Interface.device → ∃ i, s.reply v.info = .ok i ∧ i.Agrees s v) ∧
      ∀ c : Device.Command, c.isGetter = true ∨ c.readsAll = true →
        ((v.perform c).runOn remote s).2 = s ∧
        (¬ s.Has v.path.text Interface.device →
          s.reply (v.perform c) = .error (unknownObject v.path.text)) := by
  refine ⟨fun a => ?_, fun v => ?_⟩
  · obtain ⟨d, p, rfl⟩ := a.exists_access
    refine ⟨fun h => ?_, fun c hc => ?_⟩
    · obtain ⟨props, hprops⟩ := Option.isSome_iff_exists.mp h
      exact ⟨_, reply_summary hprops (AdapterInfo.ofSnapshot p),
        AdapterInfo.agrees_ofSnapshot d p hprops⟩
    · have hreads := Adapter.deed_readsFrom ⟨d.access p⟩ hc
      rw [Adapter.perform_eq]
      exact ⟨runOn_reading hreads,
        fun h => reply_of_absent hreads (Option.not_isSome_iff_eq_none.mp h)⟩
  · obtain ⟨d, p, rfl⟩ := v.exists_access
    refine ⟨fun h => ?_, fun c hc => ?_⟩
    · obtain ⟨props, hprops⟩ := Option.isSome_iff_exists.mp h
      exact ⟨_, reply_summary hprops (DeviceInfo.ofSnapshot p),
        DeviceInfo.agrees_ofSnapshot d p hprops⟩
    · have hreads := Device.deed_readsFrom ⟨d.access p⟩ hc
      rw [Device.perform_eq]
      exact ⟨runOn_reading hreads,
        fun h => reply_of_absent hreads (Option.not_isSome_iff_eq_none.mp h)⟩

end BluetoothDirectory
