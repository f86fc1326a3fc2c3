import BluetoothDirectory.Proofs.Conformance
import BluetoothDirectory.Proofs.Session

/-!
# Typed reading in a session

Sessions keep stores conforming, cannot change what the declarations fix, and on a conforming store
no command finds a value of another kind than it asks for, unless the caller chooses the type. The
three tables behind this, which are the declarations, the type of each getter and the value of each
setter, meet in `Adapter.deed_typed` and `Device.deed_typed`.
-/

namespace BluetoothDirectory

/-! ## What is asked for -/

/-- The kind that a type is read from. -/
def PropertyType.kind : PropertyType → Variant.Kind
  | bool => .bool
  | byte => .byte
  | int16 => .int16
  | uint16 => .uint16
  | int32 => .int32
  | uint32 => .uint32
  | text => .text
  | objectPath => .objectPath
  | texts => .texts
  | bytes => .bytes

/-- A value of the kind of a type can be read as that type. -/
theorem PropertyType.readWith_decode {type : PropertyType} {v : Variant} (h : v.kind = type.kind)
    (interface name : String) :
    ∃ a, type.readWith (m := Except Error) (fun α _ => Variant.decode α interface name v) =
      .ok a := by
  cases type <;> cases v <;> cases h <;> exact ⟨_, rfl⟩

/-- A result is not the error for a value of another kind than was asked for. -/
def NoDecode {α : Type} (r : Except Error α) : Prop :=
  ∀ interface property expected found, r ≠ .error (.decode interface property expected found)

theorem NoDecode.ok {α : Type} (a : α) : NoDecode (.ok a) := by
  intro _ _ _ _ h
  cases h

theorem NoDecode.error {α β : Type} {e : Error} (h : NoDecode (.error e : Except Error α)) :
    NoDecode (.error e : Except Error β) := by
  intro interface property expected found heq
  cases heq
  exact h interface property expected found rfl

theorem NoDecode.bind {α β : Type} {r : Except Error α} {use : α → Except Error β}
    (hr : NoDecode r) (huse : ∀ a, r = .ok a → NoDecode (use a)) : NoDecode (r >>= use) := by
  cases r with
  | ok a => exact huse a rfl
  | error e => exact hr.error

theorem NoDecode.map {α β : Type} {r : Except Error α} (hr : NoDecode r) (f : α → β) :
    NoDecode (f <$> r) := by
  cases r with
  | ok a => exact .ok (f a)
  | error e => exact hr.error

/-- A deed that asks for a property asks for the declared kind, and a result without a call is not
about the kind of a value. -/
def Deed.Typed : Deed → Prop
  | settled result => NoDecode result
  | read _ type interface name => ∃ d, Schema.Declares interface name d ∧ d.kind = type.kind
  | list _ | get .. | readAll .. | write _ | invoke .. => True

/-- Every getter of an adapter asks for the declared kind. -/
theorem Adapter.deed_typed (a : Adapter) (c : Adapter.Command) : (a.deed c).Typed := by
  cases c
  case path | description => exact NoDecode.ok _
  case allProperties | info | removeDevice | startDiscovery | stopDiscovery => trivial
  case setAlias | setDiscoverable | setDiscoverableTimeout | setPairable |
      setPairableTimeout | setPowered | setProperty => trivial
  all_goals exact ⟨_, Schema.lookup_eq_declared_iff.mp rfl, rfl⟩

theorem Device.profileDeed_typed (v : Device) (member uuid : String) :
    (v.profileDeed member uuid).Typed := by
  unfold profileDeed profile
  cases Uuid.ofString? uuid with
  | some u => trivial
  | none =>
      intro _ _ _ _ h
      cases h

/-- Every getter of a device asks for the declared kind. -/
theorem Device.deed_typed (v : Device) (c : Device.Command) : (v.deed c).Typed := by
  cases c
  case path | description => exact NoDecode.ok _
  case allProperties | info | cancelPairing | connect | disconnect | pair => trivial
  case connectProfile | disconnectProfile => exact v.profileDeed_typed _ _
  case setAlias | setBlocked | setTrusted | setProperty => trivial
  all_goals exact ⟨_, Schema.lookup_eq_declared_iff.mp rfl, rfl⟩

/-- Every command asks for the declared kind, unless the caller chooses the type. -/
theorem Directory.deed_typed (d : Directory) {c : Directory.Command}
    (hc : ∀ path type interface name, c ≠ .properties path (.getAs type interface name)) :
    (d.deed c).Typed := by
  cases c with
  | managedObjects | findAdapter | adapters => trivial
  | devices pattern =>
      simp only [deed, compilePattern]
      split
      · trivial
      · rename_i e he
        intro interface property expected found h
        split at he <;> cases he
        cases h
  | adapter path command =>
      simp only [deed, adapter, readPath]
      cases ObjectPath.ofString? path with
      | some p => exact Adapter.deed_typed _ command
      | none =>
          intro _ _ _ _ h
          cases h
  | device path command =>
      simp only [deed, device, readPath]
      cases ObjectPath.ofString? path with
      | some p => exact Device.deed_typed _ command
      | none =>
          intro _ _ _ _ h
          cases h
  | properties path command =>
      cases command with
      | getAs type interface name => exact absurd rfl (hc path type interface name)
      | get | getAll | set => trivial

/-! ## What is answered -/

theorem RemoteObject.noDecode_ofReply (path : ObjectPath) (interfaces : List (String × Snapshot)) :
    NoDecode (RemoteObject.ofReply path interfaces) := by
  intro _ _ _ _ h
  unfold RemoteObject.ofReply at h
  split at h <;> cases h

theorem ObjectTree.noDecode_objectsAfter (seen : List ObjectPath) (reply : ManagedObjects) :
    NoDecode (ObjectTree.objectsAfter seen reply) := by
  induction reply generalizing seen with
  | nil => exact .ok _
  | cons entry rest ih =>
      obtain ⟨path, interfaces⟩ := entry
      simp only [ObjectTree.objectsAfter]
      split
      · intro _ _ _ _ h
        cases h
      · exact (RemoteObject.noDecode_ofReply path interfaces).bind fun o _ =>
          (ih (path :: seen)).bind fun os _ => .ok (o :: os)

/-- A listing is refused for its shape only. -/
theorem ObjectTree.noDecode_ofManagedObjects (reply : ManagedObjects) :
    NoDecode (ObjectTree.ofManagedObjects reply) := by
  have h := ObjectTree.noDecode_objectsAfter [] reply
  unfold ObjectTree.ofManagedObjects
  split
  · exact .ok _
  · rename_i e he
    rw [he] at h
    exact h.error

/-- A write is not refused as if it were a reading. -/
theorem Schema.noDecode_checkWrite (interface property : String) (value : Variant) :
    NoDecode (Schema.checkWrite interface property value) := by
  intro _ _ _ _ h
  cases Schema.checkWrite_eq_error_iff.mp h

/-- A store knows no types. -/
theorem Store.noDecode_answer (s : Store) (r : Request) : NoDecode (s.answer r).1 := by
  intro _ _ _ _ h
  cases r with
  | managedObjects root => cases h
  | method path interface member arguments => cases h
  | get path interface property =>
      simp only [Store.answer] at h
      split at h
      · cases h
      · split at h <;> cases h
  | getAll path interface =>
      simp only [Store.answer] at h
      split at h <;> cases h
  | set path interface property value =>
      simp only [Store.answer] at h
      split at h <;> cases h

namespace Session

open Store (Scripted)

/-! ## One turn -/

variable {s : Scripted}

theorem noDecode_once (h : Pending s) {c : Call} {use : c.Reply → Except Error Answer}
    (huse : ∀ reply, (s.store.answer c.request).1 = .ok reply → NoDecode (use reply)) :
    NoDecode ((Operation.once c use).runOn Scripted.remote s).1 := by
  rw [Operation.runOn_once]
  rcases answer_cases h c with ⟨hanswer, -⟩ | ⟨⟨operation, limit, hanswer⟩, -⟩
  · rw [hanswer]
    exact (s.store.noDecode_answer c.request).bind huse
  · rw [hanswer]
    intro _ _ _ _ heq
    cases heq

/-- A store answers a reading with the value that it holds. -/
theorem value?_of_answer_get {store : Store} {path interface name : String} {v : Variant}
    (h : (store.answer (.get path interface name)).1 = .ok v) :
    store.value? path interface name = some v := by
  simp only [Store.answer] at h
  unfold Store.value?
  split at h
  · cases h
  · rename_i props hprops
    rw [hprops, Option.bind_some]
    split at h
    · cases h
    · rename_i v' hv'
      cases h
      exact hv'

/-- On a conforming store, what is asked for with the declared kind is of that kind. -/
theorem Turn.play_noDecode {t : Turn} (h : Pending s) (hs : s.store.Conforming)
    (ht : t.deed.Typed) : NoDecode (t.play s).1 := by
  rw [play_eq]
  have hstart := h.start t
  cases hd : t.deed with
  | settled result =>
      rw [hd] at ht
      exact ht
  | list use =>
      exact noDecode_once hstart fun reply _ => (ObjectTree.noDecode_ofManagedObjects reply).map use
  | get path interface name => exact noDecode_once hstart fun value _ => .ok _
  | readAll path interface use => exact noDecode_once hstart fun props _ => .ok _
  | invoke path interface member arguments => exact noDecode_once hstart fun _ _ => .ok _
  | read path type interface name =>
      rw [hd] at ht
      obtain ⟨d, hdeclared, hkind⟩ := ht
      refine noDecode_once hstart fun v hv => ?_
      -- what the store holds has the declared kind, which is the one asked for
      rw [start_store] at hv
      have hv' : v.kind = type.kind :=
        (hs.value? (value?_of_answer_get hv) hdeclared).trans hkind
      obtain ⟨a, ha⟩ := PropertyType.readWith_decode hv' interface name
      rw [ha]
      exact .ok a
  | write w =>
      have hcheck := Schema.noDecode_checkWrite w.interface w.property w.value
      simp only [Deed.operation]
      split
      · rename_i e he
        rw [he] at hcheck
        exact hcheck.error
      · exact noDecode_once hstart fun _ _ => .ok _

/-- A turn keeps a store conforming, and its fixed part as it is. -/
theorem report_conforming (h : Pending s) (hs : s.store.Conforming) (t : Turn) :
    (t.report s).after.Conforming ∧ (t.report s).after.fixedPart = s.store.fixedPart := by
  rcases report_cases h t with ⟨w, -, hafter, -, hallows⟩ | ⟨-, hafter⟩
  · rw [hafter]
    exact ⟨hs.apply hallows, Store.fixedPart_apply hallows⟩
  · rw [hafter]
    exact ⟨hs, rfl⟩

/-! ## The whole session -/

/-- **Sessions respect the declarations.** From a conforming store, whatever commands are given to
whichever proxies and whichever round trips time out: after every turn the store conforms, what the
declarations fix has the value that it had at first, or still none, and no answer is the error for
a value of another kind than was asked for, unless the caller chose the type. -/
theorem session_type_sound {store : Store} (hstore : store.Conforming) (ts : List Turn) :
    ∀ r ∈ reports ts { store },
      r.after.Conforming ∧
      r.after.fixedPart = store.fixedPart ∧
      (∀ path interface property, Schema.Fixed interface property →
        r.after.value? path interface property = store.value? path interface property) ∧
      ((∀ path type interface name,
          r.turn.command ≠ .properties path (.getAs type interface name)) →
        NoDecode r.answer) := by
  intro r hr
  -- every turn keeps the store conforming and its fixed part that of the first store
  have hstep : ∀ s (t : Turn), Pending s →
      s.store.Conforming ∧ s.store.fixedPart = store.fixedPart →
      (t.play s).2.store.Conforming ∧ (t.play s).2.store.fixedPart = store.fixedPart := by
    intro s t hs ⟨hconforming, hfixed⟩
    obtain ⟨hafter, hkeeps⟩ := report_conforming hs hconforming t
    exact ⟨hafter, hkeeps.trans hfixed⟩
  obtain ⟨s, hs, ⟨hconforming, hfixed⟩, hreport⟩ :=
    reports_invariant hstep (Pending.init store) ⟨hstore, rfl⟩ hr
  obtain ⟨hafter, hafterFixed⟩ := report_conforming hs hconforming r.turn
  rw [← hreport] at hafter hafterFixed
  have hpart : r.after.fixedPart = store.fixedPart := hafterFixed.trans hfixed
  refine ⟨hafter, hpart, ?_, ?_⟩
  · intro path interface property h
    have hbool := Schema.isFixed_iff.mpr h
    rw [Store.value?_eq_fixedPart hbool, Store.value?_eq_fixedPart hbool, hpart]
  · intro hcommand
    rw [hreport]
    exact r.turn.play_noDecode hs hconforming (r.turn.directory.deed_typed hcommand)

/-- A store with one adapter. -/
def oneAdapter : Store :=
  ⟨[(ObjectPath.root, [(Interface.adapter,
    SortedMap.ofList [("Alias", .text "desk"), ("Class", .uint32 0), ("Powered", .bool true)])])]⟩

/-- The adapter of `oneAdapter` is renamed, once in time and once too late, and asked for its
name. -/
def renames : List Turn :=
  let directory : Directory := ⟨.session, .standard⟩
  [⟨directory, .adapter "/" (.setAlias "shelf"), false⟩,
   ⟨directory, .adapter "/" (.setAlias "attic"), true⟩,
   ⟨directory, .adapter "/" .aliasName, false⟩]

theorem renames_type_sound : oneAdapter.Conforming ∧
    ∀ r ∈ reports renames { store := oneAdapter },
      r.after.Conforming ∧ r.after.fixedPart = oneAdapter.fixedPart ∧ NoDecode r.answer := by
  have hconforming : oneAdapter.Conforming := by decide
  refine ⟨hconforming, fun r hr => ?_⟩
  obtain ⟨hafter, hfixed, -, hanswer⟩ := session_type_sound hconforming renames r hr
  refine ⟨hafter, hfixed, hanswer ?_⟩
  intro path type interface name h
  simp only [renames, reports, List.mem_cons, List.not_mem_nil, or_false] at hr
  rcases hr with rfl | rfl | rfl <;> cases h

end Session

end BluetoothDirectory
