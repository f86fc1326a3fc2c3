import BluetoothDirectory.ObjectTree.Kind
import BluetoothDirectory.ObjectTree.Query
import BluetoothDirectory.Proofs.Flattening
import Mathlib.Data.List.Forall2
import Mathlib.Data.Set.Basic
import Mathlib.Logic.Relation

/-!
# What queries ignore

Queries look for two interfaces and read three properties, and `ManagedObjects.Edit` says what else
may change about an answer. What an edit leaves of an answer is its footprint: the objects that have
one of the two interfaces, each with what the three properties of it are. Two trees with one
footprint have objects that match one by one (`Matches`), and a query is blind to the difference
between objects that match.
-/

namespace BluetoothDirectory

namespace Queried

/-- The interfaces that queries look for. -/
def interfaces : List String := [Interface.adapter, Interface.device]

/-- The properties that queries read, each with its interface. -/
def properties : List (String × String) :=
  [(Interface.adapter, "Name"), (Interface.adapter, "Address"), (Interface.device, "Adapter")]

theorem adapter_mem_interfaces : Interface.adapter ∈ interfaces := by
  simp [interfaces]

theorem device_mem_interfaces : Interface.device ∈ interfaces := by
  simp [interfaces]

theorem mem_interfaces {interface property : String} (h : (interface, property) ∈ properties) :
    interface ∈ interfaces := by
  simp only [properties, List.mem_cons, Prod.mk.injEq, List.not_mem_nil, or_false] at h
  rcases h with ⟨rfl, -⟩ | ⟨rfl, -⟩ | ⟨rfl, -⟩
  · exact adapter_mem_interfaces
  · exact adapter_mem_interfaces
  · exact device_mem_interfaces

end Queried

namespace ManagedObjects

/-- A change of an answer in something that no query looks at. -/
inductive Edit : ManagedObjects → ManagedObjects → Prop
  /-- One more object, with neither of the interfaces that are looked for. -/
  | object (front back : ManagedObjects) (path : ObjectPath)
      {interfaces : List (String × Snapshot)}
      (unqueried : ∀ e ∈ interfaces, e.1 ∉ Queried.interfaces) :
      Edit (front ++ back) (front ++ (path, interfaces) :: back)
  /-- Another order of the interfaces of an object. -/
  | order (front back : ManagedObjects) (path : ObjectPath)
      {interfaces interfaces' : List (String × Snapshot)} (same : interfaces.Perm interfaces') :
      Edit (front ++ (path, interfaces) :: back) (front ++ (path, interfaces') :: back)
  /-- One more interface of an object, which is not looked for. -/
  | interface (front back : ManagedObjects) (path : ObjectPath)
      (before after : List (String × Snapshot)) {name : String} (props : Snapshot)
      (unqueried : name ∉ Queried.interfaces) :
      Edit (front ++ (path, before ++ after) :: back)
        (front ++ (path, before ++ (name, props) :: after) :: back)
  /-- Other properties of an interface, as far as they are not read. -/
  | properties (front back : ManagedObjects) (path : ObjectPath)
      (before after : List (String × Snapshot)) {name : String} {props props' : Snapshot}
      (same : ∀ property, (name, property) ∈ Queried.properties →
        props.get? property = props'.get? property) :
      Edit (front ++ (path, before ++ (name, props) :: after) :: back)
        (front ++ (path, before ++ (name, props') :: after) :: back)

/-! ## The footprint of an answer -/

/-- What queries see of an interface: its name, and the properties that they read. -/
def glimpse (e : String × Snapshot) : String × (String → Option Variant) :=
  (e.1, fun property => if (e.1, property) ∈ Queried.properties then e.2.get? property else none)

/-- What queries see of the interfaces of an object, in no order. -/
def glimpses (interfaces : List (String × Snapshot)) : Set (String × (String → Option Variant)) :=
  {g | ∃ e ∈ interfaces, e.1 ∈ Queried.interfaces ∧ glimpse e = g}

/-- Whether an object has an interface that queries look for. -/
def isQueried (interfaces : List (String × Snapshot)) : Bool :=
  interfaces.any fun e => decide (e.1 ∈ Queried.interfaces)

/-- What queries see of an answer. -/
def footprint (reply : ManagedObjects) :
    List (ObjectPath × Set (String × (String → Option Variant))) :=
  (reply.filter fun o => isQueried o.2).map fun o => (o.1, glimpses o.2)

section Footprint

variable {reply reply' front back : ManagedObjects} {path : ObjectPath}
  {interfaces interfaces' before after : List (String × Snapshot)}

theorem isQueried_iff : isQueried interfaces = true ↔ (glimpses interfaces).Nonempty := by
  simp only [isQueried, List.any_eq_true, decide_eq_true_eq]
  constructor
  · rintro ⟨e, he, hqueried⟩
    exact ⟨glimpse e, e, he, hqueried, rfl⟩
  · rintro ⟨_, e, he, hqueried, -⟩
    exact ⟨e, he, hqueried⟩

theorem footprint_append : footprint (front ++ back) = footprint front ++ footprint back := by
  simp only [footprint, List.filter_append, List.map_append]

/-- An object counts by what queries see of it. -/
theorem footprint_congr (h : glimpses interfaces = glimpses interfaces') :
    footprint (front ++ (path, interfaces) :: back) =
      footprint (front ++ (path, interfaces') :: back) := by
  have hqueried : isQueried interfaces = isQueried interfaces' := by
    rw [Bool.eq_iff_iff, isQueried_iff, isQueried_iff, h]
  rw [footprint_append, footprint_append]
  simp only [footprint, List.filter_cons, hqueried]
  split
  · rw [List.map_cons, List.map_cons, h]
  · rfl

theorem mem_glimpses_append {g : String × (String → Option Variant)} :
    g ∈ glimpses (before ++ after) ↔ g ∈ glimpses before ∨ g ∈ glimpses after := by
  simp only [glimpses, Set.mem_ofPred_eq, List.mem_append, or_and_right, exists_or]

theorem mem_glimpses_cons {e : String × Snapshot} {g : String × (String → Option Variant)} :
    g ∈ glimpses (e :: after) ↔
      (e.1 ∈ Queried.interfaces ∧ glimpse e = g) ∨ g ∈ glimpses after := by
  simp only [glimpses, Set.mem_ofPred_eq, List.mem_cons, or_and_right, exists_or, exists_eq_left]

theorem glimpse_eq {name : String} {props props' : Snapshot}
    (h : ∀ property, (name, property) ∈ Queried.properties →
      props.get? property = props'.get? property) :
    glimpse (name, props) = glimpse (name, props') := by
  refine congrArg (Prod.mk name) (funext fun property => ?_)
  split
  · rename_i hproperty
    exact h property hproperty
  · rfl

/-- An edit leaves the footprint as it is. -/
theorem Edit.footprint_eq (h : Edit reply reply') : footprint reply = footprint reply' := by
  cases h with
  | @object front back path interfaces unqueried =>
      have hnot : isQueried interfaces = false := by
        simpa [isQueried] using unqueried
      rw [footprint_append, footprint_append]
      simp only [footprint, List.filter_cons, hnot, Bool.false_eq_true, if_false]
  | order front back path same =>
      refine footprint_congr (Set.ext fun g => ?_)
      simp only [glimpses, Set.mem_ofPred_eq, same.mem_iff]
  | interface front back path before after props unqueried =>
      refine footprint_congr (Set.ext fun g => ?_)
      simp only [mem_glimpses_append, mem_glimpses_cons, unqueried, false_and, false_or]
  | properties front back path before after same =>
      refine footprint_congr (Set.ext fun g => ?_)
      simp only [mem_glimpses_append, mem_glimpses_cons, glimpse_eq same]

/-- So do any number of edits, made or undone. -/
theorem footprint_eq_of_edits (h : Relation.EqvGen Edit reply reply') :
    footprint reply = footprint reply' := by
  induction h with
  | rel r r' hedit => exact hedit.footprint_eq
  | refl r => rfl
  | symm r r' _ ih => exact ih.symm
  | trans r r' r'' _ _ ih ih' => exact ih.trans ih'

end Footprint

end ManagedObjects

/-! ## Objects that match -/

namespace RemoteObject

open ManagedObjects

/-- Two objects that queries cannot tell apart. -/
structure Matches (o o' : RemoteObject) : Prop where
  path_eq : o.path = o'.path
  glimpses_eq : glimpses o.interfaces = glimpses o'.interfaces

namespace Matches

variable {o o' : RemoteObject} {interface property : String}

theorem symm (h : Matches o o') : Matches o' o :=
  ⟨h.path_eq.symm, h.glimpses_eq.symm⟩

/-- A queried interface of one object is one of the other, with the same values of the properties
that are read. -/
theorem exists_properties (h : Matches o o') (hqueried : interface ∈ Queried.interfaces)
    {props : Snapshot} (hprops : o.properties? interface = some props) :
    ∃ props', o'.properties? interface = some props' ∧
      ∀ property, (interface, property) ∈ Queried.properties →
        props.get? property = props'.get? property := by
  have hglimpse : glimpse (interface, props) ∈ glimpses o'.interfaces := by
    rw [← h.glimpses_eq]
    exact ⟨_, properties?_eq_some_iff.mp hprops, hqueried, rfl⟩
  obtain ⟨⟨name, props'⟩, hmem, -, heq⟩ := hglimpse
  obtain rfl : name = interface := congrArg Prod.fst heq
  refine ⟨props', properties?_eq_some_iff.mpr hmem, fun property hproperty => ?_⟩
  have hvalue := congrFun (congrArg Prod.snd heq) property
  simp only [glimpse, hproperty, if_true] at hvalue
  exact hvalue.symm

theorem hasInterface_eq (h : Matches o o') (hqueried : interface ∈ Queried.interfaces) :
    o.hasInterface interface = o'.hasInterface interface := by
  rw [Bool.eq_iff_iff, hasInterface_eq_isSome, hasInterface_eq_isSome, Option.isSome_iff_exists,
    Option.isSome_iff_exists]
  constructor
  · rintro ⟨props, hprops⟩
    obtain ⟨props', hprops', -⟩ := h.exists_properties hqueried hprops
    exact ⟨props', hprops'⟩
  · rintro ⟨props, hprops⟩
    obtain ⟨props', hprops', -⟩ := h.symm.exists_properties hqueried hprops
    exact ⟨props', hprops'⟩

/-- The properties that are read have the same values, if any. -/
theorem value_eq (h : Matches o o') (hproperty : (interface, property) ∈ Queried.properties) :
    ((o.properties? interface).bind fun props => props.get? property) =
      (o'.properties? interface).bind fun props => props.get? property := by
  have hqueried := Queried.mem_interfaces hproperty
  cases hprops : o.properties? interface with
  | some props =>
      obtain ⟨props', hprops', hread⟩ := h.exists_properties hqueried hprops
      rw [hprops', Option.bind_some, Option.bind_some, hread property hproperty]
  | none =>
      cases hprops' : o'.properties? interface with
      | none => rfl
      | some props' =>
          obtain ⟨props, hsome, -⟩ := h.symm.exists_properties hqueried hprops'
          rw [hprops] at hsome
          cases hsome

theorem adapterTextContains_eq (h : Matches o o')
    (hproperty : (Interface.adapter, property) ∈ Queried.properties) (needle : String) :
    o.adapterTextContains property needle = o'.adapterTextContains property needle := by
  have hread := congrArg (Option.bind · (Variant.Payload.ofVariant? (α := String)))
    (h.value_eq hproperty)
  simp only [Option.bind_assoc] at hread
  unfold adapterTextContains Snapshot.getAs?
  rw [hread]

theorem isAdapterNamed_eq (h : Matches o o') (needle : String) :
    o.isAdapterNamed needle = o'.isAdapterNamed needle := by
  rw [isAdapterNamed, isAdapterNamed, h.adapterTextContains_eq (by simp [Queried.properties]),
    h.adapterTextContains_eq (by simp [Queried.properties])]

theorem deviceAdapter?_eq (h : Matches o o') : o.deviceAdapter? = o'.deviceAdapter? := by
  rw [deviceAdapter?, deviceAdapter?, h.value_eq (by simp [Queried.properties])]

end Matches

/-- Whether an object is an adapter that is looked for. -/
def isSought (o : RemoteObject) (pattern : Option String) : Bool :=
  o.hasInterface Interface.adapter &&
    pattern.all fun needle => needle.isEmpty || o.isAdapterNamed needle

end RemoteObject

/-! ## Queries on two trees -/

namespace ObjectTree

open ManagedObjects RemoteObject

variable {t t' : ObjectTree}

theorem footprint_listed (t : ObjectTree) :
    footprint t.listed = (t.objects.filter fun o => isQueried o.interfaces).map fun o =>
      (o.path, glimpses o.interfaces) := by
  rw [footprint, listed, List.filter_map, List.map_map]
  rfl

/-- The objects of two trees with one footprint match, as far as queries look for them. -/
theorem matching (h : footprint t.listed = footprint t'.listed) :
    List.Forall₂ Matches (t.objects.filter fun o => isQueried o.interfaces)
      (t'.objects.filter fun o => isQueried o.interfaces) := by
  rw [footprint_listed, footprint_listed, ← List.forall₂_eq_eq_eq, List.forall₂_map_left_iff,
    List.forall₂_map_right_iff] at h
  exact h.imp fun o o' heq => ⟨(Prod.ext_iff.mp heq).1, (Prod.ext_iff.mp heq).2⟩

theorem isQueried_of_hasInterface {o : RemoteObject} {interface : String}
    (hqueried : interface ∈ Queried.interfaces) (h : o.hasInterface interface = true) :
    isQueried o.interfaces = true := by
  obtain ⟨e, he, hname⟩ := List.any_eq_true.mp h
  refine List.any_eq_true.mpr ⟨e, he, ?_⟩
  rw [beq_iff_eq.mp hname]
  exact decide_eq_true hqueried

/-- A query that asks for a queried interface and cannot tell matching objects apart finds the same
paths in both trees. -/
theorem paths_filter_eq (h : footprint t.listed = footprint t'.listed)
    {accepts : RemoteObject → Bool} {interface : String}
    (hqueried : interface ∈ Queried.interfaces)
    (hasks : ∀ o, accepts o = true → o.hasInterface interface = true)
    (hblind : ∀ o o', Matches o o' → accepts o = accepts o') :
    (t.objects.filter accepts).map (·.path) = (t'.objects.filter accepts).map (·.path) := by
  have hnarrow : ∀ l : List RemoteObject,
      (l.filter fun o => isQueried o.interfaces).filter accepts = l.filter accepts := by
    intro l
    rw [List.filter_filter]
    refine List.filter_congr fun o _ => ?_
    cases ho : accepts o with
    | false => rfl
    | true => rw [isQueried_of_hasInterface hqueried (hasks o ho), Bool.true_and]
  have hfiltered : List.Forall₂ Matches (t.objects.filter accepts) (t'.objects.filter accepts) := by
    rw [← hnarrow t.objects, ← hnarrow t'.objects]
    refine List.rel_filter (fun o o' hmatch => ?_) (matching h)
    show accepts o = true ↔ accepts o' = true
    rw [hblind o o' hmatch]
  rw [← List.forall₂_eq_eq_eq, List.forall₂_map_left_iff, List.forall₂_map_right_iff]
  exact hfiltered.imp fun o o' hmatch => hmatch.path_eq

theorem findAdapter?_eq (t : ObjectTree) (pattern : Option String) :
    t.findAdapter? pattern = (t.objects.filter fun o => o.isSought pattern).head? := by
  cases pattern with
  | none => simp only [findAdapter?, withInterface, isSought, Option.all_none, Bool.and_true]
  | some needle =>
      simp only [findAdapter?, withInterface, isSought, Option.all_some]
      cases needle.isEmpty with
      | true => simp only [if_true, Bool.true_or, Bool.and_true]
      | false =>
          simp only [Bool.false_eq_true, if_false, Bool.false_or]
          rw [← List.head?_filter, List.filter_filter]
          simp only [Bool.and_comm]

section SameFootprint

variable (h : footprint t.listed = footprint t'.listed)
include h

theorem findAdapter?_path_eq (pattern : Option String) :
    (t.findAdapter? pattern).map (·.path) = (t'.findAdapter? pattern).map (·.path) := by
  have hqueried := Queried.adapter_mem_interfaces
  rw [findAdapter?_eq, findAdapter?_eq, ← List.head?_map, ← List.head?_map]
  refine congrArg List.head?
    (paths_filter_eq h hqueried (fun o ho => (Bool.and_eq_true_iff.mp ho).1) ?_)
  intro o o' hmatch
  simp only [isSought, hmatch.hasInterface_eq hqueried, hmatch.isAdapterNamed_eq]

theorem withInterface_paths_eq {interface : String} (hqueried : interface ∈ Queried.interfaces) :
    (t.withInterface interface).map (·.path) = (t'.withInterface interface).map (·.path) :=
  paths_filter_eq h hqueried (fun _ ho => ho) fun _ _ hmatch => hmatch.hasInterface_eq hqueried

theorem devicePaths_eq (accepts : String → Bool) :
    t.devicePaths accepts = t'.devicePaths accepts := by
  have hqueried := Queried.device_mem_interfaces
  rw [devicePaths, devicePaths, withInterface, withInterface, List.filter_filter,
    List.filter_filter]
  refine paths_filter_eq h hqueried (fun o ho => (Bool.and_eq_true_iff.mp ho).2) ?_
  intro o o' hmatch
  rw [hmatch.deviceAdapter?_eq, hmatch.hasInterface_eq hqueried]

end SameFootprint

/-- In a tree each path tells its object. -/
theorem mem_withInterface_paths_iff {o : RemoteObject} (ho : o ∈ t.objects) {interface : String} :
    o.path ∈ (t.withInterface interface).map (·.path) ↔ interface ∈ o.interfaceNames := by
  rw [← RemoteObject.hasInterface_iff]
  constructor
  · intro hmem
    obtain ⟨o', ho', hpath⟩ := List.mem_map.mp hmem
    obtain ⟨hmem', hinterface⟩ := List.mem_filter.mp ho'
    rwa [← List.inj_on_of_nodup_map t.distinct hmem' ho hpath]
  · exact fun hinterface => List.mem_map_of_mem (List.mem_filter.mpr ⟨ho, hinterface⟩)

/-- Objects at one path have the same kind in both trees. -/
theorem kind_eq (h : footprint t.listed = footprint t'.listed) {o o' : RemoteObject}
    (ho : o ∈ t.objects) (ho' : o' ∈ t'.objects) (hpath : o.path = o'.path) :
    o.kind = o'.kind := by
  have hsame : ∀ interface ∈ Queried.interfaces,
      (interface ∈ o.interfaceNames ↔ interface ∈ o'.interfaceNames) := by
    intro interface hqueried
    rw [← mem_withInterface_paths_iff ho, ← mem_withInterface_paths_iff ho',
      withInterface_paths_eq h hqueried, hpath]
  rw [RemoteObject.kind, RemoteObject.kind, ObjectKind.classify_eq, ObjectKind.classify_eq, hpath]
  simp only [hsame _ Queried.adapter_mem_interfaces, hsame _ Queried.device_mem_interfaces]

/-- **Queries ignore everything else.** Two answers that differ by any edits make trees in which
every query finds the same paths, and in which an object that both have is of the same kind. -/
theorem queries_ignore_edits {reply reply' : ManagedObjects} (hreply : reply.WellFormed)
    (hreply' : reply'.WellFormed) (hedits : Relation.EqvGen Edit reply reply') :
    ∃ t t', ofManagedObjects reply = .ok t ∧ ofManagedObjects reply' = .ok t' ∧
      (∀ pattern : Option String,
        (t.findAdapter? pattern).map (·.path) = (t'.findAdapter? pattern).map (·.path)) ∧
      t.adapterPaths = t'.adapterPaths ∧
      (∀ accepts : String → Bool, t.devicePaths accepts = t'.devicePaths accepts) ∧
      ∀ o ∈ t.objects, ∀ o' ∈ t'.objects, o.path = o'.path → o.kind = o'.kind := by
  obtain ⟨t, ht⟩ := exists_ofManagedObjects_iff.mpr hreply
  obtain ⟨t', ht'⟩ := exists_ofManagedObjects_iff.mpr hreply'
  have h : footprint t.listed = footprint t'.listed := by
    rw [ofManagedObjects_eq_ok_iff.mp ht, ofManagedObjects_eq_ok_iff.mp ht']
    exact footprint_eq_of_edits hedits
  exact ⟨t, t', ht, ht', findAdapter?_path_eq h,
    withInterface_paths_eq h Queried.adapter_mem_interfaces, devicePaths_eq h,
    fun o ho o' ho' hpath => kind_eq h ho ho' hpath⟩

/-! ## An answer and an edited one -/

namespace Edited

/-- An adapter. -/
def before : ManagedObjects :=
  [(⟨"/hci0", by decide⟩,
    [(Interface.adapter, .ofList [("Name", .text "desk"), ("Powered", .bool false)]),
      (Interface.properties, .empty)])]

/-- The same adapter in another state, with its interfaces in another order and one object
more. -/
def after : ManagedObjects :=
  [(.root, []),
    (⟨"/hci0", by decide⟩,
      [(Interface.properties, .empty),
        (Interface.adapter, .ofList [("Name", .text "desk"), ("Powered", .bool true)])])]

theorem edits : Relation.EqvGen Edit before after := by
  have hobject := Edit.object [] before .root (@List.forall_mem_nil _ _)
  refine .trans _ _ _ (.rel _ _ hobject) ?_
  refine .trans _ _ _ (.rel _ _ (.order [(.root, [])] [] _ (.swap _ _ []))) ?_
  refine .rel _ _ (.properties [(.root, [])] [] _ [(Interface.properties, .empty)] [] ?_)
  intro property h
  simp only [Queried.properties, List.mem_cons, Prod.mk.injEq, true_and, List.not_mem_nil,
    or_false, show Interface.adapter ≠ Interface.device by decide, false_and] at h
  rcases h with rfl | rfl <;> rfl

/-- Both find the adapter by its name, and no device. -/
theorem adapter_found_in_both :
    before.WellFormed ∧ after.WellFormed ∧ Relation.EqvGen Edit before after ∧
    ∃ t t', ofManagedObjects before = .ok t ∧ ofManagedObjects after = .ok t' ∧
      (t.findAdapter? (some "desk")).map (·.path) =
        (t'.findAdapter? (some "desk")).map (·.path) ∧
      t.adapterPaths = t'.adapterPaths ∧
      t.devicePaths (fun _ => true) = t'.devicePaths fun _ => true := by
  have hbefore : before.WellFormed := ⟨by decide, by decide⟩
  have hafter : after.WellFormed := ⟨by decide, by decide⟩
  obtain ⟨t, t', ht, ht', hfind, hadapters, hdevices, -⟩ :=
    queries_ignore_edits hbefore hafter edits
  exact ⟨hbefore, hafter, edits, t, t', ht, ht', hfind (some "desk"), hadapters, hdevices _⟩

end Edited

end ObjectTree

end BluetoothDirectory
