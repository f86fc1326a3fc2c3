import BluetoothDirectory.ObjectTree.Query
import BluetoothDirectory.Proofs.Flattening
import Mathlib.Data.List.Basic

/-!
# What queries select

A query selects objects with an interface, each once and in the order of the tree
(`ObjectTree.found_of_sublist`). Devices are selected by the path of their adapter, where their
properties as a device tell one: the answer that a tree is made from says for each path what that
is (`ManagedObjects.TellsAdapter`), and the selection has exactly the paths for which it is
accepted. So it grows with what is accepted, and what is accepted and what is not share the devices
between them.
-/

namespace BluetoothDirectory

/-! ## Objects with an interface -/

namespace ObjectTree

variable {t : ObjectTree} {interface : String}

theorem withInterface_sublist (t : ObjectTree) (interface : String) :
    (t.withInterface interface).Sublist t.objects :=
  List.filter_sublist

theorem findAdapter?_sublist (t : ObjectTree) (pattern : Option String) :
    (t.findAdapter? pattern).toList.Sublist (t.withInterface Interface.adapter) := by
  have hhead : ∀ l : List RemoteObject, l.head?.toList.Sublist l := by
    intro l
    cases l with
    | nil => exact .slnil
    | cons o l => exact .cons_cons o (List.nil_sublist l)
  cases pattern with
  | none => exact hhead _
  | some needle =>
      simp only [findAdapter?]
      split
      · exact hhead _
      · cases hfind : (t.withInterface Interface.adapter).find? (·.isAdapterNamed needle) with
        | none => exact List.nil_sublist _
        | some o => exact List.singleton_sublist.mpr (List.mem_of_find?_eq_some hfind)

theorem devicePaths_sublist (t : ObjectTree) (accepts : String → Bool) :
    (t.devicePaths accepts).Sublist ((t.withInterface Interface.device).map (·.path)) :=
  List.filter_sublist.map _

/-- Paths of objects with an interface, in the order of the tree, are those of different objects
that have it. -/
theorem found_of_sublist {ps : List ObjectPath}
    (h : ps.Sublist ((t.withInterface interface).map (·.path))) :
    (∀ p ∈ ps, ∃ o ∈ t.objects, o.path = p ∧ o.hasInterface interface = true) ∧ ps.Nodup := by
  constructor
  · intro p hp
    obtain ⟨o, ho, rfl⟩ := List.mem_map.mp (h.subset hp)
    obtain ⟨hmem, hhas⟩ := List.mem_filter.mp ho
    exact ⟨o, hmem, rfl, hhas⟩
  · exact t.distinct.sublist (h.trans ((t.withInterface_sublist interface).map _))

end ObjectTree

/-! ## Devices by adapter -/

/-- The answer tells a path as the adapter of an object at a path, among its properties as a
device. -/
def ManagedObjects.TellsAdapter (reply : ManagedObjects) (path adapter : ObjectPath) : Prop :=
  ∃ interfaces props, (path, interfaces) ∈ reply ∧ (Interface.device, props) ∈ interfaces ∧
    props.get? "Adapter" = some (.objectPath adapter)

theorem RemoteObject.deviceAdapter?_eq_some_iff {o : RemoteObject} {adapter : ObjectPath} :
    o.deviceAdapter? = some adapter ↔
      ∃ props, (Interface.device, props) ∈ o.interfaces ∧
        props.get? "Adapter" = some (.objectPath adapter) := by
  have hread (v : Variant) : v.objectPath? = some adapter ↔ v = .objectPath adapter := by
    cases v <;> simp [Variant.objectPath?]
  simp only [deviceAdapter?, Option.bind_eq_some_iff, properties?_eq_some_iff, hread]
  constructor
  · rintro ⟨v, ⟨props, hprops, hget⟩, rfl⟩
    exact ⟨props, hprops, hget⟩
  · rintro ⟨props, hprops, hget⟩
    exact ⟨_, ⟨props, hprops, hget⟩, rfl⟩

namespace ObjectTree

variable {t : ObjectTree} {accepts accepts' : String → Bool} {path adapter adapter' : ObjectPath}

/-- In a tree the object at a path is asked. -/
theorem tellsAdapter_listed_iff :
    t.listed.TellsAdapter path adapter ↔
      ∃ o ∈ t.objects, o.path = path ∧ o.deviceAdapter? = some adapter := by
  simp only [RemoteObject.deviceAdapter?_eq_some_iff]
  constructor
  · rintro ⟨interfaces, props, hmem, hprops, hget⟩
    obtain ⟨o, ho, heq⟩ := List.mem_map.mp hmem
    cases heq
    exact ⟨o, ho, rfl, props, hprops, hget⟩
  · rintro ⟨o, ho, rfl, props, hprops, hget⟩
    exact ⟨o.interfaces, props, List.mem_map_of_mem ho, hprops, hget⟩

/-- No path is told two adapters. -/
theorem tellsAdapter_unique (h : t.listed.TellsAdapter path adapter)
    (h' : t.listed.TellsAdapter path adapter') : adapter = adapter' := by
  obtain ⟨o, ho, rfl, htold⟩ := tellsAdapter_listed_iff.mp h
  obtain ⟨o', ho', hpath, htold'⟩ := tellsAdapter_listed_iff.mp h'
  obtain rfl := List.inj_on_of_nodup_map t.distinct ho' ho hpath
  exact Option.some.inj (htold.symm.trans htold')

/-- An object that has an adapter as a device has the interface of a device, so that it is enough to
ask for the adapter. -/
theorem devicePaths_eq_filter (t : ObjectTree) (accepts : String → Bool) :
    t.devicePaths accepts =
      (t.objects.filter fun o => o.deviceAdapter?.any fun p => accepts p.text).map (·.path) := by
  rw [devicePaths, withInterface, List.filter_filter]
  refine congrArg (List.map _) (List.filter_congr fun o _ => ?_)
  cases hdevice : o.deviceAdapter? with
  | none => rfl
  | some adapter =>
      obtain ⟨props, hprops, -⟩ := RemoteObject.deviceAdapter?_eq_some_iff.mp hdevice
      rw [RemoteObject.hasInterface_eq_isSome, RemoteObject.properties?_eq_some_iff.mpr hprops]
      exact Bool.and_true _

theorem mem_devicePaths_iff :
    path ∈ t.devicePaths accepts ↔
      ∃ adapter, t.listed.TellsAdapter path adapter ∧ accepts adapter.text = true := by
  simp only [devicePaths_eq_filter, List.mem_map, List.mem_filter, Option.any_eq_true,
    tellsAdapter_listed_iff]
  constructor
  · rintro ⟨o, ⟨ho, adapter, htold, haccepts⟩, rfl⟩
    exact ⟨adapter, ⟨o, ho, rfl, htold⟩, haccepts⟩
  · rintro ⟨adapter, ⟨o, ho, rfl, htold⟩, haccepts⟩
    exact ⟨o, ⟨ho, adapter, htold, haccepts⟩, rfl⟩

theorem devicePaths_sublist_listed (t : ObjectTree) (accepts : String → Bool) :
    (t.devicePaths accepts).Sublist (t.listed.map Prod.fst) := by
  rw [listed, List.map_map]
  exact (t.devicePaths_sublist accepts).trans ((t.withInterface_sublist _).map _)

/-- The more is accepted, the more is selected. -/
theorem devicePaths_mono (h : ∀ text, accepts text = true → accepts' text = true) :
    (t.devicePaths accepts).Sublist (t.devicePaths accepts') := by
  rw [devicePaths_eq_filter, devicePaths_eq_filter]
  refine (List.monotone_filter_right t.objects fun o ho => ?_).map _
  rw [Option.any_eq_true] at ho ⊢
  obtain ⟨adapter, htold, haccepts⟩ := ho
  exact ⟨adapter, htold, h _ haccepts⟩

/-- **The selection of devices is exact.** From the tree of an answer, those paths are selected at
which the answer has an object with the interface of a device and, among the properties of this, an
adapter that is given as a path and accepted; they come in the order of the answer, and none comes
twice. Whoever accepts less selects a part of it in the same order, and each device that has a path
for its adapter is selected either by a condition or by its negation. -/
theorem devicePaths_exact {reply : ManagedObjects} {t : ObjectTree}
    (h : ofManagedObjects reply = .ok t) :
    (∀ accepts : String → Bool,
      (t.devicePaths accepts).Sublist (reply.map Prod.fst) ∧ (t.devicePaths accepts).Nodup ∧
      ∀ path, path ∈ t.devicePaths accepts ↔
        ∃ adapter, reply.TellsAdapter path adapter ∧ accepts adapter.text = true) ∧
    (∀ accepts accepts' : String → Bool,
      (∀ text, accepts text = true → accepts' text = true) →
      (t.devicePaths accepts).Sublist (t.devicePaths accepts')) ∧
    ∀ accepts : String → Bool,
      (t.devicePaths accepts).Disjoint (t.devicePaths fun text => !accepts text) ∧
      ∀ path, (∃ adapter, reply.TellsAdapter path adapter) ↔
        path ∈ t.devicePaths accepts ∨ path ∈ t.devicePaths fun text => !accepts text := by
  obtain rfl := ofManagedObjects_eq_ok_iff.mp h
  refine ⟨fun accepts => ?_, fun accepts accepts' => devicePaths_mono, fun accepts => ⟨?_, ?_⟩⟩
  · obtain ⟨-, hnodup⟩ := found_of_sublist (t.devicePaths_sublist accepts)
    exact ⟨t.devicePaths_sublist_listed accepts, hnodup, fun path => mem_devicePaths_iff⟩
  · intro path hmem hmem'
    obtain ⟨adapter, htold, haccepts⟩ := mem_devicePaths_iff.mp hmem
    obtain ⟨adapter', htold', hrefuses⟩ := mem_devicePaths_iff.mp hmem'
    rw [← tellsAdapter_unique htold htold', haccepts] at hrefuses
    cases hrefuses
  · intro path
    rw [mem_devicePaths_iff, mem_devicePaths_iff, ← exists_or]
    refine exists_congr fun adapter => ?_
    cases accepts adapter.text <;> simp

namespace Selected

theorem isValid_hci0 : ObjectPath.isValid "/hci0".toList = true := by decide

/-- Two devices, of which one has a text and no path for its adapter. -/
def reply : ManagedObjects :=
  [(⟨"/hci0/a", by decide⟩, [(Interface.device, .ofList [("Adapter", .text "/hci0")])]),
    (⟨"/hci0/b", by decide⟩,
      [(Interface.device, .ofList [("Adapter", .objectPath ⟨"/hci0", isValid_hci0⟩)])])]

/-- Only the other one is selected, whatever is accepted. -/
theorem text_not_selected :
    ∃ t, ofManagedObjects reply = .ok t ∧ t.devicePaths (· == "/hci0") = [⟨"/hci0/b", by decide⟩] ∧
      ∀ accepts, (⟨"/hci0/a", by decide⟩ : ObjectPath) ∉ t.devicePaths accepts := by
  have htree : ∃ t, ofManagedObjects reply = .ok t ∧ t.devicePaths (· == "/hci0") = _ :=
    ⟨_, rfl, rfl⟩
  obtain ⟨t, ht, hselected⟩ := htree
  refine ⟨t, ht, hselected, fun accepts hmem => ?_⟩
  obtain ⟨hexact, -, -⟩ := devicePaths_exact ht
  obtain ⟨adapter, ⟨interfaces, props, hobject, hprops, hget⟩, -⟩ :=
    ((hexact accepts).2.2 _).mp hmem
  obtain rfl : interfaces = [(Interface.device, .ofList [("Adapter", .text "/hci0")])] := by
    simpa [reply] using hobject
  obtain rfl : props = .ofList [("Adapter", .text "/hci0")] := by
    simpa using hprops
  cases hget

end Selected

end ObjectTree

end BluetoothDirectory
