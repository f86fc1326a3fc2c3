import BluetoothDirectory.Proofs.Irrelevance
import BluetoothDirectory.Proofs.Selection

/-!
# Kinds and queries

The kind of an object is found in one pass over the names of its interfaces, which may stop early.
Queries ask for each interface by itself. Both tell the same of an object
(`RemoteObject.kind_eq_adapter_iff`, `RemoteObject.kind_eq_device_iff`), except that an object with
both interfaces is listed among the adapters and among the devices, while its kind is that of an
adapter.
-/

namespace BluetoothDirectory

/-! ## Kinds by the set of interfaces -/

namespace ObjectKind

/-- What the names of the interfaces say, as a set, about the kind of an object at a path. -/
inductive Fits (path : ObjectPath) (names : List String) : ObjectKind → Prop
  | adapter (has : Interface.adapter ∈ names) : Fits path names (.adapter path)
  | device (lacks : Interface.adapter ∉ names) (has : Interface.device ∈ names) :
      Fits path names (.device path)
  | unknown (lacks : Interface.adapter ∉ names) (lacks' : Interface.device ∉ names) :
      Fits path names .unknown

variable {path : ObjectPath} {names names' : List String} {kind kind' : ObjectKind}

theorem fits_classify (path : ObjectPath) (names : List String) :
    Fits path names (classify path names) := by
  rw [classify_eq]
  split
  · rename_i hadapter
    exact .adapter hadapter
  · rename_i hadapter
    split
    · rename_i hdevice
      exact .device hadapter hdevice
    · rename_i hdevice
      exact .unknown hadapter hdevice

/-- The names leave no choice. -/
theorem Fits.unique (h : Fits path names kind) (h' : Fits path names kind') : kind = kind' := by
  cases h with
  | adapter has =>
      cases h' with
      | adapter => rfl
      | device lacks => exact absurd has lacks
      | unknown lacks => exact absurd has lacks
  | device lacks has =>
      cases h' with
      | adapter has' => exact absurd has' lacks
      | device => rfl
      | unknown _ lacks' => exact absurd has lacks'
  | unknown lacks lacks' =>
      cases h' with
      | adapter has => exact absurd has lacks
      | device _ has => exact absurd has lacks'
      | unknown => rfl

theorem classify_eq_iff : classify path names = kind ↔ Fits path names kind :=
  ⟨fun h => h ▸ fits_classify path names, (fits_classify path names).unique⟩

/-- Neither the order of the names nor their repetition is seen. -/
theorem classify_congr (path : ObjectPath) (h : ∀ name, name ∈ names ↔ name ∈ names') :
    classify path names = classify path names' := by
  rw [classify_eq, classify_eq]
  simp only [h]

end ObjectKind

/-! ## Kinds of the objects of a tree -/

namespace RemoteObject

variable {o : RemoteObject} {p : ObjectPath}

theorem kind_eq_adapter_iff :
    o.kind = .adapter p ↔ o.path = p ∧ o.hasInterface Interface.adapter = true := by
  rw [kind, ObjectKind.classify_eq_iff, hasInterface_iff]
  constructor
  · intro h
    cases h with
    | adapter has => exact ⟨rfl, has⟩
  · rintro ⟨rfl, has⟩
    exact .adapter has

theorem kind_eq_device_iff :
    o.kind = .device p ↔ o.path = p ∧ o.hasInterface Interface.device = true ∧
      ¬ o.hasInterface Interface.adapter = true := by
  rw [kind, ObjectKind.classify_eq_iff, hasInterface_iff, hasInterface_iff]
  constructor
  · intro h
    cases h with
    | device lacks has => exact ⟨rfl, has, lacks⟩
  · rintro ⟨rfl, has, lacks⟩
    exact .device lacks has

end RemoteObject

namespace ObjectTree

open RemoteObject

variable (t : ObjectTree)

/-- Kinds may be selected by selecting their objects. -/
theorem kinds_filterMap {wanted : ObjectKind → Option ObjectPath} {accepts : RemoteObject → Bool}
    (h : ∀ o p, wanted o.kind = some p ↔ o.path = p ∧ accepts o = true) :
    t.kinds.filterMap wanted = (t.objects.filter accepts).map (·.path) := by
  rw [kinds, List.filterMap_map, ← List.filterMap_eq_map, List.filterMap_filter]
  refine List.filterMap_congr fun o _ => Option.ext fun p => ?_
  rw [Function.comp_apply, h]
  cases accepts o <;> simp

theorem adapterPaths_eq_kinds :
    t.adapterPaths = (t.kinds.filter ObjectKind.isAdapter).filterMap ObjectKind.path? := by
  have hwanted : ∀ o p, (if o.kind.isAdapter = true then o.kind.path? else none) = some p ↔
      RemoteObject.path o = p ∧ o.hasInterface Interface.adapter = true := by
    intro o p
    rw [← kind_eq_adapter_iff]
    cases o.kind <;> simp [ObjectKind.isAdapter, ObjectKind.path?]
  rw [List.filterMap_filter, t.kinds_filterMap hwanted]
  rfl

theorem mem_adapterPaths_iff {o : RemoteObject} (ho : o ∈ t.objects) :
    o.path ∈ t.adapterPaths ↔ o.hasInterface Interface.adapter = true :=
  (mem_withInterface_paths_iff ho).trans hasInterface_iff.symm

theorem deviceKinds_eq :
    (t.kinds.filter ObjectKind.isDevice).filterMap ObjectKind.path? =
      ((t.withInterface Interface.device).map (·.path)).filter (· ∉ t.adapterPaths) := by
  have hwanted : ∀ o p, (if o.kind.isDevice = true then o.kind.path? else none) = some p ↔
      RemoteObject.path o = p ∧
        (!o.hasInterface Interface.adapter && o.hasInterface Interface.device) = true := by
    intro o p
    rw [Bool.and_eq_true, Bool.not_eq_true', ← Bool.not_eq_true, and_comm (b := _ = true),
      ← kind_eq_device_iff]
    cases o.kind <;> simp [ObjectKind.isDevice, ObjectKind.path?]
  rw [List.filterMap_filter, t.kinds_filterMap hwanted, ← List.filter_filter, List.filter_map]
  refine congrArg (List.map _) (List.filter_congr fun o ho => ?_)
  rw [Function.comp_apply, Bool.eq_iff_iff, Bool.not_eq_true', ← Bool.not_eq_true,
    decide_eq_true_iff, t.mem_adapterPaths_iff (List.mem_of_mem_filter ho)]

/-- **Kinds agree with the queries.** The kind of an object at a path follows from which interfaces
it has, in whatever order and however often they are named. In a tree the adapters that are listed
are the objects of the kind of an adapter, in the same order, and an object is of the kind of a
device if and only if it is listed with the interface of a device and not with that of an adapter.
A device that is selected has another kind only where it has both interfaces; then it is of the kind
of an adapter, and listed among the adapters too. -/
theorem kinds_agree_with_queries :
    (∀ (path : ObjectPath) (names : List String) (kind : ObjectKind),
      ObjectKind.classify path names = kind ↔ ObjectKind.Fits path names kind) ∧
    (∀ (path : ObjectPath) (names names' : List String), (∀ name, name ∈ names ↔ name ∈ names') →
      ObjectKind.classify path names = ObjectKind.classify path names') ∧
    ∀ t : ObjectTree,
      t.adapterPaths = (t.kinds.filter ObjectKind.isAdapter).filterMap ObjectKind.path? ∧
      (t.kinds.filter ObjectKind.isDevice).filterMap ObjectKind.path? =
        ((t.withInterface Interface.device).map (·.path)).filter (· ∉ t.adapterPaths) ∧
      (∀ o ∈ t.objects, ∀ p, o.kind = .device p ↔
        o.path = p ∧ o ∈ t.withInterface Interface.device ∧
          o ∉ t.withInterface Interface.adapter) ∧
      ∀ accepts : String → Bool, ∀ path ∈ t.devicePaths accepts, ∃ o,
        t.get? path.text = some o ∧ o.path = path ∧ Interface.device ∈ o.interfaceNames ∧
        (o.kind ≠ .device path ↔ Interface.adapter ∈ o.interfaceNames) ∧
        (Interface.adapter ∈ o.interfaceNames →
          o.kind = .adapter path ∧ path ∈ t.adapterPaths) := by
  refine ⟨fun path names kind => ObjectKind.classify_eq_iff,
    fun path names names' => ObjectKind.classify_congr path,
    fun t => ⟨t.adapterPaths_eq_kinds, t.deviceKinds_eq, ?_, ?_⟩⟩
  · intro o ho p
    have hlisted (interface : String) :
        o ∈ t.withInterface interface ↔ o.hasInterface interface = true := by
      rw [withInterface, List.mem_filter, and_iff_right ho]
    rw [hlisted, hlisted, kind_eq_device_iff]
  · intro accepts path hpath
    obtain ⟨hfound, -⟩ := found_of_sublist (t.devicePaths_sublist accepts)
    obtain ⟨o, ho, rfl, hdevice⟩ := hfound path hpath
    refine ⟨o, get?_eq_some_iff.mpr ⟨ho, rfl⟩, rfl, hasInterface_iff.mp hdevice, ?_, ?_⟩
    · rw [ne_eq, kind_eq_device_iff, ← hasInterface_iff]
      simp only [hdevice, true_and, not_not]
    · intro hadapter
      rw [kind_eq_adapter_iff, t.mem_adapterPaths_iff ho, hasInterface_iff]
      exact ⟨⟨rfl, hadapter⟩, hadapter⟩

end ObjectTree

end BluetoothDirectory
