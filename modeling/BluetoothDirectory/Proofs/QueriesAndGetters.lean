import BluetoothDirectory.Proofs.Flattening
import BluetoothDirectory.Proofs.Summary

/-!
# Queries and getters

A query reads a tree of all objects, a getter one property of a store, each with its own way of
reading a value. They agree: a query finds an adapter by its name or address if and only if one of
its getters answers such a text (`named_iff`), and a device by its adapter if and only if its getter
answers such a path (`exists_adapter_iff`). So what the queries find can be told from the getters.
-/

namespace BluetoothDirectory

/-! ## A store and its tree -/

namespace Store

variable {α : Type} {s : Store} {t : ObjectTree} {d : Directory} {p : ObjectPath}

/-- Properties are the same in the tree of a store, where each path has one object. -/
theorem properties?_of_listed (ht : t.listed = s.objects) {o : RemoteObject} (ho : o ∈ t.objects)
    (interface : String) : s.properties? o.path.text interface = o.properties? interface := by
  have hget : t.objects.find? (fun o' => o'.path.text == o.path.text) = some o :=
    ObjectTree.get?_eq_some_iff.mpr ⟨ho, rfl⟩
  have hfind : s.objects.find? (fun entry => entry.1.text == o.path.text) = some o.listed := by
    rw [← ht, ObjectTree.listed, List.find?_map]
    exact congrArg (Option.map RemoteObject.listed) hget
  rw [properties?, hfind]
  rfl

/-- A query is answered from the tree of the store, which stays as it is. -/
theorem runOn_query (ht : t.listed = s.objects) (query : ObjectTree → α) :
    (do let tree ← d.managedObjects; return query tree : Operation α).runOn remote s =
      (.ok (query t), s) := by
  show (d.managedObjects >>= fun tree => Operation.ofExcept (.ok (query tree))).runOn remote s = _
  rw [d.managedObjects_eq_once, Operation.once_bind_ofExcept, Operation.runOn_once]
  simp only [remote, answer]
  show ((ObjectTree.ofManagedObjects s.objects >>= fun tree => .ok (query tree)), s) = _
  rw [ObjectTree.ofManagedObjects_eq_ok_iff.mpr ht]
  rfl

/-- A getter answers what a lenient reading of the properties finds. -/
theorem runOn_getAs_eq_ok_iff [Variant.Payload α] {interface name : String} {x : α} :
    ((d.access p).getAs α interface name).runOn remote s = (.ok x, s) ↔
      ((s.properties? p.text interface).bind fun props => props.getAs? α name) = some x := by
  cases h : s.properties? p.text interface with
  | none =>
      rw [PropertyAccess.getAs_eq_once, Operation.runOn_once]
      simp [remote, answer, h, bind, Except.bind]
  | some props =>
      have hstate : (((d.access p).getAs α interface name).runOn remote s).2 = s := by
        rw [PropertyAccess.getAs_eq_once, Operation.runOn_once]
        simp only [remote, answer, h]
        cases props.get? name <;> rfl
      have hreply := reply_getAs (d := d) (α := α) h name
      rw [Prod.ext_iff, Option.bind_some]
      show s.reply _ = _ ∧ _ ↔ _
      rw [hreply, hstate]
      rcases props.getAs?_decode (α := α) interface name with
        ⟨y, hget, hdecode⟩ | ⟨hget, e, hdecode, -⟩
      · simp [hget, hdecode]
      · simp [hget, hdecode]

end Store

/-! ## Adapters by name or address -/

/-- The getter of an adapter's name or that of its address answers a text in which another occurs,
letters of the ASCII alphabet being compared without case. -/
def Adapter.Named (a : Adapter) (s : Store) (pattern : String) : Prop :=
  ∃ text, (a.name.runOn Store.remote s = (.ok text, s) ∨
      a.address.runOn Store.remote s = (.ok text, s)) ∧
    Text.lowercase pattern <:+: Text.lowercase text

theorem RemoteObject.adapterTextContains_iff {o : RemoteObject} {name needle : String} :
    o.adapterTextContains name needle = true ↔
      ∃ text, ((o.properties? Interface.adapter).bind fun props =>
          Snapshot.getAs? String props name) = some text ∧
        Text.lowercase needle <:+: Text.lowercase text := by
  unfold adapterTextContains
  cases (o.properties? Interface.adapter).bind fun props => Snapshot.getAs? String props name with
  | none => simp
  | some text => simp [Text.occursIn_iff_infix]

section Queries

variable {s : Store} {t : ObjectTree} (ht : t.listed = s.objects) (d : Directory)
include ht

/-- The query asks of an adapter what its getters answer. -/
theorem Adapter.named_iff {o : RemoteObject} (ho : o ∈ t.objects) {pattern : String} :
    Adapter.Named ⟨d.access o.path⟩ s pattern ↔ o.isAdapterNamed pattern = true := by
  have hgetter : ∀ name text,
      ((d.access o.path).getAs String Interface.adapter name).runOn Store.remote s =
          (.ok text, s) ↔
        ((o.properties? Interface.adapter).bind fun props => props.getAs? String name) =
          some text := by
    intro name text
    rw [Store.runOn_getAs_eq_ok_iff, Store.properties?_of_listed ht ho]
  rw [RemoteObject.isAdapterNamed, Bool.or_eq_true, RemoteObject.adapterTextContains_iff,
    RemoteObject.adapterTextContains_iff, ← exists_or]
  refine exists_congr fun text => ?_
  rw [← or_and_right]
  exact and_congr_left fun _ => or_congr (hgetter "Name" text) (hgetter "Address" text)

/-- The first adapter that the query finds is the first that its getters tell. -/
theorem Adapter.first_named {pattern : String} {o : RemoteObject}
    (h : (t.withInterface Interface.adapter).find? (fun o => o.isAdapterNamed pattern) = some o) :
    Adapter.Named ⟨d.access o.path⟩ s pattern ∧
      ∃ front back, t.adapterPaths.map (fun p => Adapter.mk (d.access p)) =
          front ++ ⟨d.access o.path⟩ :: back ∧
        ∀ b ∈ front, ¬ b.Named s pattern := by
  obtain ⟨hnamed, front, back, hsplit, hfront⟩ := List.find?_eq_some_iff_append.mp h
  have hmem : ∀ o' ∈ front ++ o :: back, o' ∈ t.objects := by
    rw [← hsplit]
    exact fun o' ho' => List.mem_of_mem_filter ho'
  refine ⟨(Adapter.named_iff ht d (hmem o (by simp))).mpr hnamed,
    front.map fun o' => ⟨d.access o'.path⟩, back.map fun o' => ⟨d.access o'.path⟩, ?_, ?_⟩
  · simp only [ObjectTree.adapterPaths, hsplit, List.map_map, List.map_append, List.map_cons]
    rfl
  · intro b hb hbnamed
    obtain ⟨o', ho', rfl⟩ := List.mem_map.mp hb
    have hnot := hfront o' ho'
    rw [(Adapter.named_iff ht d (hmem o' (by simp [ho']))).mp hbnamed] at hnot
    cases hnot

/-- Where the query finds no adapter, the getters tell none. -/
theorem Adapter.none_named {pattern : String}
    (h : (t.withInterface Interface.adapter).find? (fun o => o.isAdapterNamed pattern) = none) :
    ∀ a ∈ t.adapterPaths.map (fun p => Adapter.mk (d.access p)), ¬ a.Named s pattern := by
  intro a ha hnamed
  obtain ⟨p, hp, rfl⟩ := List.mem_map.mp ha
  obtain ⟨o, ho, rfl⟩ := List.mem_map.mp hp
  exact List.find?_eq_none.mp h o ho
    ((Adapter.named_iff ht d (List.mem_of_mem_filter ho)).mp hnamed)

/-! ## Devices by adapter -/

/-- The query reads of a device what its getter answers. -/
theorem Device.adapter_eq_ok_iff {o : RemoteObject} (ho : o ∈ t.objects) {q : ObjectPath} :
    (Device.adapter ⟨d.access o.path⟩).runOn Store.remote s = (.ok q, s) ↔
      o.deviceAdapter? = some q := by
  refine Store.runOn_getAs_eq_ok_iff.trans ?_
  rw [Store.properties?_of_listed ht ho, RemoteObject.deviceAdapter?, Option.bind_assoc]
  rfl

/-- The query lists the devices whose getters answer a path that it accepts. -/
theorem Device.mem_devicePaths_iff {accepts : String → Bool} {path : ObjectPath} :
    path ∈ t.devicePaths accepts ↔
      (∃ interfaces props, (path, interfaces) ∈ s.objects ∧
        (Interface.device, props) ∈ interfaces) ∧
      ∃ q, (Device.adapter ⟨d.access path⟩).runOn Store.remote s = (.ok q, s) ∧
        accepts q.text = true := by
  simp only [ObjectTree.devicePaths, List.mem_map, List.mem_filter, ObjectTree.withInterface,
    RemoteObject.hasInterface_eq_isSome, Option.isSome_iff_exists,
    RemoteObject.properties?_eq_some_iff, Option.any_eq_true]
  constructor
  · rintro ⟨o, ⟨⟨ho, props, hprops⟩, q, hq, haccepts⟩, rfl⟩
    refine ⟨⟨o.interfaces, props, ?_, hprops⟩, q, (Device.adapter_eq_ok_iff ht d ho).mpr hq,
      haccepts⟩
    rw [← ht]
    exact List.mem_map_of_mem ho
  · rintro ⟨⟨interfaces, props, hmem, hprops⟩, q, hq, haccepts⟩
    rw [← ht] at hmem
    obtain ⟨o, ho, heq⟩ := List.mem_map.mp hmem
    cases heq
    exact ⟨o, ⟨⟨ho, props, hprops⟩, q, (Device.adapter_eq_ok_iff ht d ho).mp hq, haccepts⟩, rfl⟩

end Queries

/-- **Queries agree with the getters.** On a store whose objects make a tree, an adapter that is
found by a text has it in the answer of its getter of the name or of the address, and no adapter
listed before it has; where none is found, no adapter that is listed has it. A device is listed for
a pattern if and only if the store has it and its getter answers the path of an adapter that the
pattern matches. No query and no getter changes the store, so that they may be asked in any
order. -/
theorem Store.queries_agree_with_getters {s : Store} (hs : s.objects.WellFormed)
    (d : Directory) :
    (∀ pattern : String, pattern ≠ "" → ∃ found listed,
      (d.findAdapter (some pattern)).runOn remote s = (.ok found, s) ∧
      d.adapters.runOn remote s = (.ok listed, s) ∧
      (listed.map Adapter.path).Nodup ∧
      (∀ a, found = some a → a.Named s pattern ∧
        ∃ front back, listed = front ++ a :: back ∧ ∀ b ∈ front, ¬ b.Named s pattern) ∧
      (found = none → ∀ a ∈ listed, ¬ a.Named s pattern)) ∧
    ∀ (pattern : String) (compiled : Pattern), Pattern.compile? pattern = some compiled →
      ∃ listed, (d.devices pattern).runOn remote s = (.ok listed, s) ∧
        ∀ path, path ∈ listed.map Device.path ↔
          (∃ interfaces props, (path, interfaces) ∈ s.objects ∧
            (Interface.device, props) ∈ interfaces) ∧
          ∃ v q, d.device path.text = .ok v ∧ v.adapter.runOn remote s = (.ok q, s) ∧
            compiled.isMatch q.text = true := by
  obtain ⟨t, htree⟩ := ObjectTree.exists_ofManagedObjects_iff.mpr hs
  have ht : t.listed = s.objects := ObjectTree.ofManagedObjects_eq_ok_iff.mp htree
  constructor
  · intro pattern hpattern
    have hfind : t.findAdapter? (some pattern) =
        (t.withInterface Interface.adapter).find? fun o => o.isAdapterNamed pattern := by
      simp [ObjectTree.findAdapter?, hpattern]
    refine ⟨_, _, runOn_query ht _, runOn_query ht _, ?_, ?_, ?_⟩
    · rw [List.map_map]
      show (t.adapterPaths.map id).Nodup
      rw [List.map_id]
      exact t.distinct.sublist (List.filter_sublist.map _)
    · intro a ha
      rw [hfind] at ha
      obtain ⟨o, ho, rfl⟩ := Option.map_eq_some_iff.mp ha
      exact Adapter.first_named ht d ho
    · intro hnone
      rw [hfind] at hnone
      exact Adapter.none_named ht d (Option.map_eq_none_iff.mp hnone)
  · intro pattern compiled hcompiled
    have hdevices : d.devices pattern =
        (do let tree ← d.managedObjects
            return (tree.devicePaths compiled.isMatch).map fun q => ⟨d.access q⟩) := by
      rw [Directory.devices, Operation.ofExcept_bind]
      simp only [Directory.compilePattern, hcompiled]
    refine ⟨_, hdevices ▸ runOn_query ht _, fun path => ?_⟩
    have hdevice : d.device path.text = .ok ⟨d.access path⟩ := by
      simp only [Directory.device, Directory.readPath, ObjectPath.ofString?_text]
      rfl
    rw [List.map_map]
    show path ∈ (t.devicePaths compiled.isMatch).map id ↔ _
    rw [List.map_id, Device.mem_devicePaths_iff ht d]
    simp only [hdevice, Except.ok.injEq, exists_and_left, exists_eq_left']

/-! ## Finding one adapter of two -/

namespace Store.Desk

theorem isValid_hci0 : ObjectPath.isValid "/hci0".toList = true := by decide

/-- Two adapters, of which the second has a name that can be read, and a device of that adapter. -/
def store : Store :=
  ⟨[(⟨"/hci0", isValid_hci0⟩, [(Interface.adapter, .ofList [("Name", .uint32 0)])]),
    (⟨"/hci1", by decide⟩, [(Interface.adapter, .ofList [("Name", .text "Desk")])]),
    (⟨"/hci1/dev", by decide⟩,
      [(Interface.device, .ofList [("Adapter", .objectPath ⟨"/hci1", by decide⟩)])])]⟩

/-- The adapter that is found by its name answers it, and the device that is listed for a pattern
answers a path that it matches. -/
theorem desk_found :
    store.objects.WellFormed ∧
    (∃ a, (Directory.findAdapter default (some "DESK")).runOn remote store = (.ok (some a), store) ∧
      a.Named store "DESK") ∧
    ∃ compiled v q, Pattern.compile? "hci1$" = some compiled ∧
      (Directory.devices default "hci1$").runOn remote store = (.ok [v], store) ∧
      v.adapter.runOn remote store = (.ok q, store) ∧ compiled.isMatch q.text = true := by
  have hs : store.objects.WellFormed := ⟨by decide, by decide⟩
  obtain ⟨hadapters, hdevices⟩ := Store.queries_agree_with_getters hs default
  refine ⟨hs, ?_, ?_⟩
  · obtain ⟨found, listed, hfind, -, -, hfound, -⟩ := hadapters "DESK" (by decide)
    have hrun : (Directory.findAdapter default (some "DESK")).runOn remote store =
        (.ok (some ⟨Directory.access default ⟨"/hci1", by decide⟩⟩), store) := rfl
    refine ⟨_, hrun, (hfound _ ?_).1⟩
    rw [hrun] at hfind
    exact (Except.ok.inj (Prod.ext_iff.mp hfind).1).symm
  · obtain ⟨listed, hrun, hlisted⟩ := hdevices "hci1$" _ rfl
    have hdevice : (Directory.devices default "hci1$").runOn remote store =
        (.ok [⟨Directory.access default ⟨"/hci1/dev", by decide⟩⟩], store) := rfl
    rw [hdevice] at hrun
    obtain rfl := Except.ok.inj (Prod.ext_iff.mp hrun).1
    obtain ⟨-, v, q, hv, hq, hmatch⟩ :=
      (hlisted ⟨"/hci1/dev", by decide⟩).mp (List.mem_cons_self ..)
    cases hv
    exact ⟨_, _, q, rfl, hdevice, hq, hmatch⟩

end Store.Desk

end BluetoothDirectory
