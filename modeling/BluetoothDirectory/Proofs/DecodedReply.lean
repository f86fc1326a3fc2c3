import BluetoothDirectory.Proofs.Decoding

/-!
# Decoded replies

Every value in a reply is decoded by itself. A reply that lists objects is taken as a list of
objects in which paths, interfaces and properties may come again, the last one counting, and a
`Place` is such a list with one value left open: filling it with another value changes what is
decoded there, if anything, and leaves all else as it is.
-/

namespace BluetoothDirectory.Wire

open Peer.Scripted (listing propertyEntries)

/-! ## What is decoded from a list of objects -/

/-- The value that a list of objects has for a property on the bus. -/
def wireValue? (objects : WireObjects) (path : ObjectPath) (interface property : String) :
    Option Value :=
  ((lastUnder? path objects).bind (lastUnder? interface)).bind (lastUnder? property)

/-- The paths in a list of objects, each with the names of its interfaces. -/
def shape (objects : WireObjects) : List (ObjectPath × List String) :=
  objects.map fun o => (o.1, o.2.map Prod.fst)

theorem lookup_decodeInterfaces (l : List (String × List (String × Value))) (interface : String) :
    (decodeInterfaces l).lookup interface =
      (lastUnder? interface l).map fun props => snapshot (propertyEntries props) := by
  have hget := SortedMap.get?_ofList
    (l.map fun i => (i.1, snapshot (propertyEntries i.2))) interface
  exact hget.trans (lastUnder?_map_snd (fun props => snapshot (propertyEntries props)) interface l)

/-- A decoded property has the value that the one on the bus is decoded to. -/
theorem value?_decodeObjects (objects : WireObjects) (path : ObjectPath)
    (interface property : String) :
    Store.value? ⟨decodeObjects objects⟩ path.text interface property =
      (wireValue? objects path interface property).map Value.toVariant := by
  unfold Store.value? Store.properties? wireValue?
  rw [Store.find?_text, lookup_decodeObjects]
  cases lastUnder? path objects with
  | none => rfl
  | some l =>
      simp only [Option.map_some, Option.bind_some, lookup_decodeInterfaces]
      cases lastUnder? interface l with
      | none => rfl
      | some props => exact Value.get?_snapshot props property

theorem entries_ofList_map {α β : Type} (g : α → β) (pairs : List (String × α)) :
    (SortedMap.ofList (pairs.map fun e => (e.1, g e.2))).entries =
      (SortedMap.ofList pairs).entries.map fun e => (e.1, g e.2) := by
  refine eq_of_lookup_eq (r := fun i j => i < j) (fun _ _ => String.lt_asymm)
    (SortedMap.sorted _) (List.pairwise_map.mpr (SortedMap.sorted _)) fun k => ?_
  have hleft := SortedMap.get?_ofList (pairs.map fun e => (e.1, g e.2)) k
  have hright := SortedMap.get?_ofList pairs k
  rw [SortedMap.get?] at hleft hright
  rw [lookup_map_snd fun _ a => g a, hleft, hright]
  exact lastUnder?_map_snd g k pairs

/-- Names in ascending order, each once. -/
def sortedNames (names : List String) : List String :=
  (SortedMap.ofList (names.map fun n => (n, ()))).entries.map Prod.fst

theorem keys_decodeInterfaces (l : List (String × List (String × Value))) :
    (decodeInterfaces l).map Prod.fst = sortedNames (l.map Prod.fst) := by
  have hunit := entries_ofList_map (fun _ => ())
    (l.map fun i => (i.1, snapshot (propertyEntries i.2)))
  unfold sortedNames decodeInterfaces
  rw [List.map_map] at hunit ⊢
  show _ = (SortedMap.ofList (l.map ((fun e => (e.1, ())) ∘ fun i =>
    (i.1, snapshot (propertyEntries i.2))))).entries.map Prod.fst
  rw [hunit, List.map_map]
  rfl

/-- Which objects and interfaces are decoded depends on the shape alone. -/
theorem layout_decodeObjects (objects : WireObjects) :
    Store.layout ⟨decodeObjects objects⟩ =
      (SortedMap.ofList ((shape objects).map fun o =>
        (o.1.text, o.1, sortedNames o.2))).entries.map (·.2) := by
  have hnames := entries_ofList_map
    (fun o : ObjectPath × List (String × Snapshot) => (o.1, o.2.map Prod.fst))
    (objects.map fun o => (o.1.text, o.1, decodeInterfaces o.2))
  rw [List.map_map] at hnames
  have hshape : (shape objects).map (fun o => (o.1.text, o.1, sortedNames o.2)) =
      objects.map ((fun e : String × ObjectPath × List (String × Snapshot) =>
        (e.1, e.2.1, e.2.2.map Prod.fst)) ∘ fun o => (o.1.text, o.1, decodeInterfaces o.2)) := by
    unfold shape
    rw [List.map_map]
    refine List.map_congr_left fun o _ => ?_
    simp only [Function.comp_apply, keys_decodeInterfaces]
  unfold Store.layout decodeObjects
  rw [hshape, hnames, List.map_map, List.map_map]
  rfl

/-! ## Replies that list objects -/

/-- A reply that lists objects can be read only if the names of the interfaces obey the rule. -/
theorem named_of_readReply? {objects : WireObjects} {root : String} {reply : ManagedObjects}
    (h : (Request.managedObjects root).readReply? [listing objects] = some reply) :
    ∀ o ∈ objects, ∀ i ∈ o.2, BusName.isInterface i.1 = true := by
  have hall : ∀ {α : Type} {f : Value × Value → Option (String × α)} {l : List (Value × Value)}
      {pairs : List (String × α)}, l.mapM f = some pairs → ∀ e ∈ l, (f e).isSome = true := by
    intro α f l pairs hl
    rw [mapM_eq_ite] at hl
    split at hl
    · rename_i hsome
      exact List.all_eq_true.mp hsome
    · cases hl
  intro o ho i hi
  obtain ⟨objectPairs, hobjects, -⟩ := Option.map_eq_some_iff.mp h
  have hobject := hall hobjects _ (List.mem_map_of_mem ho)
  simp only [Option.isSome_map, objectEntry?] at hobject
  obtain ⟨interfaces, hinterfaces⟩ := Option.isSome_iff_exists.mp hobject
  obtain ⟨interfacePairs, hpairs, -⟩ := Option.map_eq_some_iff.mp hinterfaces
  have hinterface := hall hpairs _ (List.mem_map_of_mem hi)
  by_contra hname
  simp only [hname, interfaceEntry?] at hinterface
  cases hinterface

/-- A well-typed reply that lists objects is a listing. -/
theorem exists_listing {w : Value} (hw : w.Typed)
    (hty : w.ty = .dict .objectPath (.dict .text (.dict .text .variant))) :
    ∃ objects, w = listing objects := by
  have hpath : ∀ v : Value, v.ty = .objectPath → ∃ p, v = .objectPath p := by
    intro v hv
    cases v <;> cases hv
    exact ⟨_, rfl⟩
  have hprops : ∀ v : Value, v.ty = .dict .text .variant → v.Typed →
      ∃ l, v = .dict .text .variant (propertyEntries l) ∧ True := by
    intro v hv htyped
    obtain ⟨l, hl, -⟩ := Value.exists_properties_of_ty hv htyped
    exact ⟨l, hl, trivial⟩
  have hinterfaces : ∀ v : Value, v.ty = .dict .text (.dict .text .variant) → v.Typed →
      ∃ l : List (String × List (String × Value)), v = .dict .text (.dict .text .variant)
        (l.map fun i => (.text i.1, .dict .text .variant (propertyEntries i.2))) ∧ True := by
    intro v hv htyped
    cases v <;> cases hv
    obtain ⟨l, rfl, -⟩ := Value.exists_map_entries (fun v => Value.exists_text) hprops htyped
    exact ⟨l, rfl, trivial⟩
  cases w <;> cases hty
  obtain ⟨objects, rfl, -⟩ := Value.exists_map_entries hpath hinterfaces hw
  exact ⟨objects, rfl⟩

/-! ## Changing one value -/

/-- A list of objects with one value left open. -/
structure Place where
  front : WireObjects
  path : ObjectPath
  frontInterfaces : List (String × List (String × Value))
  interface : String
  frontProperties : List (String × Value)
  property : String
  backProperties : List (String × Value)
  backInterfaces : List (String × List (String × Value))
  back : WireObjects

namespace Place

/-- The properties of the interface with a value put in. -/
def fillProperties (p : Place) (v : Value) : List (String × Value) :=
  p.frontProperties ++ (p.property, v) :: p.backProperties

/-- The interfaces of the object with a value put in. -/
def fillInterfaces (p : Place) (v : Value) : List (String × List (String × Value)) :=
  p.frontInterfaces ++ (p.interface, p.fillProperties v) :: p.backInterfaces

/-- The list of objects with a value put in. -/
def fill (p : Place) (v : Value) : WireObjects :=
  p.front ++ (p.path, p.fillInterfaces v) :: p.back

/-- Nothing that comes later overrides the value. -/
structure Last (p : Place) : Prop where
  path : p.path ∉ p.back.map Prod.fst
  interface : p.interface ∉ p.backInterfaces.map Prod.fst
  property : p.property ∉ p.backProperties.map Prod.fst

theorem shape_fill (p : Place) (v w : Value) : shape (p.fill v) = shape (p.fill w) := by
  simp [shape, fill, fillInterfaces]

/-- Other properties do not see the value. -/
theorem wireValue?_fill_of_ne {p : Place} {path : ObjectPath} {interface property : String}
    (h : ¬ (path = p.path ∧ interface = p.interface ∧ property = p.property)) (v w : Value) :
    wireValue? (p.fill v) path interface property =
      wireValue? (p.fill w) path interface property := by
  unfold wireValue? fill
  rw [lastUnder?_between, lastUnder?_between]
  by_cases hpath : path = p.path
  · rw [if_pos hpath, if_pos hpath]
    cases lastUnder? path p.back with
    | some l => rfl
    | none =>
        simp only [Option.none_or, Option.bind_some]
        unfold fillInterfaces
        rw [lastUnder?_between, lastUnder?_between]
        by_cases hinterface : interface = p.interface
        · rw [if_pos hinterface, if_pos hinterface]
          cases lastUnder? interface p.backInterfaces with
          | some props => rfl
          | none =>
              -- the same interface of the same object, so it is another property
              have hproperty : property ≠ p.property := fun heq => h ⟨hpath, hinterface, heq⟩
              simp only [Option.none_or, Option.bind_some]
              unfold fillProperties
              rw [lastUnder?_between, lastUnder?_between, if_neg hproperty, if_neg hproperty]
        · rw [if_neg hinterface, if_neg hinterface]
  · rw [if_neg hpath, if_neg hpath]

/-- The property itself has the value, unless something overrides it. -/
theorem wireValue?_fill_self {p : Place} (h : p.Last) (v : Value) :
    wireValue? (p.fill v) p.path p.interface p.property = some v := by
  unfold wireValue? fill fillInterfaces fillProperties
  simp only [lastUnder?_between, lastUnder?_eq_none_iff.mpr h.path,
    lastUnder?_eq_none_iff.mpr h.interface, lastUnder?_eq_none_iff.mpr h.property, if_true,
    Option.none_or, Option.bind_some]

/-- A reply with another value at a place can be read as well, and shows a change there only. -/
theorem readReply?_fill {p : Place} {root : String} {v : Value} {reply : ManagedObjects}
    (h : (Request.managedObjects root).readReply? [listing (p.fill v)] = some reply) (w : Value) :
    ∃ reply', (Request.managedObjects root).readReply? [listing (p.fill w)] = some reply' ∧
      Store.layout ⟨reply'⟩ = Store.layout ⟨reply⟩ ∧
      (∀ (path : ObjectPath) (interface property : String),
        ¬ (path = p.path ∧ interface = p.interface ∧ property = p.property) →
        Store.value? ⟨reply'⟩ path.text interface property =
          Store.value? ⟨reply⟩ path.text interface property) ∧
      (p.Last → Store.value? ⟨reply'⟩ p.path.text p.interface p.property = some w.toVariant) := by
  have hnamed := named_of_readReply? h
  obtain rfl : decodeObjects (p.fill v) = reply :=
    Option.some.inj ((managedObjects?_listing hnamed root).symm.trans h)
  -- whether the names obey the rule is a matter of the shape
  have hnames : ∀ o ∈ p.fill w, ∀ i ∈ o.2, BusName.isInterface i.1 = true := by
    intro o ho i hi
    have hmem : (o.1, o.2.map Prod.fst) ∈ shape (p.fill v) := by
      rw [p.shape_fill v w]
      exact List.mem_map_of_mem ho
    obtain ⟨o', ho', heq⟩ := List.mem_map.mp hmem
    have hsame : o'.2.map Prod.fst = o.2.map Prod.fst := congrArg Prod.snd heq
    have hmember : i.1 ∈ o'.2.map Prod.fst := by
      rw [hsame]
      exact List.mem_map_of_mem hi
    obtain ⟨i', hi', hname⟩ := List.mem_map.mp hmember
    rw [← hname]
    exact hnamed o' ho' i' hi'
  refine ⟨decodeObjects (p.fill w), managedObjects?_listing hnames root, ?_, ?_, ?_⟩
  · rw [layout_decodeObjects, layout_decodeObjects, p.shape_fill w v]
  · intro path interface property hother
    rw [value?_decodeObjects, value?_decodeObjects, wireValue?_fill_of_ne hother w v]
  · intro hlast
    rw [value?_decodeObjects, wireValue?_fill_self hlast]
    rfl

end Place

/-- A reply with the properties of one interface shows a change of one value at its name only. -/
theorem get?_snapshot_change (front : List (String × Value)) (name : String) (v w : Value)
    (back : List (String × Value)) :
    (∀ other, other ≠ name →
      (snapshot (propertyEntries (front ++ (name, w) :: back))).get? other =
        (snapshot (propertyEntries (front ++ (name, v) :: back))).get? other) ∧
    (name ∉ back.map Prod.fst →
      (snapshot (propertyEntries (front ++ (name, w) :: back))).get? name = some w.toVariant) := by
  constructor
  · intro other hother
    rw [Value.get?_snapshot, Value.get?_snapshot, lastUnder?_between, lastUnder?_between,
      if_neg hother, if_neg hother]
  · intro hlast
    rw [Value.get?_snapshot, lastUnder?_between, lastUnder?_eq_none_iff.mpr hlast]
    simp

/-- **Decoding neither loses nor mislabels anything that has a form.** A value whose signature is
among the representable ones is decoded to a value of the kind with that signature, and any other
keeps its signature. A dictionary from texts to variants keeps its keys, and under each one stands
what the last value of the key is decoded to by itself. Of two values in which everything is
representable the decoded ones are equal if and only if they differ in the order of dictionary
entries and in overridden ones alone. In a reply with the properties of an interface or with all
objects, a change of one value shows at its own property and nowhere else. -/
theorem decoding_faithful :
    (∀ w : Value,
      (w.signatureText ∈ representable → w.toVariant.kind.signature = w.signatureText) ∧
      (w.signatureText ∉ representable → w.toVariant = .unsupported w.signatureText)) ∧
    (∀ w : Value, w.Typed → w.signatureText = Variant.Kind.signature .dict →
      ∃ (l : List (String × Value)) (m : SortedMap Variant),
        w = .properties l ∧ (∀ e ∈ l, e.2.Typed) ∧ w.toVariant = .dict m.entries ∧
        (∀ k, k ∈ m.entries.map Prod.fst ↔ k ∈ l.map Prod.fst) ∧
        ∀ k, m.get? k = (lastUnder? k l).map Value.toVariant) ∧
    (∀ v w : Value, v.Representable → w.Representable →
      (v.toVariant = w.toVariant ↔ v.Alike w)) ∧
    (∀ (path interface : String) (front : List (String × Value)) (name : String) (v w : Value)
      (back : List (String × Value)), ∃ s s',
        (Request.getAll path interface).readReply? [.properties (front ++ (name, v) :: back)] =
          some s ∧
        (Request.getAll path interface).readReply? [.properties (front ++ (name, w) :: back)] =
          some s' ∧
        (∀ other, other ≠ name → SortedMap.get? s' other = SortedMap.get? s other) ∧
        (name ∉ back.map Prod.fst → SortedMap.get? s' name = some w.toVariant)) ∧
    (∀ w : Value, w.Typed → w.ty = .dict .objectPath (.dict .text (.dict .text .variant)) →
      ∃ objects, w = listing objects) ∧
    (∀ (p : Place) (root : String) (v w : Value) (reply : ManagedObjects),
      (Request.managedObjects root).readReply? [listing (p.fill v)] = some reply →
      ∃ reply', (Request.managedObjects root).readReply? [listing (p.fill w)] = some reply' ∧
        Store.layout ⟨reply'⟩ = Store.layout ⟨reply⟩ ∧
        (∀ (path : ObjectPath) (interface property : String),
          ¬ (path = p.path ∧ interface = p.interface ∧ property = p.property) →
          Store.value? ⟨reply'⟩ path.text interface property =
            Store.value? ⟨reply⟩ path.text interface property) ∧
        (p.Last →
          Store.value? ⟨reply'⟩ p.path.text p.interface p.property = some w.toVariant)) := by
  refine ⟨fun w => ⟨Value.signature_kind_toVariant, Value.toVariant_of_notMem⟩, ?_,
    fun v w => Value.toVariant_eq_iff_alike, ?_, fun w => exists_listing,
    fun p root v w reply h => p.readReply?_fill h w⟩
  · intro w hw h
    obtain ⟨l, rfl, hl⟩ := Value.exists_properties hw h
    exact ⟨l, snapshot (propertyEntries l), rfl, hl, Value.toVariant_properties l,
      fun k => Value.mem_keys_snapshot, Value.get?_snapshot l⟩
  · intro path interface front name v w back
    obtain ⟨hothers, hself⟩ := get?_snapshot_change front name v w back
    exact ⟨_, _, rfl, rfl, hothers, hself⟩

end BluetoothDirectory.Wire
