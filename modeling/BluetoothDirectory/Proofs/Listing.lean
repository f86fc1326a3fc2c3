import BluetoothDirectory.Message.Scripted
import BluetoothDirectory.Proofs.StoreWrite

/-!
# Listings of what a service holds

What a service holds is a map from paths to interfaces to properties to values on the bus. A reply
lists it in any order; a store mirrors it when the values are decoded and everything is in order.
Decoding any listing gives the one store that mirrors the map.
-/

namespace BluetoothDirectory

/-- The properties of an interface, as a map to values on the bus. -/
abbrev Wire.Properties := String → Option Wire.Value

/-- The interfaces of an object, by name. -/
abbrev Wire.Interfaces := String → Option Wire.Properties

/-- What a service holds: objects by path. -/
abbrev Wire.Content := ObjectPath → Option Wire.Interfaces

namespace Wire.Content

/-- The properties of an interface of an object. -/
def properties? (c : Content) (path : ObjectPath) (interface : String) : Option Properties :=
  (c path).bind fun interfaces => interfaces interface

/-- Gives a property a value, where the object has the interface. -/
def set (c : Content) (path : ObjectPath) (interface property : String) (value : Value) : Content :=
  Function.update c path ((c path).map fun interfaces =>
    Function.update interfaces interface ((interfaces interface).map fun props =>
      Function.update props property (some value)))

/-- The names of all interfaces obey the rule. -/
def Named (c : Content) : Prop :=
  ∀ path interface, (c.properties? path interface).isSome = true →
    BusName.isInterface interface = true

/-- A list of objects, in any order, is of a content: it has each path, each interface of an object
and each property of an interface once, with the value that the content has. -/
def ListedBy (c : Content) (objects : WireObjects) : Prop :=
  Lists (Lists (Lists Eq)) objects c

theorem ListedBy.named {c : Content} {objects : WireObjects} (h : c.ListedBy objects)
    (hc : c.Named) : ∀ o ∈ objects, ∀ i ∈ o.2, BusName.isInterface i.1 = true := by
  intro o ho i hi
  obtain ⟨interfaces, hpath, hinterfaces⟩ := h.of_mem ho
  obtain ⟨props, hprops, -⟩ := hinterfaces.of_mem hi
  exact hc o.1 i.1 (by simp [properties?, hpath, hprops])

end Wire.Content

/-! ## Stores that mirror a content -/

namespace Store

/-- The properties of a snapshot are those of an interface, decoded. -/
def Decodes (props : Snapshot) (p : Wire.Properties) : Prop :=
  Describes (fun v w => v = w.toVariant) props.entries p

/-- A store mirrors a content: its objects are in ascending order by path, the interfaces of each
by name, and they are those of the content with decoded properties. -/
structure Mirrors (s : Store) (c : Wire.Content) : Prop where
  sorted : s.objects.Pairwise fun a b => a.1.text < b.1.text
  interfacesSorted : ∀ o ∈ s.objects, o.2.Pairwise fun a b => a.1 < b.1
  same : Describes (Describes Decodes) s.objects c

theorem Decodes.unique {a b : Snapshot} {p : Wire.Properties} (ha : Decodes a p)
    (hb : Decodes b p) : a = b := by
  have hentries : a.entries = b.entries :=
    Describes.unique (r := fun i j => i < j) (fun _ _ => String.lt_asymm) a.sorted b.sorted ha hb
      fun _ _ _ _ _ _ h h' => h.trans h'.symm
  cases a
  cases b
  simpa using hentries

/-- **There is one store that mirrors a content**, at most. -/
theorem Mirrors.unique {s t : Store} {c : Wire.Content} (hs : s.Mirrors c) (ht : t.Mirrors c) :
    s = t := by
  have hobjects : s.objects = t.objects := by
    refine Describes.unique (r := fun p q => p.text < q.text) (fun _ _ => String.lt_asymm)
      hs.sorted ht.sorted hs.same ht.same ?_
    intro path a b interfaces ha hb hsame hsame'
    exact Describes.unique (r := fun i j => i < j) (fun _ _ => String.lt_asymm)
      (hs.interfacesSorted _ ha) (ht.interfacesSorted _ hb) hsame hsame'
      fun _ _ _ _ _ _ h h' => h.unique h'
  cases s
  cases t
  simpa using hobjects

/-! ## Reading and writing -/

theorem find?_text {β : Type} (path : ObjectPath) (l : List (ObjectPath × β)) :
    l.find? (fun o => o.1.text == path.text) = (l.lookup path).map fun b => (path, b) := by
  induction l with
  | nil => rfl
  | cons o rest ih =>
      obtain ⟨p, b⟩ := o
      rw [SortedMap.lookup_cons_eq, List.find?_cons]
      by_cases hp : path = p
      · subst hp
        simp
      · have htext : (p.text == path.text) = false := by
          rw [beq_eq_false_iff_ne]
          exact fun h => hp (ObjectPath.ext_text h.symm)
        simp only [htext, hp, if_false, ih]

/-- A store that mirrors a content has an interface where the content has it, with the decoded
properties, and nowhere else. -/
theorem Mirrors.properties?_cases {s : Store} {c : Wire.Content} (h : s.Mirrors c)
    (path : ObjectPath) (interface : String) :
    (s.properties? path.text interface = none ∧ c.properties? path interface = none) ∨
    ∃ snapshot props, s.properties? path.text interface = some snapshot ∧
      c.properties? path interface = some props ∧ Decodes snapshot props := by
  unfold Store.properties? Wire.Content.properties?
  rw [find?_text]
  have hpath := h.same path
  cases hs : s.objects.lookup path with
  | none =>
      cases hc : c path with
      | none => exact .inl ⟨rfl, rfl⟩
      | some interfaces => simp [hs, hc] at hpath
  | some l =>
      cases hc : c path with
      | none => simp [hs, hc] at hpath
      | some interfaces =>
          rw [hs, hc, Option.rel_some_some] at hpath
          have hinterface := hpath interface
          simp only [Option.map_some, Option.bind_some]
          cases hl : l.lookup interface <;> cases hi : interfaces interface <;> simp_all

theorem Decodes.get? {props : Snapshot} {p : Wire.Properties} (h : Decodes props p)
    (name : String) : props.get? name = (p name).map Wire.Value.toVariant := by
  have hname := h name
  unfold SortedMap.get?
  cases hprops : props.entries.lookup name <;> cases hp : p name <;> simp_all

theorem Decodes.insert {props : Snapshot} {p : Wire.Properties} (h : Decodes props p)
    (name : String) (w : Wire.Value) :
    Decodes (props.insert name w.toVariant) (Function.update p name (some w)) := by
  intro k
  show Option.Rel _ ((props.insert name w.toVariant).get? k) _
  rw [SortedMap.get?_insert, Function.update_apply]
  by_cases hk : k = name
  · rw [if_pos hk, if_pos hk]
    exact .some rfl
  · rw [if_neg hk, if_neg hk]
    exact h k

/-- Writing to both keeps a store mirroring a content. -/
theorem Mirrors.write {s : Store} {c : Wire.Content} (h : s.Mirrors c) (path : ObjectPath)
    (interface property : String) (w : Wire.Value) :
    (s.write path.text interface property w.toVariant).Mirrors
      (c.set path interface property w) := by
  constructor
  · exact pairwise_updateFirst (r := fun p q : ObjectPath => p.text < q.text) h.sorted
  · intro o ho
    rcases mem_updateFirst ho with ho | ⟨interfaces, -, ho, heq⟩
    · exact h.interfacesSorted o ho
    · rw [heq]
      exact pairwise_updateFirst (r := fun i j : String => i < j) (h.interfacesSorted _ ho)
  · refine h.same.update (fun p => ?_) fun interfaces m hinterfaces => ?_
    · rw [beq_iff_eq]
      exact ⟨ObjectPath.ext_text, fun hp => by rw [hp]⟩
    · exact hinterfaces.update (fun _ => beq_iff_eq) fun props p hprops => hprops.insert property w

end Store

/-! ## Decoding a listing -/

namespace Wire

open Peer.Scripted (propertyEntries listing)

/-- The interfaces of a listed object, as they are decoded. -/
def decodeInterfaces (l : List (String × List (String × Value))) : List (String × Snapshot) :=
  (SortedMap.ofList (l.map fun i => (i.1, snapshot (propertyEntries i.2)))).entries

/-- Listed objects, as they are decoded. -/
def decodeObjects (objects : WireObjects) : ManagedObjects :=
  (SortedMap.ofList (objects.map fun o => (o.1.text, o.1, decodeInterfaces o.2))).entries.map (·.2)

theorem toVariants_propertyEntries (props : List (String × Value)) :
    Value.toVariants (propertyEntries props) = props.map fun p => (p.1, p.2.toVariant) := by
  unfold propertyEntries
  induction props with
  | nil => simp [Value.toVariants]
  | cons p rest ih =>
      rw [List.map_cons, Value.toVariants, ih, List.map_cons]

/-- A listing is read, if the names of the interfaces in it obey the rule. -/
theorem managedObjects?_listing {objects : WireObjects}
    (h : ∀ o ∈ objects, ∀ i ∈ o.2, BusName.isInterface i.1 = true) (root : String) :
    (Request.managedObjects root).readReply? [listing objects] = some (decodeObjects objects) := by
  have hinterfaces : ∀ o ∈ objects, interfaces? (o.2.map fun i =>
      (.text i.1, .dict .text .variant (propertyEntries i.2))) = some (decodeInterfaces o.2) := by
    intro o ho
    unfold interfaces?
    rw [mapM_map_eq_some (h := fun i => (i.1, snapshot (propertyEntries i.2)))]
    · rfl
    · intro i hi
      simp only [h o ho i hi, interfaceEntry?, if_true]
  show managedObjects? _ = _
  unfold managedObjects?
  rw [mapM_map_eq_some (h := fun o => (o.1.text, o.1, decodeInterfaces o.2))]
  · rfl
  · intro o ho
    simp only [hinterfaces o ho, objectEntry?, Option.map_some]

theorem decodes_snapshot {props : List (String × Value)} {p : Properties} (h : Lists Eq props p) :
    Store.Decodes (snapshot (propertyEntries props)) p := by
  unfold snapshot
  rw [toVariants_propertyEntries]
  have hdecoded : Lists (fun v w => v = w.toVariant)
      (props.map fun p => (p.1, p.2.toVariant)) p := by
    refine h.map_snd fun _ w w' _ _ hw => ?_
    rw [hw]
  exact hdecoded.ofList

theorem describes_decodeInterfaces {l : List (String × List (String × Value))} {m : Interfaces}
    (h : Lists (Lists Eq) l m) : Describes Store.Decodes (decodeInterfaces l) m :=
  (h.map_snd fun _ _ _ _ _ hprops => decodes_snapshot hprops).ofList

/-- What is kept under the text of a path stands under that text, whatever else it is. -/
theorem lookup_text {α β : Type} (g : ObjectPath → α → β) (path : ObjectPath)
    (l : List (ObjectPath × α)) :
    (l.map fun o => (o.1.text, g o.1 o.2)).lookup path.text = (l.lookup path).map (g path) := by
  induction l with
  | nil => rfl
  | cons o rest ih =>
      obtain ⟨p, a⟩ := o
      rw [List.map_cons, SortedMap.lookup_cons_eq, SortedMap.lookup_cons_eq, ih]
      by_cases hp : path = p
      · simp [hp]
      · rw [if_neg hp, if_neg fun htext => hp (ObjectPath.ext_text htext)]

/-- Objects that were put in order by the text of their path still stand under their path. -/
theorem lookup_map_snd_text {β : Type} (path : ObjectPath) {l : List (String × ObjectPath × β)}
    (hl : ∀ e ∈ l, e.1 = e.2.1.text) :
    (l.map (·.2)).lookup path = (l.lookup path.text).map (·.2) := by
  induction l with
  | nil => rfl
  | cons e rest ih =>
      obtain ⟨k, p, b⟩ := e
      have hk : k = p.text := hl (k, p, b) (by simp)
      have hrest := ih fun e he => hl e (List.mem_cons_of_mem _ he)
      rw [List.map_cons, SortedMap.lookup_cons_eq, SortedMap.lookup_cons_eq, hrest, hk]
      by_cases hp : path = p
      · simp [hp]
      · rw [if_neg hp, if_neg fun htext => hp (ObjectPath.ext_text htext)]

/-- Of several objects with one path the last one is decoded. -/
theorem lookup_decodeObjects (objects : WireObjects) (path : ObjectPath) :
    (decodeObjects objects).lookup path = (lastUnder? path objects).map decodeInterfaces := by
  unfold decodeObjects
  -- the decoder sorts by the text of the path and then drops it, which loses nothing
  rw [lookup_map_snd_text]
  · have hget := SortedMap.get?_ofList
      (objects.map fun o => (o.1.text, o.1, decodeInterfaces o.2)) path.text
    rw [← List.map_reverse, lookup_text fun p b => (p, decodeInterfaces b)] at hget
    rw [SortedMap.get?] at hget
    rw [hget, Option.map_map]
    rfl
  · intro e he
    obtain ⟨o, -, rfl⟩ := List.mem_map.mp (SortedMap.mem_ofList he)
    rfl

/-- **Decoding a listing gives the store that mirrors what is listed**, whatever its order. -/
theorem mirrors_decodeObjects {objects : WireObjects} {c : Content} (h : c.ListedBy objects) :
    Store.Mirrors ⟨decodeObjects objects⟩ c := by
  constructor
  · unfold decodeObjects
    rw [List.pairwise_map]
    refine (SortedMap.sorted _).imp_of_mem fun {a b} ha hb hab => ?_
    obtain ⟨o, -, rfl⟩ := List.mem_map.mp (SortedMap.mem_ofList ha)
    obtain ⟨o', -, rfl⟩ := List.mem_map.mp (SortedMap.mem_ofList hb)
    exact hab
  · intro o ho
    obtain ⟨e, he, rfl⟩ := List.mem_map.mp ho
    obtain ⟨o, -, rfl⟩ := List.mem_map.mp (SortedMap.mem_ofList he)
    exact SortedMap.sorted _
  · intro path
    have hdecoded : Describes (Describes Store.Decodes)
        (objects.map fun o => (o.1, decodeInterfaces o.2)) c :=
      h.2.map_snd fun _ _ _ _ _ hinterfaces => describes_decodeInterfaces hinterfaces
    have hpath := hdecoded path
    rw [lookup_map_snd fun _ b => decodeInterfaces b] at hpath
    rwa [lookup_decodeObjects, lastUnder?, lookup_reverse h.1]

end Wire

end BluetoothDirectory
