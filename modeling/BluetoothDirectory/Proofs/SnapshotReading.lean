import BluetoothDirectory.Proofs.ByteOrder
import BluetoothDirectory.Proofs.Flattening

/-!
# Snapshots as maps with typed reading

A snapshot collected from pairs is the map in which the last pair of each name counts, listed in the
order of the names' bytes (`SortedMap.collects_ofList`). A property of it is read as a type in one
of three ways, `Missing`, `Carrying` and `Mistyped`, and in exactly one; for this it is enough to
know that the type is the payload of one kind (`Variant.Payload.CarriedBy`).
-/

namespace BluetoothDirectory

/-! ## Collecting pairs -/

section Collecting

variable {α : Type}

/-- A list gives a value for a key last: no pair behind has the key. -/
def GivenLast (pairs : List (String × α)) (key : String) (value : α) : Prop :=
  ∃ front back, pairs = front ++ (key, value) :: back ∧ key ∉ back.map Prod.fst

namespace SortedMap

/-- A map holds what a list of pairs gives last for each key, and lists each key once, in the order
of the keys' bytes, with what it holds there. -/
structure Collects (m : SortedMap α) (pairs : List (String × α)) : Prop where
  get?_some : ∀ key value, m.get? key = some value ↔ GivenLast pairs key value
  get?_none : ∀ key, m.get? key = none ↔ key ∉ pairs.map Prod.fst
  contains_iff : ∀ key, m.contains key = true ↔ ∃ value, m.get? key = some value
  ascending : m.entries.Pairwise fun a b => Text.bytes a.1 < Text.bytes b.1
  mem_entries : ∀ key value, (key, value) ∈ m.entries ↔ m.get? key = some value
  keys : ∀ key, key ∈ m.entries.map Prod.fst ↔ key ∈ pairs.map Prod.fst
  size_eq : m.size = (pairs.map Prod.fst).dedup.length

theorem get?_ofList_eq_some_iff {pairs : List (String × α)} {key : String} {value : α} :
    (ofList pairs).get? key = some value ↔ GivenLast pairs key value := by
  rw [get?_ofList]
  exact lastUnder?_eq_some_iff

/-- The keys of a map are distinct, so there are as many as the list has distinct ones. -/
theorem size_ofList (pairs : List (String × α)) :
    (ofList pairs).size = (pairs.map Prod.fst).dedup.length := by
  have hperm : ((ofList pairs).entries.map Prod.fst).Perm (pairs.map Prod.fst).dedup := by
    refine (List.perm_ext_iff_of_nodup (lists_entries _).1 (List.nodup_dedup _)).mpr fun key => ?_
    rw [mem_keys_ofList_iff, List.mem_dedup]
  rw [size, ← hperm.length_eq, List.length_map]

/-- **A map made of a list of pairs is the map that the list describes, in order.** -/
theorem collects_ofList (pairs : List (String × α)) : (ofList pairs).Collects pairs where
  get?_some _ _ := get?_ofList_eq_some_iff
  get?_none _ := get?_eq_none_iff.trans (not_congr mem_keys_ofList_iff)
  contains_iff _ := Option.isSome_iff_exists
  ascending := (ofList pairs).sorted.imp Text.bytes_lt_bytes.mpr
  mem_entries _ _ := get?_eq_some_iff.symm
  keys _ := mem_keys_ofList_iff
  size_eq := size_ofList pairs

/-- The first name is overridden, and the alias comes before the name. -/
example :
    (SortedMap.ofList [("Name", 1), ("Alias", 2), ("Name", 3)]).entries =
      [("Alias", 2), ("Name", 3)] := by
  rfl

/-- Only what is given last for each key counts. -/
theorem ofList_eq_iff {pairs pairs' : List (String × α)} :
    ofList pairs = ofList pairs' ↔
      ∀ key value, GivenLast pairs key value ↔ GivenLast pairs' key value := by
  constructor
  · intro h key value
    rw [← get?_ofList_eq_some_iff, ← get?_ofList_eq_some_iff, h]
  · intro h
    refine ext_get? fun key => Option.ext fun value => ?_
    rw [get?_ofList_eq_some_iff, get?_ofList_eq_some_iff]
    exact h key value

end SortedMap

end Collecting

/-! ## Payloads -/

/-- A type is the payload of one kind: the values of that kind are those made of a payload, and no
others can be read as the type. -/
structure Variant.Payload.CarriedBy {α : Type} [Payload α] (made : α → Variant) : Prop where
  read_iff : ∀ v x, ofVariant? v = some x ↔ v = made x
  kind_iff : ∀ v, v.kind = Payload.kind α ↔ ∃ x, v = made x

open Variant.Payload (CarriedBy)

theorem Variant.Payload.CarriedBy.injective {α : Type} [Variant.Payload α] {made : α → Variant}
    (h : CarriedBy made) : Function.Injective made := by
  intro x y hxy
  have hx := (h.read_iff (made x) x).mpr rfl
  rw [hxy, (h.read_iff (made y) y).mpr rfl] at hx
  exact (Option.some.inj hx).symm

theorem carriedBy_bool : CarriedBy Variant.bool where
  read_iff v x := by cases v <;> simp [Variant.Payload.ofVariant?]
  kind_iff v := by cases v <;> simp [Variant.Payload.kind, Variant.kind]

theorem carriedBy_byte : CarriedBy Variant.byte where
  read_iff v x := by cases v <;> simp [Variant.Payload.ofVariant?]
  kind_iff v := by cases v <;> simp [Variant.Payload.kind, Variant.kind]

theorem carriedBy_int16 : CarriedBy Variant.int16 where
  read_iff v x := by cases v <;> simp [Variant.Payload.ofVariant?]
  kind_iff v := by cases v <;> simp [Variant.Payload.kind, Variant.kind]

theorem carriedBy_uint16 : CarriedBy Variant.uint16 where
  read_iff v x := by cases v <;> simp [Variant.Payload.ofVariant?]
  kind_iff v := by cases v <;> simp [Variant.Payload.kind, Variant.kind]

theorem carriedBy_int32 : CarriedBy Variant.int32 where
  read_iff v x := by cases v <;> simp [Variant.Payload.ofVariant?]
  kind_iff v := by cases v <;> simp [Variant.Payload.kind, Variant.kind]

theorem carriedBy_uint32 : CarriedBy Variant.uint32 where
  read_iff v x := by cases v <;> simp [Variant.Payload.ofVariant?]
  kind_iff v := by cases v <;> simp [Variant.Payload.kind, Variant.kind]

theorem carriedBy_text : CarriedBy Variant.text where
  read_iff v x := by cases v <;> simp [Variant.Payload.ofVariant?, Variant.text?]
  kind_iff v := by cases v <;> simp [Variant.Payload.kind, Variant.kind]

theorem carriedBy_objectPath : CarriedBy Variant.objectPath where
  read_iff v x := by cases v <;> simp [Variant.Payload.ofVariant?, Variant.objectPath?]
  kind_iff v := by cases v <;> simp [Variant.Payload.kind, Variant.kind]

theorem carriedBy_texts : CarriedBy Variant.texts where
  read_iff v x := by cases v <;> simp [Variant.Payload.ofVariant?]
  kind_iff v := by cases v <;> simp [Variant.Payload.kind, Variant.kind]

theorem carriedBy_bytes : CarriedBy Variant.bytes where
  read_iff v x := by cases v <;> simp [Variant.Payload.ofVariant?]
  kind_iff v := by cases v <;> simp [Variant.Payload.kind, Variant.kind]

/-! ## Reading a property as a type -/

namespace Snapshot

/-- A property that is not there. -/
structure Missing (α : Type) [Variant.Payload α] (s : Snapshot) (interface name : String) :
    Prop where
  value : s.get? name = none
  getAs? : s.getAs? α name = none
  decode : s.decode α interface name = .error (.propertyNotFound interface name)

/-- A property whose value is of the kind of a type, and so is made of a payload of that type. -/
structure Carrying {α : Type} [Variant.Payload α] (made : α → Variant) (s : Snapshot)
    (interface name : String) (x : α) : Prop where
  value : s.get? name = some (made x)
  kind : (made x).kind = Variant.Payload.kind α
  getAs? : s.getAs? α name = some x
  decode : s.decode α interface name = .ok x

/-- A property whose value is of another kind than that of a type; reading hands it back. -/
structure Mistyped (α : Type) [Variant.Payload α] (s : Snapshot) (interface name : String)
    (found : Variant) : Prop where
  value : s.get? name = some found
  kind : found.kind ≠ Variant.Payload.kind α
  getAs? : s.getAs? α name = none
  decode : s.decode α interface name =
    .error (.decode interface name (Variant.Payload.kind α) found.kind)
  read : found.read α = .error found

/-- Exactly one of three statements holds. -/
def ExactlyOne (p q r : Prop) : Prop :=
  (p ∧ ¬ q ∧ ¬ r) ∨ (¬ p ∧ q ∧ ¬ r) ∨ (¬ p ∧ ¬ q ∧ r)

/-- Whatever a snapshot is asked for as a type, it is missing, or carries a payload of the type, or
is of another kind. -/
def ReadsAs {α : Type} [Variant.Payload α] (made : α → Variant) : Prop :=
  ∀ (s : Snapshot) (interface name : String),
    ExactlyOne (s.Missing α interface name) (∃ x, s.Carrying made interface name x)
      (∃ found, s.Mistyped α interface name found)

/-- What is read as a type is the payload that the value of the property was written with. -/
def ReadsWritten (α : Type) [Variant.Payload α] [Variant.Writable α] : Prop :=
  ∀ (s : Snapshot) (name : String) (x : α),
    s.getAs? α name = some x ↔ s.get? name = some (Variant.Writable.toVariant x)

section Reading

variable {α : Type} [Variant.Payload α] {made : α → Variant} {s : Snapshot} {name : String}

theorem getAs?_eq_some_iff (h : CarriedBy made) {x : α} :
    s.getAs? α name = some x ↔ s.get? name = some (made x) := by
  simp only [Snapshot.getAs?, Option.bind_eq_some_iff, h.read_iff, exists_eq_right]

theorem missing_of_get? (interface : String) (hget : s.get? name = none) :
    s.Missing α interface name where
  value := hget
  getAs? := by rw [Snapshot.getAs?, hget, Option.bind_none]
  decode := by rw [Snapshot.decode, hget]

theorem carrying_of_get? (h : CarriedBy made) (interface : String) {x : α}
    (hget : s.get? name = some (made x)) : s.Carrying made interface name x where
  value := hget
  kind := (h.kind_iff _).mpr ⟨x, rfl⟩
  getAs? := (getAs?_eq_some_iff h).mpr hget
  decode := by
    rw [Snapshot.decode, hget]
    simp only [Variant.decode, Variant.read, (h.read_iff _ x).mpr rfl]

theorem mistyped_of_get? (h : CarriedBy made) (interface : String) {found : Variant}
    (hget : s.get? name = some found) (hkind : found.kind ≠ Variant.Payload.kind α) :
    s.Mistyped α interface name found := by
  have hread : Variant.Payload.ofVariant? (α := α) found = none := by
    refine Option.eq_none_iff_forall_ne_some.mpr fun x hx => hkind ?_
    exact (h.kind_iff found).mpr ⟨x, (h.read_iff found x).mp hx⟩
  refine ⟨hget, hkind, ?_, ?_, ?_⟩
  · rw [Snapshot.getAs?, hget, Option.bind_some, hread]
  · rw [Snapshot.decode, hget]
    simp only [Variant.decode, Variant.read, hread]
  · rw [Variant.read, hread]

/-- The payload of one kind is read in exactly one of the three ways. -/
theorem readsAs (h : CarriedBy made) : ReadsAs made := by
  intro s interface name
  -- the ways differ in the value under the name, or in its kind
  cases hget : s.get? name with
  | none =>
      refine .inl ⟨missing_of_get? interface hget, ?_, ?_⟩
      · rintro ⟨x, hx⟩
        cases hget.symm.trans hx.value
      · rintro ⟨found, hfound⟩
        cases hget.symm.trans hfound.value
  | some v =>
      have hpresent : ¬ s.Missing α interface name := fun hmissing => by
        cases hget.symm.trans hmissing.value
      by_cases hkind : v.kind = Variant.Payload.kind α
      · obtain ⟨x, rfl⟩ := (h.kind_iff v).mp hkind
        refine .inr (.inl ⟨hpresent, ⟨x, carrying_of_get? h interface hget⟩, ?_⟩)
        rintro ⟨found, hfound⟩
        cases hget.symm.trans hfound.value
        exact hfound.kind hkind
      · refine .inr (.inr ⟨hpresent, ?_, ⟨v, mistyped_of_get? h interface hget hkind⟩⟩)
        rintro ⟨x, hx⟩
        cases hget.symm.trans hx.value
        exact hkind hx.kind

end Reading

/-- **A snapshot is a sorted map in which the last value counts, with three ways of reading.**
Collected from any pairs, it holds under each name what they give last for it, and lists each name
once in the order of its bytes; two lists of pairs make the same snapshot exactly if they give the
same last. For each of the ten types, a property is missing, or of the kind of the type with the
payload that is read, or of another kind, which is reported and handed back; and what is read as a
type that can be written is written as the same value. -/
theorem sorted_with_typed_reading :
    (∀ pairs : List (String × Variant), (SortedMap.ofList pairs).Collects pairs) ∧
    (∀ pairs pairs' : List (String × Variant),
      SortedMap.ofList pairs = SortedMap.ofList pairs' ↔
        ∀ name value, GivenLast pairs name value ↔ GivenLast pairs' name value) ∧
    (ReadsAs Variant.bool ∧ ReadsAs Variant.byte ∧ ReadsAs Variant.int16 ∧
      ReadsAs Variant.uint16 ∧ ReadsAs Variant.int32 ∧ ReadsAs Variant.uint32 ∧
      ReadsAs Variant.text ∧ ReadsAs Variant.objectPath ∧ ReadsAs Variant.texts ∧
      ReadsAs Variant.bytes) ∧
    (ReadsWritten Bool ∧ ReadsWritten Int16 ∧ ReadsWritten UInt16 ∧ ReadsWritten UInt32 ∧
      ReadsWritten String ∧ ReadsWritten ObjectPath ∧ ReadsWritten (List String)) := by
  refine ⟨SortedMap.collects_ofList, fun _ _ => SortedMap.ofList_eq_iff, ?_, ?_⟩
  · exact ⟨readsAs carriedBy_bool, readsAs carriedBy_byte, readsAs carriedBy_int16,
      readsAs carriedBy_uint16, readsAs carriedBy_int32, readsAs carriedBy_uint32,
      readsAs carriedBy_text, readsAs carriedBy_objectPath, readsAs carriedBy_texts,
      readsAs carriedBy_bytes⟩
  · exact ⟨fun _ _ _ => getAs?_eq_some_iff carriedBy_bool,
      fun _ _ _ => getAs?_eq_some_iff carriedBy_int16,
      fun _ _ _ => getAs?_eq_some_iff carriedBy_uint16,
      fun _ _ _ => getAs?_eq_some_iff carriedBy_uint32,
      fun _ _ _ => getAs?_eq_some_iff carriedBy_text,
      fun _ _ _ => getAs?_eq_some_iff carriedBy_objectPath,
      fun _ _ _ => getAs?_eq_some_iff carriedBy_texts⟩

end Snapshot

end BluetoothDirectory
