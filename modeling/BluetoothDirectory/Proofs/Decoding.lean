import BluetoothDirectory.Proofs.RoundTrip
import BluetoothDirectory.Proofs.WireOrder

/-!
# What decoding keeps

A value on the bus whose type has a form among the property values is decoded to one of that kind,
and any other keeps its signature. Dictionaries are decoded entry by entry, the last value of a key
counting. So of two values in which everything has a form, decoding forgets nothing but the order of
dictionary entries and those that another one overrides: `toVariant_eq_iff_alike`.
-/

namespace BluetoothDirectory.Wire

open Peer.Scripted (propertyEntries)

/-! ## Types that have a form -/

/-- The signatures of the types whose values have a form of their own among property values. -/
def representable : List String :=
  ["b", "y", "n", "q", "i", "u", "x", "t", "d", "s", "o", "as", "ay", "a\x7bsv\x7d"]

/-- The kind of the property values that stand for the values of a type. -/
def Ty.kind : Ty → Variant.Kind
  | bool => .bool
  | byte => .byte
  | int16 => .int16
  | uint16 => .uint16
  | int32 => .int32
  | uint32 => .uint32
  | int64 => .int64
  | uint64 => .uint64
  | double => .double
  | text => .text
  | objectPath => .objectPath
  | array text => .texts
  | array byte => .bytes
  | dict text variant => .dict
  | _ => .unsupported

theorem Ty.kind_of_ofKind? {k : Variant.Kind} {t : Ty} (h : ofKind? k = some t) : t.kind = k := by
  cases k <;> cases h <;> rfl

theorem Ty.ofKind?_kind {t : Ty} (h : t.kind ≠ .unsupported) : ofKind? t.kind = some t := by
  cases t with
  | array item =>
      cases item
      case text | byte => rfl
      all_goals exact absurd rfl h
  | dict key value =>
      cases key
      case text =>
        cases value
        case variant => rfl
        all_goals exact absurd rfl h
      all_goals exact absurd rfl h
  | signature | fileDescriptor | variant | struct => exact absurd rfl h
  | _ => rfl

theorem mem_representable_iff {s : String} :
    s ∈ representable ↔ ∃ k, k ≠ Variant.Kind.unsupported ∧ k.signature = s := by
  -- the signatures are those of all kinds but one, in their order
  have hkinds : representable =
      ([.bool, .byte, .int16, .uint16, .int32, .uint32, .int64, .uint64, .double, .text,
        .objectPath, .texts, .bytes, .dict] : List Variant.Kind).map Variant.Kind.signature := rfl
  rw [hkinds, List.mem_map]
  constructor
  · rintro ⟨k, hk, hs⟩
    refine ⟨k, ?_, hs⟩
    rintro rfl
    simp at hk
  · rintro ⟨k, hk, hs⟩
    refine ⟨k, ?_, hs⟩
    cases k <;> simp at hk ⊢

/-- A type has a form exactly if its signature is among those that have one. -/
theorem Ty.signatureText_mem_iff {t : Ty} :
    t.signatureText ∈ representable ↔ t.kind ≠ .unsupported := by
  rw [mem_representable_iff]
  constructor
  · rintro ⟨k, hk, hsignature⟩
    obtain ⟨u, hu⟩ : ∃ u, ofKind? k = some u := by
      cases k
      case unsupported => exact absurd rfl hk
      all_goals exact ⟨_, rfl⟩
    -- no two types have one signature
    have htu : u = t := signatureText_inj ((signatureText_of_ofKind? hu).trans hsignature)
    rw [← htu, kind_of_ofKind? hu]
    exact hk
  · intro h
    exact ⟨t.kind, h, (signatureText_of_ofKind? (ofKind?_kind h)).symm⟩

namespace Value

theorem kind_toVariant (w : Value) : w.toVariant.kind = w.ty.kind := by
  cases w with
  | array item items => cases item <;> rfl
  | dict key value entries =>
      cases key
      case text => cases value <;> rfl
      all_goals rfl
  | _ => rfl

theorem toVariant_of_kind_unsupported {w : Value} (h : w.ty.kind = .unsupported) :
    w.toVariant = .unsupported w.signatureText := by
  cases w with
  | array item items =>
      cases item
      case text | byte => cases h
      all_goals rfl
  | dict key value entries =>
      cases key
      case text =>
        cases value
        case variant => cases h
        all_goals rfl
      all_goals rfl
  | signature | fileDescriptor | variant | struct => rfl
  | _ => cases h

/-- A value whose signature has a form is decoded to a value of that signature. -/
theorem signature_kind_toVariant {w : Value} (h : w.signatureText ∈ representable) :
    w.toVariant.kind.signature = w.signatureText := by
  rw [kind_toVariant]
  exact (Ty.signatureText_of_ofKind? (Ty.ofKind?_kind (Ty.signatureText_mem_iff.mp h))).symm

/-- Any other value keeps its signature. -/
theorem toVariant_of_notMem {w : Value} (h : w.signatureText ∉ representable) :
    w.toVariant = .unsupported w.signatureText := by
  refine toVariant_of_kind_unsupported ?_
  by_contra hkind
  exact h (Ty.signatureText_mem_iff.mpr hkind)

/-! ## Dictionaries -/

/-- The dictionary from texts to variants with these entries. -/
def properties (l : List (String × Value)) : Value :=
  .dict .text .variant (propertyEntries l)

/-- Well-typed entries are made of what their keys and values are made of. -/
theorem exists_map_entries {κ α : Type} {k t : Ty} {key : κ → Value} {value : α → Value}
    {P : α → Prop} (hkey : ∀ v : Value, v.ty = k → ∃ a, v = key a)
    (hvalue : ∀ v : Value, v.ty = t → v.Typed → ∃ a, v = value a ∧ P a)
    {entries : List (Value × Value)} (h : EntriesTyped k t entries) :
    ∃ l : List (κ × α), entries = l.map (fun e => (key e.1, value e.2)) ∧ ∀ e ∈ l, P e.2 := by
  induction entries with
  | nil => exact ⟨[], rfl, by simp⟩
  | cons e rest ih =>
      obtain ⟨⟨hk, -⟩, ⟨hv, htyped⟩, hrest⟩ := h
      obtain ⟨l, rfl, hl⟩ := ih hrest
      obtain ⟨a, ha⟩ := hkey e.1 hk
      obtain ⟨b, hb, hP⟩ := hvalue e.2 hv htyped
      refine ⟨(a, b) :: l, ?_, ?_⟩
      · rw [List.map_cons, ← ha, ← hb]
      · intro d hd
        rcases List.mem_cons.mp hd with rfl | hd
        · exact hP
        · exact hl d hd

theorem exists_text {v : Value} (h : v.ty = .text) : ∃ s, v = text s := by
  cases v <;> cases h
  exact ⟨_, rfl⟩

/-- Well-typed dictionaries from texts to variants are made of texts and variants. -/
theorem exists_properties_of_ty {w : Value} (hty : w.ty = .dict .text .variant) (hw : w.Typed) :
    ∃ l, w = properties l ∧ ∀ e ∈ l, e.2.Typed := by
  have hvalue : ∀ v : Value, v.ty = .variant → v.Typed → ∃ a, v = variant a ∧ a.Typed := by
    intro v hv htyped
    cases v <;> cases hv
    exact ⟨_, rfl, htyped⟩
  cases w <;> cases hty
  obtain ⟨l, rfl, hl⟩ := exists_map_entries (fun v => exists_text) hvalue hw
  exact ⟨l, rfl, hl⟩

theorem exists_properties {w : Value} (hw : w.Typed)
    (h : w.signatureText = Variant.Kind.signature .dict) :
    ∃ l, w = properties l ∧ ∀ e ∈ l, e.2.Typed :=
  exists_properties_of_ty
    (Ty.signatureText_inj (h.trans (Ty.signatureText_of_ofKind? (k := .dict) rfl).symm)) hw

theorem toVariant_properties (l : List (String × Value)) :
    (properties l).toVariant = .dict (snapshot (propertyEntries l)).entries := by
  unfold properties snapshot
  rw [toVariant]

/-- Under each key stands what the last value of the key is decoded to, whatever else there is. -/
theorem get?_snapshot (l : List (String × Value)) (k : String) :
    (snapshot (propertyEntries l)).get? k = (lastUnder? k l).map toVariant := by
  unfold snapshot
  rw [toVariants_propertyEntries, SortedMap.get?_ofList]
  exact lastUnder?_map_snd toVariant k l

/-- The last state counts, and neither a variant inside a variant nor a file descriptor has a
form. -/
example :
    (properties [("State", .text "on"), ("Level", .variant (.byte 3)), ("Line", .fileDescriptor 0),
      ("State", .text "off")]).toVariant =
      .dict [("Level", .unsupported "v"), ("Line", .unsupported "h"),
        ("State", .text "off")] := by
  rfl

theorem mem_keys_snapshot {l : List (String × Value)} {k : String} :
    k ∈ (snapshot (propertyEntries l)).entries.map Prod.fst ↔ k ∈ l.map Prod.fst := by
  unfold snapshot
  rw [toVariants_propertyEntries, SortedMap.mem_keys_ofList_iff, List.map_map]
  rfl

theorem lastUnder?_of_toVariant_eq {l l' : List (String × Value)}
    (h : (properties l).toVariant = (properties l').toVariant) (k : String) :
    (lastUnder? k l).map toVariant = (lastUnder? k l').map toVariant := by
  rw [toVariant_properties, toVariant_properties, Variant.dict.injEq] at h
  rw [← get?_snapshot, ← get?_snapshot, SortedMap.get?, SortedMap.get?, h]

/-! ## Values that are alike -/

/-- Two values are alike if the one becomes the other by giving dictionaries from texts to variants,
at any depth, another order of their entries, and by leaving out or adding entries that another one
with their key overrides. -/
inductive Alike : Value → Value → Prop
  | same {v w : Value} (h : Same v w) : Alike v w
  | overridden (front : List (String × Value)) (e : String × Value) {back : List (String × Value)}
      (later : e.1 ∈ back.map Prod.fst) :
      Alike (properties (front ++ e :: back)) (properties (front ++ back))
  | entry (front : List (String × Value)) (key : String) {v w : Value}
      (back : List (String × Value)) (value : Alike v w) :
      Alike (properties (front ++ (key, v) :: back)) (properties (front ++ (key, w) :: back))
  | symm {v w : Value} (h : Alike v w) : Alike w v
  | trans {u v w : Value} (first : Alike u v) (second : Alike v w) : Alike u w

theorem Alike.refl (v : Value) : Alike v v := .same (.refl v)

/-- **Alike values are decoded alike.** -/
theorem Alike.toVariant_eq {v w : Value} (h : Alike v w) : v.toVariant = w.toVariant := by
  induction h with
  | same h => exact h.toVariant_eq
  | overridden front e later =>
      rename_i back
      rw [toVariant_properties, toVariant_properties]
      refine congrArg (fun m => Variant.dict (SortedMap.entries m)) (SortedMap.ext_get? fun k => ?_)
      rw [get?_snapshot, get?_snapshot, lastUnder?_between, lastUnder?_append]
      -- the entry left out counts for its own key at most, and that comes again
      by_cases hk : k = e.1
      · subst hk
        cases hback : lastUnder? e.1 back with
        | none => exact absurd later (lastUnder?_eq_none_iff.mp hback)
        | some v => rfl
      · rw [if_neg hk]
  | entry front key back value ih =>
      rw [toVariant_properties, toVariant_properties]
      unfold snapshot
      simp only [toVariants_propertyEntries, List.map_append, List.map_cons, ih]
  | symm h ih => exact ih.symm
  | trans first second ih ih' => exact ih.trans ih'

/-- A dictionary is like the one with the last entry of each key only. -/
theorem Alike.to_lastOnes (front l : List (String × Value)) :
    Alike (properties (front ++ l)) (properties (front ++ lastOnes l)) := by
  induction l generalizing front with
  | nil => exact .refl _
  | cons e rest ih =>
      have hrest := ih (front ++ [e])
      rw [List.append_assoc, List.append_assoc] at hrest
      rw [lastOnes_cons]
      split
      · rename_i hlater
        exact hrest.trans (.overridden front e hlater)
      · exact hrest

/-- Entries with alike values make dictionaries that are alike. -/
theorem Alike.map_values {f : String × Value → Value} (front : List (String × Value))
    {l : List (String × Value)} (h : ∀ e ∈ l, Alike e.2 (f e)) :
    Alike (properties (front ++ l)) (properties (front ++ l.map fun e => (e.1, f e))) := by
  induction l generalizing front with
  | nil => exact .refl _
  | cons e rest ih =>
      have hrest := ih (front ++ [(e.1, f e)]) fun d hd => h d (List.mem_cons_of_mem e hd)
      rw [List.append_assoc, List.append_assoc] at hrest
      exact (Alike.entry front e.1 rest (h e (by simp))).trans hrest

/-- Dictionaries with distinct keys are alike in any order. -/
theorem Alike.of_perm {l m : List (String × Value)} (distinct : (l.map Prod.fst).Nodup)
    (order : l.Perm m) : Alike (properties l) (properties m) := by
  have hdistinct : ((propertyEntries l).map Prod.fst).Nodup := by
    have htexts := distinct.map fun s t (h : text s = text t) => text.inj h
    unfold propertyEntries
    rwa [List.map_map] at htexts ⊢
  exact .same (.of_perm hdistinct (order.map _) _ _)

/-! ## Nothing else is forgotten -/

/-- A well-typed value in which everything, at any depth, has a form among the property values. -/
inductive Representable : Value → Prop
  | plain {w : Value} (typed : w.Typed) (signature : w.signatureText ∈ representable)
      (flat : w.signatureText ≠ Variant.Kind.signature .dict) : Representable w
  | properties {l : List (String × Value)} (values : ∀ e ∈ l, Representable e.2) :
      Representable (properties l)

/-- Of values that are no dictionaries decoding forgets nothing at all. -/
theorem ofVariant?_toVariant_of_plain {w : Value} (typed : w.Typed)
    (signature : w.signatureText ∈ representable)
    (flat : w.signatureText ≠ Variant.Kind.signature .dict) :
    ofVariant? w.toVariant = some w := by
  have hkind := Ty.signatureText_mem_iff.mp signature
  refine ofVariant?_toVariant typed (k := w.ty.kind) (fun hdict => flat ?_) (Ty.ofKind?_kind hkind)
  rw [← hdict]
  exact Ty.signatureText_of_ofKind? (Ty.ofKind?_kind hkind)

/-- Dictionaries that are decoded alike are alike, if values under one key are that are decoded
alike. -/
theorem Alike.of_lastUnder? {l l' : List (String × Value)}
    (h : ∀ k, (lastUnder? k l).map toVariant = (lastUnder? k l').map toVariant)
    (hvalues : ∀ e ∈ l, ∀ e' ∈ l', e.2.toVariant = e'.2.toVariant → Alike e.2 e'.2) :
    Alike (properties l) (properties l') := by
  -- both list the map of the last values, each key once
  have hlists : ∀ m : List (String × Value),
      (∀ k, (lastUnder? k m).map toVariant = (lastUnder? k l).map toVariant) →
      Lists (fun v x => v.toVariant = x) (lastOnes m)
        fun k => (lastUnder? k l).map toVariant := by
    intro m hm
    refine ⟨nodup_lastOnes m, fun k => ?_⟩
    show Option.Rel _ _ ((lastUnder? k l).map toVariant)
    rw [lookup_lastOnes, ← hm k]
    cases lastUnder? k m with
    | none => exact .none
    | some v => exact .some rfl
  obtain ⟨f, hperm, hf⟩ := (hlists l fun _ => rfl).exists_perm (hlists l' fun k => (h k).symm)
  -- first the values of the one are put in place of those of the other, then the order
  have hchanged : ∀ e ∈ lastOnes l, Alike e.2 (f e) := by
    intro e he
    obtain ⟨x, hx, hfx⟩ := hf e he
    have hmem : (e.1, f e) ∈ lastOnes l' :=
      hperm.mem_iff.mp (List.mem_map_of_mem he)
    exact hvalues e (lastOnes_subset l he) (e.1, f e) (lastOnes_subset l' hmem) (hx.trans hfx.symm)
  have hdistinct : (((lastOnes l).map fun e => (e.1, f e)).map
      Prod.fst).Nodup := by
    rw [List.map_map]
    exact nodup_lastOnes l
  exact (((Alike.to_lastOnes [] l).trans (.map_values [] hchanged)).trans
    (.of_perm hdistinct hperm)).trans (Alike.to_lastOnes [] l').symm

/-- **Of representable values decoding forgets the order of dictionary entries and what is
overridden among them, and nothing else.** -/
theorem toVariant_eq_iff_alike {v w : Value} (hv : v.Representable) (hw : w.Representable) :
    v.toVariant = w.toVariant ↔ v.Alike w := by
  refine ⟨fun h => ?_, Alike.toVariant_eq⟩
  have hdict : ∀ {u : Value} {l : List (String × Value)}, u.signatureText ∈ representable →
      u.signatureText ≠ Variant.Kind.signature .dict → u.toVariant ≠ (properties l).toVariant := by
    intro u l hu hflat heq
    rw [toVariant_properties] at heq
    have hkind := signature_kind_toVariant hu
    rw [heq] at hkind
    exact hflat hkind.symm
  induction hv generalizing w with
  | plain typed signature flat =>
      cases hw with
      | plain typed' signature' flat' =>
          have hsent := ofVariant?_toVariant_of_plain typed signature flat
          rw [h, ofVariant?_toVariant_of_plain typed' signature' flat', Option.some.injEq] at hsent
          rw [hsent]
          exact .refl _
      | properties values => exact absurd h (hdict signature flat)
  | properties values ih =>
      cases hw with
      | plain typed' signature' flat' => exact absurd h.symm (hdict signature' flat')
      | properties values' =>
          refine .of_lastUnder? (lastUnder?_of_toVariant_eq h) fun e he e' he' heq => ?_
          exact ih e he (values' e' he') heq

end Value

end BluetoothDirectory.Wire
