import BluetoothDirectory.Proofs.StoreWrite
import BluetoothDirectory.Proofs.WriteGate

/-!
# Conforming stores

A store conforms when every declared property in it has a value of the declared kind, and the part
of it that no write may change is what the declarations fix. A write that the gate allows keeps a
store conforming and its fixed part as it is.
-/

namespace BluetoothDirectory

namespace Schema

/-- A property that no write may change: of a described interface, and not declared writable. -/
def Fixed (interface property : String) : Prop :=
  declarations? interface ≠ none ∧ ∀ d, Declares interface property d → d.access ≠ .readWrite

/-- Whether no write may change a property. -/
def isFixed (interface property : String) : Bool :=
  match lookup interface property with
  | .unknownInterface => false
  | .undeclared => true
  | .declared d => !d.writable

theorem isFixed_iff {interface property : String} :
    isFixed interface property = true ↔ Fixed interface property := by
  unfold isFixed Fixed
  rcases lookup_cases interface property with ⟨hl, hnone⟩ | ⟨hl, hsome, hnone⟩ | ⟨d, hl, hd⟩
  · simp [hl, hnone]
  · simp only [hl, true_iff]
    exact ⟨hsome, fun d hd => absurd hd (hnone d)⟩
  · have hdescribed : declarations? interface ≠ none := by
      obtain ⟨ds, hds, -⟩ := hd
      simp [hds]
    simp only [hl, Declaration.writable, Bool.not_eq_true', beq_eq_false_iff_ne, ne_eq]
    constructor
    · exact fun haccess => ⟨hdescribed, fun d' hd' => hd.unique hd' ▸ haccess⟩
    · exact fun h => h.2 d hd

/-- What is allowed to be written is not fixed. -/
theorem Allows.not_isFixed {interface property : String} {kind : Variant.Kind}
    (h : Allows interface property kind) : isFixed interface property = false := by
  rw [← Bool.not_eq_true, isFixed_iff]
  rintro ⟨hdescribed, hfixed⟩
  rcases h with hnone | ⟨d, hd, haccess, -⟩
  · exact hdescribed hnone
  · exact hfixed d hd haccess

/-- A value that is allowed to be written has the declared kind. -/
theorem Allows.kind_eq {interface property : String} {kind : Variant.Kind}
    (h : Allows interface property kind) {d : Declaration}
    (hd : Declares interface property d) : kind = d.kind := by
  rcases h with hnone | ⟨d', hd', -, hkind⟩
  · obtain ⟨ds, hds, -⟩ := hd
    rw [hnone] at hds
    cases hds
  · rw [← hkind, hd.unique hd']

/-- Whether a kind is the declared one, where there is a declaration. -/
def fits (interface property : String) (kind : Variant.Kind) : Bool :=
  match lookup interface property with
  | .declared d => kind == d.kind
  | _ => true

theorem fits_iff {interface property : String} {kind : Variant.Kind} :
    fits interface property kind = true ↔
      ∀ d, Declares interface property d → kind = d.kind := by
  unfold fits
  constructor
  · intro h d hd
    rw [lookup_eq_declared_iff.mpr hd] at h
    exact eq_of_beq h
  · intro h
    split
    · rename_i d hd
      exact beq_iff_eq.mpr (h d (lookup_eq_declared_iff.mp hd))
    · rfl

end Schema

/-! ## Conforming stores and writes -/

namespace Store

/-- Every declared property of every object has a value of the declared kind. -/
def Conforming (s : Store) : Prop :=
  ∀ o ∈ s.objects, ∀ i ∈ o.2, ∀ e ∈ i.2.entries, ∀ d,
    Schema.Declares i.1 e.1 d → e.2.kind = d.kind

instance (s : Store) : Decidable s.Conforming :=
  decidable_of_iff (∀ o ∈ s.objects, ∀ i ∈ o.2, ∀ e ∈ i.2.entries,
      Schema.fits i.1 e.1 e.2.kind = true) <| by
    simp only [Schema.fits_iff, Conforming]

/-- What no write may change: of every interface of every object, wherever it stands, the
properties that are fixed. -/
def fixedPart (s : Store) : List (ObjectPath × List (String × List (String × Variant))) :=
  s.objects.map fun o => (o.1, o.2.map fun i =>
    (i.1, i.2.entries.filter fun e => Schema.isFixed i.1 e.1))

theorem Conforming.apply {s : Store} (h : s.Conforming) {w : Write}
    (hw : Schema.Allows w.interface w.property w.value.kind) : (s.apply w).Conforming := by
  intro o ho i hi e he d hd
  rcases mem_updateFirst ho with ho | ⟨interfaces, -, ho, heq⟩
  · exact h o ho i hi e he d hd
  · rw [heq] at hi
    rcases mem_updateFirst hi with hi | ⟨props, hname, hi, heq⟩
    · exact h _ ho i hi e he d hd
    · rw [heq] at he
      rcases SortedMap.mem_insertEntry he with rfl | he
      · -- the entry that was written: the gate has seen its kind
        have hinterface : i.1 = w.interface := by simpa using hname
        rw [hinterface] at hd
        exact hw.kind_eq hd
      · exact h _ ho _ hi e he d hd

/-- An insertion does not show among the entries that leave its key out. -/
theorem filter_insertEntry {q : String → Bool} {k : String} (hk : q k = false) (v : Variant)
    (l : List (String × Variant)) :
    (SortedMap.insertEntry k v l).filter (fun e => q e.1) = l.filter fun e => q e.1 := by
  induction l with
  | nil => simp [SortedMap.insertEntry, hk]
  | cons e rest ih =>
      simp only [SortedMap.insertEntry]
      split
      · simp [hk]
      · split
        · rename_i heq
          simp [← heq, hk]
        · simp only [List.filter_cons, ih]

theorem fixedPart_apply {s : Store} {w : Write}
    (hw : Schema.Allows w.interface w.property w.value.kind) :
    (s.apply w).fixedPart = s.fixedPart := by
  unfold fixedPart Store.apply write
  refine map_updateFirst (fun p interfaces _ => ?_) s.objects
  simp only [Prod.mk.injEq, true_and]
  refine map_updateFirst (f := fun props => SortedMap.insert props w.property w.value)
    (fun i props hi => ?_) interfaces
  obtain rfl : i = w.interface := by simpa using hi
  simp only [Prod.mk.injEq, true_and]
  exact filter_insertEntry hw.not_isFixed w.value props.entries

/-! ## Reading the fixed part -/

theorem lookup_filter {β : Type} {q : String → Bool} {k : String} (hk : q k = true)
    (l : List (String × β)) : (l.filter fun e => q e.1).lookup k = l.lookup k := by
  induction l with
  | nil => rfl
  | cons e rest ih =>
      obtain ⟨i, v⟩ := e
      rw [List.filter_cons, SortedMap.lookup_cons_eq]
      split
      · rw [SortedMap.lookup_cons_eq, ih]
      · rename_i hi
        rw [ih, if_neg]
        rintro rfl
        exact hi hk

/-- A fixed property can be read off the fixed part. -/
theorem value?_eq_fixedPart {s : Store} {path interface property : String}
    (h : Schema.isFixed interface property = true) :
    s.value? path interface property =
      ((s.fixedPart.find? fun o => o.1.text == path).bind fun o =>
        o.2.lookup interface).bind fun entries => entries.lookup property := by
  unfold value? properties? fixedPart
  rw [List.find?_map]
  show _ = ((Option.map _ (s.objects.find? fun o => o.1.text == path)).bind _).bind _
  cases s.objects.find? fun o => o.1.text == path with
  | none => rfl
  | some o =>
      simp only [Option.bind_some, Option.map_some]
      rw [lookup_map_snd fun i (props : Snapshot) =>
        props.entries.filter fun e => Schema.isFixed i e.1]
      cases o.2.lookup interface with
      | none => rfl
      | some props => exact (lookup_filter h props.entries).symm

theorem Conforming.value? {s : Store} (h : s.Conforming) {path interface property : String}
    {v : Variant} (hv : s.value? path interface property = some v) {d : Schema.Declaration}
    (hd : Schema.Declares interface property d) : v.kind = d.kind := by
  obtain ⟨props, hprops, hget⟩ := Option.bind_eq_some_iff.mp hv
  obtain ⟨o, ho, hi⟩ := Option.bind_eq_some_iff.mp hprops
  exact h o (List.mem_of_find?_eq_some ho) (interface, props)
    (List.mem_of_find?_eq_some (find?_of_lookup hi)) (property, v)
    (List.mem_of_find?_eq_some (find?_of_lookup hget)) d hd

end Store

end BluetoothDirectory
