import BluetoothDirectory.Proofs.Deed
import BluetoothDirectory.Proofs.KeyedList

/-!
# Writing to a store in memory

What a write does to each reading of a store, and that it does nothing else: the objects and their
interfaces stay the same and in the same order, and of all properties one has another value.
-/

namespace BluetoothDirectory

namespace Store

/-! ## Reading after a write -/

/-- Carries out a write. -/
def apply (s : Store) (w : Write) : Store :=
  s.write w.path.text w.interface w.property w.value

/-- Carries out writes, one after another. -/
def applyAll (s : Store) (ws : List Write) : Store :=
  ws.foldl apply s

/-- The paths of the objects and the names of their interfaces, in order. -/
def layout (s : Store) : List (ObjectPath × List String) :=
  s.objects.map fun o => (o.1, o.2.map (·.1))

/-- Whether there is an object at a path with an interface. -/
def Has (s : Store) (path interface : String) : Prop :=
  (s.properties? path interface).isSome = true

theorem properties?_write (s : Store) (path interface property : String) (value : Variant)
    (path' interface' : String) :
    (s.write path interface property value).properties? path' interface' =
      if path' = path ∧ interface' = interface then
        (s.properties? path interface).map fun props => props.insert property value
      else s.properties? path' interface' := by
  unfold properties? write
  by_cases hp : path' = path
  · subst hp
    rw [find?_updateFirst_self (p := fun p : ObjectPath => p.text == path')]
    cases s.objects.find? fun o => o.1.text == path' with
    | none => simp
    | some o =>
        simp only [Option.map_some, Option.bind_some, true_and,
          lookup_updateFirst (fun _ => beq_iff_eq)]
  · rw [find?_updateFirst_ne (p := fun p : ObjectPath => p.text == path)
      (q := fun p : ObjectPath => p.text == path')]
    · simp only [hp, false_and, if_false]
    · intro p hpath
      simp only [beq_iff_eq] at hpath
      simpa [hpath] using Ne.symm hp

theorem value?_write (s : Store) (path interface property : String) (value : Variant)
    (path' interface' property' : String) :
    (s.write path interface property value).value? path' interface' property' =
      if path' = path ∧ interface' = interface ∧ property' = property ∧
          (s.properties? path interface).isSome = true then some value
      else s.value? path' interface' property' := by
  unfold value?
  rw [properties?_write]
  by_cases hpi : path' = path ∧ interface' = interface
  · obtain ⟨rfl, rfl⟩ := hpi
    cases s.properties? path' interface' with
    | none => simp
    | some props =>
        simp only [Option.map_some, Option.bind_some, SortedMap.get?_insert, and_self, if_true,
          true_and, Option.isSome_some, and_true]
  · rw [if_neg hpi, if_neg fun h => hpi ⟨h.1, h.2.1⟩]

theorem layout_apply (s : Store) (w : Write) : (s.apply w).layout = s.layout := by
  unfold layout apply write
  refine map_updateFirst (fun p interfaces _ => ?_) s.objects
  simp only [Prod.mk.injEq, true_and]
  exact map_updateFirst (f := fun props => SortedMap.insert props w.property w.value)
    (fun _ _ _ => rfl) interfaces

theorem has_apply (s : Store) (w : Write) (path interface : String) :
    (s.apply w).Has path interface ↔ s.Has path interface := by
  unfold Has apply
  rw [properties?_write]
  split
  · rename_i h
    rw [h.1, h.2, Option.isSome_map]
  · exact Iff.rfl

/-! ## Nothing else changes -/

/-- The second store is the first with one property changed: of the first object at the path the
first interface of the name has the value under the property, and all else is where and as it
was. -/
def ChangesOnly (s : Store) (w : Write) (t : Store) : Prop :=
  ∃ objects interfaces props props' interfaces' objects',
    s.objects =
      objects ++ (w.path, interfaces ++ (w.interface, props) :: interfaces') :: objects' ∧
    t.objects =
      objects ++ (w.path, interfaces ++ (w.interface, props') :: interfaces') :: objects' ∧
    (∀ o ∈ objects, o.1 ≠ w.path) ∧ (∀ i ∈ interfaces, i.1 ≠ w.interface) ∧
    ∀ name, props'.get? name = if name = w.property then some w.value else props.get? name

/-- **A write changes one property and nothing else**, where there is the interface. -/
theorem changesOnly_apply {s : Store} {w : Write} (h : s.Has w.path.text w.interface) :
    s.ChangesOnly w (s.apply w) := by
  obtain ⟨props, hprops⟩ := Option.isSome_iff_exists.mp h
  unfold properties? at hprops
  obtain ⟨⟨p, interfaces⟩, ho, hi⟩ := Option.bind_eq_some_iff.mp hprops
  -- the write goes to the first object at the path and the first interface of the name
  have hp : p = w.path := ObjectPath.ext_text (by simpa using List.find?_some ho)
  subst hp
  obtain ⟨objects, objects', hobjects, hfirst, hupdate⟩ :=
    updateFirst_split (p := fun p : ObjectPath => p.text == w.path.text)
      (f := updateFirst (fun i => i == w.interface) fun props => props.insert w.property w.value) ho
  obtain ⟨front, back, hfront, hnone, hinner⟩ :=
    updateFirst_split (p := fun i : String => i == w.interface)
      (f := fun props => props.insert w.property w.value) (find?_of_lookup hi)
  simp only at hfront hinner hupdate
  refine ⟨objects, front, props, props.insert w.property w.value, back, objects', ?_, ?_, ?_, ?_,
    fun name => SortedMap.get?_insert ..⟩
  · rw [hobjects, hfront]
  · show updateFirst _ _ s.objects = _
    rw [hupdate, hinner]
  · intro o ho heq
    simpa [heq] using hfirst o ho
  · intro i hi heq
    simpa [heq] using hnone i hi

end Store

end BluetoothDirectory
