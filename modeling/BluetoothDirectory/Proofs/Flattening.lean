import BluetoothDirectory.Proofs.KeyedList

/-!
# From an answer to a tree

Making a tree of an answer loses nothing and refuses exactly the answers that repeat a path, or an
interface on one object. `ManagedObjects.WellFormed` says which answers are trees,
`ManagedObjects.FirstFault` what is wrong with the others at the first place, and
`ofManagedObjects_eq_ok_iff` and `ofManagedObjects_eq_error_iff` that the scan decides these.
-/

namespace BluetoothDirectory

theorem bind_eq_ok_iff {ε α β : Type} {x : Except ε α} {f : α → Except ε β} {b : β} :
    (x >>= f) = .ok b ↔ ∃ a, x = .ok a ∧ f a = .ok b := by
  cases x with
  | error e => simp [bind, Except.bind]
  | ok a => simp [bind, Except.bind]

theorem bind_eq_error_iff {ε α β : Type} {x : Except ε α} {f : α → Except ε β} {e : ε} :
    (x >>= f) = .error e ↔ x = .error e ∨ ∃ a, x = .ok a ∧ f a = .error e := by
  cases x with
  | error e' => simp [bind, Except.bind]
  | ok a => simp [bind, Except.bind]

/-! ## Repetitions -/

/-- The first member of a list that stands in it before already. -/
def FirstRepeat {α : Type} (l : List α) (x : α) : Prop :=
  ∃ front back, l = front ++ x :: back ∧ front.Nodup ∧ x ∈ front

/-- The first member of a list that stands in it before already or was seen. -/
def FirstRepeatAfter {α : Type} (seen l : List α) (x : α) : Prop :=
  ∃ front back, l = front ++ x :: back ∧ front.Nodup ∧ (∀ y ∈ front, y ∉ seen) ∧
    (x ∈ front ∨ x ∈ seen)

section Repeat

variable {α : Type} {seen l : List α} {x y : α}

theorem firstRepeatAfter_nil : FirstRepeatAfter [] l x ↔ FirstRepeat l x := by
  simp [FirstRepeatAfter, FirstRepeat]

theorem FirstRepeat.not_nodup (h : FirstRepeat l x) : ¬ l.Nodup := by
  obtain ⟨front, back, rfl, -, hx⟩ := h
  exact fun hnodup => (List.nodup_append.mp hnodup).2.2 x hx x (by simp) rfl

theorem not_firstRepeatAfter_nil : ¬ FirstRepeatAfter seen [] x := by
  rintro ⟨front, back, h, -⟩
  simp at h

theorem firstRepeatAfter_cons :
    FirstRepeatAfter seen (y :: l) x ↔
      (y ∈ seen ∧ y = x) ∨ (y ∉ seen ∧ FirstRepeatAfter (y :: seen) l x) := by
  constructor
  · rintro ⟨front, back, hl, hnodup, hfresh, hx⟩
    -- what is repeated is the first member, if nothing stands before it
    cases front with
    | nil =>
        obtain ⟨rfl, rfl⟩ := List.cons.inj hl
        simp only [List.not_mem_nil, false_or] at hx
        exact .inl ⟨hx, rfl⟩
    | cons z front =>
        obtain ⟨rfl, rfl⟩ := List.cons.inj hl
        obtain ⟨hy, hnodup⟩ := List.nodup_cons.mp hnodup
        refine .inr ⟨hfresh y (by simp), front, back, rfl, hnodup, ?_, ?_⟩
        · intro z hz hmem
          rcases List.mem_cons.mp hmem with rfl | hmem
          · exact hy hz
          · exact hfresh z (by simp [hz]) hmem
        · simp only [List.mem_cons] at hx ⊢
          tauto
  · rintro (⟨hy, rfl⟩ | ⟨hy, front, back, rfl, hnodup, hfresh, hx⟩)
    · exact ⟨[], l, rfl, by simp, by simp, .inr hy⟩
    · refine ⟨y :: front, back, rfl, ?_, ?_, ?_⟩
      · exact List.nodup_cons.mpr ⟨fun hmem => hfresh y hmem (by simp), hnodup⟩
      · intro z hz
        rcases List.mem_cons.mp hz with rfl | hz
        · exact hy
        · exact fun hmem => hfresh z hz (by simp [hmem])
      · simp only [List.mem_cons] at hx ⊢
        tauto

variable [DecidableEq α]

theorem firstRepeated_eq_some_iff :
    firstRepeated seen l = some x ↔ FirstRepeatAfter seen l x := by
  induction l generalizing seen with
  | nil => simp [firstRepeated, not_firstRepeatAfter_nil]
  | cons y rest ih =>
      rw [firstRepeatAfter_cons, firstRepeated]
      by_cases hy : y ∈ seen
      · simp [hy]
      · simp [hy, ih]

theorem firstRepeated_nil_eq_none_iff : firstRepeated [] l = none ↔ l.Nodup := by
  refine ⟨fun h => (nodup_of_firstRepeated h).1, fun hnodup => ?_⟩
  cases h : firstRepeated [] l with
  | none => rfl
  | some x =>
      exact absurd hnodup (firstRepeatAfter_nil.mp (firstRepeated_eq_some_iff.mp h)).not_nodup

end Repeat

/-! ## What is right and wrong with an answer -/

/-- An answer that has each path once, and on each object each interface once. -/
structure ManagedObjects.WellFormed (reply : ManagedObjects) : Prop where
  paths : (reply.map (·.1)).Nodup
  interfaces : ∀ o ∈ reply, (o.2.map (·.1)).Nodup

/-- What is wrong with one object of an answer, given the paths before it. That its path is
repeated comes before the interfaces it repeats, and of these the first counts. -/
inductive ManagedObjects.Fault (earlier : List ObjectPath) (path : ObjectPath)
    (interfaces : List (String × Snapshot)) : Error → Prop
  | path (repeated : path ∈ earlier) :
      Fault earlier path interfaces
        (.malformedReply ("object " ++ path.text ++ " reported more than once"))
  | interface (fresh : path ∉ earlier) {name : String}
      (repeated : FirstRepeat (interfaces.map (·.1)) name) :
      Fault earlier path interfaces
        (.malformedReply ("interface " ++ name ++ " reported more than once on " ++ path.text))

/-- What is wrong with an answer: the fault of the first object that has one. -/
def ManagedObjects.FirstFault (reply : ManagedObjects) (e : Error) : Prop :=
  ∃ (front : ManagedObjects) (path : ObjectPath) (interfaces : List (String × Snapshot))
    (back : ManagedObjects),
    reply = front ++ (path, interfaces) :: back ∧ front.WellFormed ∧
      Fault (front.map (·.1)) path interfaces e

namespace ManagedObjects

/-- A well-formed answer without the paths that were seen. -/
def WellFormedAfter (seen : List ObjectPath) (reply : ManagedObjects) : Prop :=
  reply.WellFormed ∧ ∀ o ∈ reply, o.1 ∉ seen

/-- The fault of the first object that has one, given the paths that were seen. -/
def FirstFaultAfter (seen : List ObjectPath) (reply : ManagedObjects) (e : Error) : Prop :=
  ∃ (front : ManagedObjects) (path : ObjectPath) (interfaces : List (String × Snapshot))
    (back : ManagedObjects),
    reply = front ++ (path, interfaces) :: back ∧ front.WellFormedAfter seen ∧
      Fault (front.map (·.1) ++ seen) path interfaces e

variable {seen : List ObjectPath} {reply : ManagedObjects} {path : ObjectPath}
  {interfaces : List (String × Snapshot)} {e : Error}

theorem wellFormedAfter_cons :
    WellFormedAfter seen ((path, interfaces) :: reply) ↔
      path ∉ seen ∧ (interfaces.map (·.1)).Nodup ∧ WellFormedAfter (path :: seen) reply := by
  constructor
  · rintro ⟨⟨hpaths, hinterfaces⟩, hfresh⟩
    obtain ⟨hpath, hpaths⟩ := List.nodup_cons.mp hpaths
    have hfirst : (path, interfaces) ∈ (path, interfaces) :: reply := by simp
    refine ⟨hfresh _ hfirst, hinterfaces _ hfirst, ⟨hpaths, fun o ho => ?_⟩, fun o ho => ?_⟩
    · exact hinterfaces o (by simp [ho])
    · intro hmem
      rcases List.mem_cons.mp hmem with heq | hmem
      · exact hpath (List.mem_map.mpr ⟨o, ho, heq⟩)
      · exact hfresh o (by simp [ho]) hmem
  · rintro ⟨hpath, hnodup, ⟨hpaths, hinterfaces⟩, hfresh⟩
    refine ⟨⟨List.nodup_cons.mpr ⟨?_, hpaths⟩, ?_⟩, ?_⟩
    · intro hmem
      obtain ⟨o, ho, heq⟩ := List.mem_map.mp hmem
      exact hfresh o ho (by simp [heq])
    · intro o ho
      rcases List.mem_cons.mp ho with rfl | ho
      · exact hnodup
      · exact hinterfaces o ho
    · intro o ho
      rcases List.mem_cons.mp ho with rfl | ho
      · exact hpath
      · exact fun hmem => hfresh o ho (by simp [hmem])

/-- Of the paths before an object only matters which they are. -/
theorem Fault.congr {earlier earlier' : List ObjectPath} (h : Fault earlier path interfaces e)
    (hsame : ∀ p, p ∈ earlier ↔ p ∈ earlier') : Fault earlier' path interfaces e := by
  cases h with
  | path repeated => exact .path ((hsame path).mp repeated)
  | interface fresh repeated => exact .interface (mt (hsame path).mpr fresh) repeated

/-- A fault is the reason why an answer is not well formed. -/
theorem FirstFault.not_wellFormed (h : reply.FirstFault e) : ¬ reply.WellFormed := by
  obtain ⟨front, path, interfaces, back, rfl, -, hfault⟩ := h
  rintro ⟨hpaths, hinterfaces⟩
  cases hfault with
  | path repeated =>
      rw [List.map_append] at hpaths
      exact (List.nodup_append.mp hpaths).2.2 path repeated path (by simp) rfl
  | interface fresh repeated =>
      exact repeated.not_nodup (hinterfaces (path, interfaces) (by simp))

theorem not_firstFaultAfter_nil : ¬ FirstFaultAfter seen [] e := by
  rintro ⟨front, path, interfaces, back, h, -⟩
  simp at h

/-- Either the first object is at fault, or there is nothing wrong with it and something with the
others. -/
theorem firstFaultAfter_cons :
    FirstFaultAfter seen ((path, interfaces) :: reply) e ↔
      Fault seen path interfaces e ∨
        path ∉ seen ∧ (interfaces.map (·.1)).Nodup ∧ FirstFaultAfter (path :: seen) reply e := by
  constructor
  · rintro ⟨front, p, i, back, hreply, hfront, hfault⟩
    cases front with
    | nil =>
        obtain ⟨heq, rfl⟩ := List.cons.inj hreply
        cases heq
        exact .inl hfault
    | cons o front =>
        obtain ⟨rfl, rfl⟩ := List.cons.inj hreply
        obtain ⟨hpath, hnodup, hfront⟩ := wellFormedAfter_cons.mp hfront
        refine .inr ⟨hpath, hnodup, front, p, i, back, rfl, hfront, hfault.congr fun q => ?_⟩
        simp only [List.map_cons, List.cons_append, List.mem_cons, List.mem_append]
        tauto
  · rintro (hfault | ⟨hpath, hnodup, front, p, i, back, rfl, hfront, hfault⟩)
    · exact ⟨[], path, interfaces, reply, rfl, ⟨⟨by simp, by simp⟩, by simp⟩, hfault⟩
    · refine ⟨(path, interfaces) :: front, p, i, back, rfl,
        wellFormedAfter_cons.mpr ⟨hpath, hnodup, hfront⟩, hfault.congr fun q => ?_⟩
      simp only [List.map_cons, List.cons_append, List.mem_cons, List.mem_append]
      tauto

theorem wellFormedAfter_nil : WellFormedAfter [] reply ↔ reply.WellFormed := by
  simp [WellFormedAfter]

theorem firstFaultAfter_nil : FirstFaultAfter [] reply e ↔ reply.FirstFault e := by
  simp [FirstFaultAfter, FirstFault, wellFormedAfter_nil]

end ManagedObjects

/-! ## The scan -/

/-- An object as an answer lists it. -/
def RemoteObject.listed (o : RemoteObject) : ObjectPath × List (String × Snapshot) :=
  (o.path, o.interfaces)

/-- The answer that lists the objects of a tree. -/
def ObjectTree.listed (t : ObjectTree) : ManagedObjects :=
  t.objects.map RemoteObject.listed

namespace RemoteObject

variable {path : ObjectPath} {interfaces : List (String × Snapshot)}

theorem ext_listed {o o' : RemoteObject} (h : o.listed = o'.listed) : o = o' := by
  cases o
  cases o'
  cases h
  rfl

theorem ofReply_eq_ok_iff {o : RemoteObject} :
    ofReply path interfaces = .ok o ↔ o.listed = (path, interfaces) := by
  unfold ofReply
  split
  · rw [Except.ok.injEq]
    exact ⟨fun h => h ▸ rfl, fun h => ext_listed h.symm⟩
  · rename_i name hname
    simp only [reduceCtorEq, false_iff]
    rintro ⟨⟩
    rw [firstRepeated_nil_eq_none_iff.mpr o.distinct] at hname
    cases hname

theorem exists_ofReply_iff :
    (∃ o, ofReply path interfaces = .ok o) ↔ (interfaces.map (·.1)).Nodup := by
  constructor
  · rintro ⟨o, ho⟩
    cases ofReply_eq_ok_iff.mp ho
    exact o.distinct
  · exact fun h => ⟨⟨path, interfaces, h⟩, ofReply_eq_ok_iff.mpr rfl⟩

theorem ofReply_eq_error_iff {earlier : List ObjectPath} (hpath : path ∉ earlier) {e : Error} :
    ofReply path interfaces = .error e ↔ ManagedObjects.Fault earlier path interfaces e := by
  unfold ofReply
  split
  · rename_i hnone
    simp only [reduceCtorEq, false_iff]
    rintro (hrepeated | ⟨-, hrepeated⟩)
    · exact hpath hrepeated
    · rw [firstRepeated_eq_some_iff.mpr (firstRepeatAfter_nil.mpr hrepeated)] at hnone
      cases hnone
  · rename_i name hname
    rw [Except.error.injEq]
    constructor
    · rintro rfl
      exact .interface hpath (firstRepeatAfter_nil.mp (firstRepeated_eq_some_iff.mp hname))
    · rintro (hrepeated | ⟨-, hrepeated⟩)
      · exact absurd hrepeated hpath
      · have hname' := firstRepeated_eq_some_iff.mpr (firstRepeatAfter_nil.mpr hrepeated)
        rw [Option.some.inj (hname.symm.trans hname')]

end RemoteObject

namespace ObjectTree

variable {seen : List ObjectPath} {reply : ManagedObjects}

/-- The scan makes the objects that are listed, where the paths that it has seen and the rest of
the answer allow it. -/
theorem objectsAfter_eq_ok_iff {os : List RemoteObject} :
    objectsAfter seen reply = .ok os ↔
      os.map RemoteObject.listed = reply ∧ reply.WellFormedAfter seen := by
  induction reply generalizing seen os with
  | nil =>
      have hempty : ManagedObjects.WellFormedAfter seen [] := ⟨⟨by simp, by simp⟩, by simp⟩
      simp [objectsAfter, hempty, eq_comm]
  | cons entry rest ih =>
      obtain ⟨path, interfaces⟩ := entry
      -- the path joins those that were seen, so the hypothesis is about a longer list of them
      rw [ManagedObjects.wellFormedAfter_cons, objectsAfter]
      by_cases hpath : path ∈ seen
      · simp [hpath]
      · simp only [hpath, if_false, bind_eq_ok_iff, RemoteObject.ofReply_eq_ok_iff, ih,
          not_false_eq_true, true_and]
        constructor
        · rintro ⟨o, ho, tail, ⟨htail, hrest⟩, hos⟩
          cases hos
          have hnodup := o.distinct
          cases ho
          exact ⟨by simp [RemoteObject.listed, htail], hnodup, hrest⟩
        · rintro ⟨hos, hnodup, hrest⟩
          obtain ⟨o, tail, rfl, ho, htail⟩ := List.map_eq_cons_iff.mp hos
          exact ⟨o, ho, tail, ⟨htail, hrest⟩, rfl⟩

/-- The scan stops at the first object that is at fault, with its fault. -/
theorem objectsAfter_eq_error_iff {e : Error} :
    objectsAfter seen reply = .error e ↔ reply.FirstFaultAfter seen e := by
  induction reply generalizing seen with
  | nil => simp [objectsAfter, ManagedObjects.not_firstFaultAfter_nil]
  | cons entry rest ih =>
      obtain ⟨path, interfaces⟩ := entry
      rw [ManagedObjects.firstFaultAfter_cons, objectsAfter]
      by_cases hpath : path ∈ seen
      · simp only [hpath, if_true, Except.error.injEq, not_true_eq_false, false_and, or_false]
        constructor
        · rintro rfl
          exact .path hpath
        · rintro (_ | ⟨hfresh, -⟩)
          · rfl
          · exact absurd hpath hfresh
      · rw [if_neg hpath, bind_eq_error_iff, RemoteObject.ofReply_eq_error_iff hpath]
        refine or_congr_right ?_
        -- the object is made, so nothing is wrong with it and the fault is among the others
        simp only [bind_eq_error_iff, ih, hpath, not_false_eq_true, true_and,
          ← @RemoteObject.exists_ofReply_iff path interfaces]
        constructor
        · rintro ⟨o, ho, hrest | ⟨tail, -, hpure⟩⟩
          · exact ⟨⟨o, ho⟩, hrest⟩
          · cases hpure
        · rintro ⟨⟨o, ho⟩, hrest⟩
          exact ⟨o, ho, .inl hrest⟩

theorem wellFormed_listed (t : ObjectTree) : t.listed.WellFormed := by
  constructor
  · have hpaths := t.distinct
    rwa [listed, List.map_map]
  · intro entry hentry
    obtain ⟨o, -, rfl⟩ := List.mem_map.mp hentry
    exact o.distinct

/-- A tree is made of the answer that lists it, and of no other. -/
theorem ofManagedObjects_eq_ok_iff {t : ObjectTree} :
    ofManagedObjects reply = .ok t ↔ t.listed = reply := by
  constructor
  · intro h
    unfold ofManagedObjects at h
    split at h
    · rename_i os hos
      cases h
      exact (objectsAfter_eq_ok_iff.mp hos).1
    · cases h
  · rintro rfl
    have hos : objectsAfter [] t.listed = .ok t.objects :=
      objectsAfter_eq_ok_iff.mpr ⟨rfl, ManagedObjects.wellFormedAfter_nil.mpr t.wellFormed_listed⟩
    unfold ofManagedObjects
    split
    · rename_i os hos'
      cases hos.symm.trans hos'
      rfl
    · rename_i e he
      cases hos.symm.trans he

/-- An answer is refused with the fault of the first object that has one. -/
theorem ofManagedObjects_eq_error_iff {e : Error} :
    ofManagedObjects reply = .error e ↔ reply.FirstFault e := by
  rw [← ManagedObjects.firstFaultAfter_nil, ← objectsAfter_eq_error_iff]
  unfold ofManagedObjects
  split
  · rename_i os hos
    simp [hos]
  · rename_i e' he
    simp [he]

theorem exists_ofManagedObjects_iff :
    (∃ t, ofManagedObjects reply = .ok t) ↔ reply.WellFormed := by
  constructor
  · rintro ⟨t, ht⟩
    rw [← ofManagedObjects_eq_ok_iff.mp ht]
    exact t.wellFormed_listed
  · intro hreply
    cases h : ofManagedObjects reply with
    | ok t => exact ⟨t, rfl⟩
    | error e => exact absurd hreply (ofManagedObjects_eq_error_iff.mp h).not_wellFormed

end ObjectTree

/-! ## Reading a tree -/

theorem SortedMap.get?_eq_some_iff {α : Type} {m : SortedMap α} {key : String} {value : α} :
    m.get? key = some value ↔ (key, value) ∈ m.entries :=
  ⟨mem_of_lookup, lookup_of_mem m.lists_entries.1⟩

namespace RemoteObject

theorem properties?_eq_some_iff {o : RemoteObject} {interface : String} {props : Snapshot} :
    o.properties? interface = some props ↔ (interface, props) ∈ o.interfaces :=
  ⟨mem_of_lookup, lookup_of_mem o.distinct⟩

theorem hasInterface_iff {o : RemoteObject} {interface : String} :
    o.hasInterface interface = true ↔ interface ∈ o.interfaceNames := by
  simp [hasInterface, interfaceNames]

/-- An object has an interface where it has properties of it, if only an empty set of them. -/
theorem hasInterface_eq_isSome (o : RemoteObject) (interface : String) :
    o.hasInterface interface = (o.properties? interface).isSome := by
  unfold hasInterface properties?
  induction o.interfaces with
  | nil => rfl
  | cons e rest ih =>
      rw [List.any_cons, ih, SortedMap.lookup_cons_eq]
      by_cases h : interface = e.1
      · simp [h]
      · simp [h, Ne.symm h]

end RemoteObject

namespace ObjectTree

theorem get?_eq_some_iff {t : ObjectTree} {path : String} {o : RemoteObject} :
    t.get? path = some o ↔ o ∈ t.objects ∧ o.path.text = path := by
  constructor
  · intro h
    exact ⟨List.mem_of_find?_eq_some h, by simpa using List.find?_some h⟩
  · rintro ⟨hmem, rfl⟩
    unfold get?
    cases h : t.objects.find? fun o' => o'.path.text == o.path.text with
    | none =>
        have hnot := List.find?_eq_none.mp h o hmem
        simp at hnot
    | some o' =>
        have hpath : o'.path = o.path := ObjectPath.ext_text (by simpa using List.find?_some h)
        rw [List.inj_on_of_nodup_map t.distinct (List.mem_of_find?_eq_some h) hmem hpath]

/-- The value of a property of an interface of the object at a path. -/
def value? (t : ObjectTree) (path interface property : String) : Option Variant :=
  (t.get? path).bind fun o => (o.properties? interface).bind fun props => props.get? property

end ObjectTree

/-- An answer gives a property of an interface of the object at a path a value. -/
def ManagedObjects.Has (reply : ManagedObjects) (path interface property : String)
    (value : Variant) : Prop :=
  ∃ p interfaces props, (p, interfaces) ∈ reply ∧ p.text = path ∧
    (interface, props) ∈ interfaces ∧ (property, value) ∈ props.entries

theorem ObjectTree.value?_eq_some_iff {t : ObjectTree} {path interface property : String}
    {value : Variant} :
    t.value? path interface property = some value ↔
      t.listed.Has path interface property value := by
  simp only [value?, Option.bind_eq_some_iff, get?_eq_some_iff,
    RemoteObject.properties?_eq_some_iff, SortedMap.get?_eq_some_iff]
  constructor
  · rintro ⟨o, ⟨ho, hpath⟩, props, hprops, hvalue⟩
    exact ⟨o.path, o.interfaces, props, List.mem_map_of_mem ho, hpath, hprops, hvalue⟩
  · rintro ⟨p, interfaces, props, hmem, hpath, hprops, hvalue⟩
    obtain ⟨o, ho, heq⟩ := List.mem_map.mp hmem
    cases heq
    exact ⟨o, ⟨ho, hpath⟩, props, hprops, hvalue⟩

/-- **Making a tree loses nothing and refuses exactly the malformed answers.** An answer makes a
tree if and only if it is well formed; the tree lists back the very answer, a property read from it
has the value that the answer gives it, if any, and an object has an interface exactly where it has
properties of it; any other answer is refused with the fault of the first object that has one. -/
theorem ObjectTree.flattening_exact (reply : ManagedObjects) :
    ((∃ t, ofManagedObjects reply = .ok t) ↔ reply.WellFormed) ∧
    (∀ t, ofManagedObjects reply = .ok t →
      (t.objects.map fun o => (o.path, o.interfaces)) = reply ∧
      (∀ path interface property value,
        t.value? path interface property = some value ↔
          reply.Has path interface property value) ∧
      ∀ o ∈ t.objects, ∀ interface,
        o.hasInterface interface = (o.properties? interface).isSome) ∧
    ∀ e, ofManagedObjects reply = .error e ↔ reply.FirstFault e := by
  refine ⟨exists_ofManagedObjects_iff, fun t ht => ?_, fun e => ofManagedObjects_eq_error_iff⟩
  have hlisted := ofManagedObjects_eq_ok_iff.mp ht
  refine ⟨hlisted, fun path interface property value => ?_,
    fun o _ interface => o.hasInterface_eq_isSome interface⟩
  rw [← hlisted]
  exact value?_eq_some_iff

/-- A repeated path is the fault, even where its object repeats an interface as well. -/
example :
    ObjectTree.ofManagedObjects
      [(ObjectPath.root, []), (ObjectPath.root, [("a.b", .empty), ("a.b", .empty)])] =
      .error (.malformedReply "object / reported more than once") := by
  rfl

end BluetoothDirectory
