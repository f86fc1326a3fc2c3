import BluetoothDirectory.Proofs.Session

/-!
# The last writer wins

What a session leaves in a store, and what it reads from it on the way: the accepted writes in
their order, each of which changes the one property that it names. `session_last_writer` puts this
together for any number of proxies, any order of their commands and any round trips timing out.
-/

namespace BluetoothDirectory

/-! ## The value after several writes -/

/-- Whether a write is to a property of an interface of an object. -/
def Write.IsTo (w : Write) (path : ObjectPath) (interface property : String) : Prop :=
  w.path = path ∧ w.interface = interface ∧ w.property = property

instance (w : Write) (path : ObjectPath) (interface property : String) :
    Decidable (w.IsTo path interface property) :=
  inferInstanceAs (Decidable (_ ∧ _))

/-- The value of the last of several writes to a property. -/
def lastWritten? (ws : List Write) (path : ObjectPath) (interface property : String) :
    Option Variant :=
  (ws.reverse.find? fun w => w.IsTo path interface property).map Write.value

theorem lastWritten?_cons (w : Write) (ws : List Write) (path : ObjectPath)
    (interface property : String) :
    lastWritten? (w :: ws) path interface property =
      (lastWritten? ws path interface property).or
        (if w.IsTo path interface property then some w.value else none) := by
  unfold lastWritten?
  rw [List.reverse_cons, List.find?_append]
  cases ws.reverse.find? fun w => w.IsTo path interface property with
  | some w' => rfl
  | none =>
      by_cases h : w.IsTo path interface property <;> simp [h]

namespace Store

theorem value?_apply {s : Store} {path : ObjectPath} {interface : String}
    (h : s.Has path.text interface) (w : Write) (property : String) :
    (s.apply w).value? path.text interface property =
      if w.IsTo path interface property then some w.value
      else s.value? path.text interface property := by
  unfold apply
  rw [value?_write]
  by_cases hw : w.IsTo path interface property
  · obtain ⟨rfl, rfl, rfl⟩ := hw
    rw [if_pos ⟨rfl, rfl, rfl, h⟩, if_pos ⟨rfl, rfl, rfl⟩]
  · rw [if_neg hw, if_neg]
    rintro ⟨hpath, hinterface, hproperty, -⟩
    exact hw ⟨ObjectPath.ext_text hpath.symm, hinterface.symm, hproperty.symm⟩

theorem has_applyAll (s : Store) (ws : List Write) (path interface : String) :
    (s.applyAll ws).Has path interface ↔ s.Has path interface := by
  induction ws generalizing s with
  | nil => exact Iff.rfl
  | cons w ws ih => exact (ih (s.apply w)).trans (has_apply s w path interface)

theorem layout_applyAll (s : Store) (ws : List Write) : (s.applyAll ws).layout = s.layout := by
  induction ws generalizing s with
  | nil => rfl
  | cons w ws ih => exact (ih (s.apply w)).trans (layout_apply s w)

/-- After several writes a property has the value of the last one to it, or the one it had. -/
theorem value?_applyAll {s : Store} {path : ObjectPath} {interface : String}
    (h : s.Has path.text interface) (ws : List Write) (property : String) :
    (s.applyAll ws).value? path.text interface property =
      (lastWritten? ws path interface property).or (s.value? path.text interface property) := by
  induction ws generalizing s with
  | nil => rfl
  | cons w ws ih =>
      show ((s.apply w).applyAll ws).value? _ _ _ = _
      rw [ih ((has_apply s w _ _).mpr h), value?_apply h, lastWritten?_cons]
      by_cases hw : w.IsTo path interface property <;>
        cases lastWritten? ws path interface property <;> simp [hw]

end Store

namespace Session

open Store (Scripted)

/-! ## Reading in a session -/

/-- What reading a property of a store gives, where there is the interface. -/
def readingOf (interface name : String) : Option Variant → Except Error Answer
  | some value => .ok (.variant value)
  | none => .error (.propertyNotFound interface name)

/-- Reading a property gives what the store holds, unless it times out. -/
theorem Turn.play_get {t : Turn} {s : Scripted} (h : Pending s) {path : ObjectPath}
    {interface name : String} (hdeed : t.deed = .get path interface name)
    (hhas : s.store.Has path.text interface) :
    (∃ operation limit, (t.play s).1 = .error (.timeout operation limit)) ∨
    (t.play s).1 = readingOf interface name (s.store.value? path.text interface name) := by
  obtain ⟨props, hprops⟩ := Option.isSome_iff_exists.mp hhas
  rw [play_eq, hdeed]
  simp only [Deed.operation, Operation.runOn_once]
  rcases answer_cases (h.start t) ⟨t.directory.config.service, t.directory.config.timeout,
      .get path.text interface name⟩ with ⟨hanswer, -⟩ | ⟨⟨operation, limit, hanswer⟩, -⟩
  · refine .inr ?_
    simp only [hanswer, Store.answer, start_store, Store.value?, hprops, Option.bind_some]
    cases props.get? name <;> rfl
  · exact .inl ⟨operation, limit, by simp only [hanswer]; rfl⟩

/-! ## The whole session -/

/-- A report without an accepted write leaves the store as it was, and one with an accepted write
changes the property of that write. -/
theorem report_changes {s : Scripted} (h : Pending s) (t : Turn) :
    (∀ w, (t.report s).accepted? = some w → s.store.ChangesOnly w (t.report s).after) ∧
    ((t.report s).accepted? = none → (t.report s).after = s.store) := by
  rcases report_cases h t with ⟨w, haccepted, hafter, hhas, -⟩ | ⟨haccepted, hafter⟩
  · refine ⟨fun w' hw' => ?_, fun hnone => ?_⟩
    · obtain rfl : w = w' := Option.some.inj (haccepted.symm.trans hw')
      rw [hafter]
      exact Store.changesOnly_apply hhas
    · rw [haccepted] at hnone
      cases hnone
  · refine ⟨fun w hw => ?_, fun _ => hafter⟩
    rw [haccepted] at hw
    cases hw

/-- **The last writer wins, failures change nothing, and nothing else moves.** For every store and
every session on it: the store at the end is the first one with the accepted writes in their order;
an accepted write changes the one property that it names, and every other turn, above all one that
is answered with an error, changes nothing; the objects and their interfaces stay as they are and in
their order; and reading a property of an interface that is there gives, unless it times out, the
value of the last write accepted before, else the first value, else that there is no such
property. -/
theorem session_last_writer (store : Store) (ts : List Turn) :
    (final ts { store }).store = store.applyAll (accepted (reports ts { store })) ∧
    (final ts { store }).store.layout = store.layout ∧
    (∀ r ∈ reports ts { store },
      (∀ w, r.accepted? = some w → r.before.ChangesOnly w r.after) ∧
      (r.accepted? = none → r.after = r.before) ∧
      (∀ e, r.answer = .error e → r.after = r.before) ∧
      r.after.layout = store.layout) ∧
    (∀ before r rest (path : ObjectPath) interface name,
      reports ts { store } = before ++ r :: rest →
      r.turn.command = .properties path (.get interface name) →
      store.Has path.text interface →
      (∀ operation limit, r.answer ≠ .error (.timeout operation limit)) →
      r.answer = readingOf interface name
        ((lastWritten? (accepted before) path interface name).or
          (store.value? path.text interface name))) := by
  have hpending := Pending.init store
  have hfinal := final_store ts hpending
  refine ⟨hfinal, ?_, ?_, ?_⟩
  · rw [hfinal, Store.layout_applyAll]
  · intro r hr
    obtain ⟨s, ws, hs, hreport, hstore⟩ := exists_of_mem_reports hpending hr
    obtain ⟨hchanges, hkeeps⟩ := report_changes hs r.turn
    rw [← hreport] at hchanges hkeeps
    have hbefore : r.before = s.store := by rw [hreport]; rfl
    refine ⟨by rw [hbefore]; exact hchanges, by rw [hbefore]; exact hkeeps, ?_, ?_⟩
    · intro e he
      rw [hbefore]
      exact hkeeps (by simp [Report.accepted?, he])
    · rcases report_cases hs r.turn with ⟨w, -, hafter, -⟩ | ⟨-, hafter⟩
      · rw [← hreport] at hafter
        rw [hafter, Store.layout_apply, hstore, Store.layout_applyAll]
      · rw [← hreport] at hafter
        rw [hafter, hstore, Store.layout_applyAll]
  · intro before r rest path interface name hsplit hcommand hhas hintime
    obtain ⟨s, hs, hreport, hstore⟩ := reports_split hpending hsplit
    have hdeed : r.turn.deed = .get path interface name := by
      unfold Turn.deed
      rw [hcommand]
      rfl
    have hanswer : r.answer = (r.turn.play s).1 := by rw [hreport]; rfl
    have hhas' : s.store.Has path.text interface := by
      rw [hstore]
      exact (Store.has_applyAll ..).mpr hhas
    rcases r.turn.play_get hs hdeed hhas' with ⟨operation, limit, htimeout⟩ | hread
    · exact absurd (hanswer.trans htimeout) (hintime operation limit)
    · rw [hanswer, hread, hstore, Store.value?_applyAll hhas]

end Session

end BluetoothDirectory
