import BluetoothDirectory.Store.Scripted
import BluetoothDirectory.Proofs.StoreWrite
import BluetoothDirectory.Proofs.WriteGate

/-!
# Sessions with a store

Any number of directories and proxies share one store in memory: in each turn one of them is given
a command, and any round trip may be made to time out. `play_cases` says once what a turn can do to
the store; `reports_split` carries that over a whole session, so that the store before each turn is
the first one with the writes that were answered with success.
-/

namespace BluetoothDirectory.Session

open Store (Scripted)

/-- One turn of a session: a directory is given a command. A late turn makes the next round trip
time out, which is the one of its own command if that has any. -/
structure Turn where
  directory : Directory
  command : Directory.Command
  late : Bool := false

namespace Turn

/-- What the command of a turn comes to. -/
def deed (t : Turn) : Deed :=
  t.directory.deed t.command

/-- The state from which the command of a turn is performed. -/
def start (t : Turn) (s : Scripted) : Scripted :=
  if t.late then s.queue .late else s

/-- Plays a turn. -/
def play (t : Turn) (s : Scripted) : Except Error Answer × Scripted :=
  (t.directory.perform t.command).runOn Scripted.remote (t.start s)

end Turn

/-- What became of a turn: the store before it, its answer and the store after it. -/
structure Report where
  turn : Turn
  before : Store
  answer : Except Error Answer
  after : Store

/-- The report of a turn that is played from a state. -/
def Turn.report (t : Turn) (s : Scripted) : Report :=
  ⟨t, s.store, (t.play s).1, (t.play s).2.store⟩

/-- The write of a turn, if it is one and was answered with success. -/
def Report.accepted? (r : Report) : Option Write :=
  match r.answer with
  | .ok _ => r.turn.deed.write?
  | .error _ => none

/-- The reports of a session, one for each turn. -/
def reports : List Turn → Scripted → List Report
  | [], _ => []
  | t :: ts, s => t.report s :: reports ts (t.play s).2

/-- The state after a session. -/
def final : List Turn → Scripted → Scripted
  | [], s => s
  | t :: ts, s => final ts (t.play s).2

/-- The writes that were answered with success, in their order. -/
def accepted (rs : List Report) : List Write :=
  rs.filterMap Report.accepted?

/-! ## One round trip -/

/-- All that is arranged for the round trips to come is that some of them time out. -/
def Pending (s : Scripted) : Prop :=
  ∀ reply ∈ s.script, reply = .late

theorem Pending.init (store : Store) : Pending { store } := by
  intro reply h
  cases h

theorem Pending.start {s : Scripted} (h : Pending s) (t : Turn) : Pending (t.start s) := by
  unfold Turn.start
  split
  · intro reply hr
    rcases List.mem_append.mp hr with hr | hr
    · exact h reply hr
    · exact List.mem_singleton.mp hr
  · exact h

theorem Pending.answer {s : Scripted} (h : Pending s) (c : Call) :
    Pending (Scripted.remote.answer c s).2 :=
  fun reply hr => h reply (List.mem_of_mem_tail hr)

/-- A round trip is answered by the store, or it times out and the store stays as it is. -/
theorem answer_cases {s : Scripted} (h : Pending s) (c : Call) :
    ((Scripted.remote.answer c s).1 = (s.store.answer c.request).1 ∧
      (Scripted.remote.answer c s).2.store = (s.store.answer c.request).2) ∨
    ((∃ operation limit, (Scripted.remote.answer c s).1 = .error (.timeout operation limit)) ∧
      (Scripted.remote.answer c s).2.store = s.store) := by
  cases hs : s.script with
  | nil => exact .inl (by simp [Scripted.remote, hs, Scripted.follow])
  | cons reply rest =>
      obtain rfl := h reply (by simp [hs])
      exact .inr ⟨⟨Scripted.title c.request, c.timeout.getD .zero,
        by simp [Scripted.remote, hs, Scripted.follow]⟩,
        by simp [Scripted.remote, hs, Scripted.follow]⟩

/-- Only a write changes a store. -/
theorem answer_snd_of_not_set (store : Store) {r : Request}
    (h : ∀ path interface property value, r ≠ .set path interface property value) :
    (store.answer r).2 = store := by
  cases r with
  | managedObjects root => rfl
  | get path interface property =>
      simp only [Store.answer]
      split
      · rfl
      · split <;> rfl
  | getAll path interface =>
      simp only [Store.answer]
      split <;> rfl
  | set path interface property value => exact (h path interface property value rfl).elim
  | method path interface member arguments => rfl

/-- Asking anything but a write leaves the store as it is. -/
theorem runOn_once_store {s : Scripted} (h : Pending s) {c : Call}
    (hc : ∀ path interface property value, c.request ≠ .set path interface property value)
    (use : c.Reply → Except Error Answer) :
    ((Operation.once c use).runOn Scripted.remote s).2.store = s.store := by
  rw [Operation.runOn_once]
  rcases answer_cases h c with ⟨-, hstore⟩ | ⟨-, hstore⟩
  · rw [hstore, answer_snd_of_not_set _ hc]
  · exact hstore

/-! ## One turn -/

namespace Turn

variable {t : Turn} {s : Scripted}

@[simp] theorem start_store (t : Turn) (s : Scripted) : (t.start s).store = s.store := by
  unfold start
  split <;> rfl

theorem play_eq (t : Turn) (s : Scripted) :
    t.play s = (t.deed.operation t.directory).runOn Scripted.remote (t.start s) := by
  unfold play
  rw [Directory.perform_eq]
  rfl

theorem pending_play (h : Pending s) : Pending (t.play s).2 := by
  rw [play_eq]
  cases t.deed with
  | settled result => exact h.start t
  | write w =>
      simp only [Deed.operation]
      split
      · exact h.start t
      · exact (h.start t).answer _
  | list | get | read | readAll | invoke => exact (h.start t).answer _

/-- A turn that is no write leaves the store as it is. -/
theorem play_other (h : Pending s) (hw : t.deed.write? = none) :
    (t.play s).2.store = s.store := by
  rw [play_eq, ← start_store t s]
  cases hd : t.deed with
  | settled result => rfl
  | write w => simp [hd, Deed.write?] at hw
  | list | get | read | readAll | invoke =>
      exact runOn_once_store (h.start t) (by simp) _

/-- A write that is answered with success was allowed, found its interface and is carried out; one
that fails leaves the store as it is. -/
theorem play_write (h : Pending s) {w : Write} (hw : t.deed = .write w) :
    ((t.play s).1 = .ok .nothing ∧ (t.play s).2.store = s.store.apply w ∧
      s.store.Has w.path.text w.interface ∧
      Schema.Allows w.interface w.property w.value.kind) ∨
    (∃ e, (t.play s).1 = .error e) ∧ (t.play s).2.store = s.store := by
  rw [play_eq, hw, ← start_store t s]
  simp only [Deed.operation]
  cases hcheck : Schema.checkWrite w.interface w.property w.value with
  | error e => exact .inr ⟨⟨e, rfl⟩, rfl⟩
  | ok u =>
      have hallows := Schema.checkWrite_eq_ok_iff.mp hcheck
      simp only [Operation.runOn_once]
      rcases answer_cases (h.start t) ⟨t.directory.config.service, t.directory.config.timeout,
          .set w.path.text w.interface w.property w.value⟩ with
        ⟨hanswer, hstore⟩ | ⟨⟨operation, limit, hanswer⟩, hstore⟩
      · simp only [hanswer, hstore, Store.answer]
        cases hprops : (t.start s).store.properties? w.path.text w.interface with
        | none => exact .inr ⟨⟨_, rfl⟩, rfl⟩
        | some props =>
            exact .inl ⟨rfl, rfl, Option.isSome_iff_exists.mpr ⟨props, hprops⟩, hallows⟩
      · simp only [hanswer, hstore]
        exact .inr ⟨⟨_, rfl⟩, trivial⟩

end Turn

/-- **What a turn can do to the store**: carry out its write, if that is answered with success, and
nothing otherwise. -/
theorem report_cases {s : Scripted} (h : Pending s) (t : Turn) :
    (∃ w, (t.report s).accepted? = some w ∧ (t.report s).after = s.store.apply w ∧
      s.store.Has w.path.text w.interface ∧
      Schema.Allows w.interface w.property w.value.kind) ∨
    (t.report s).accepted? = none ∧ (t.report s).after = s.store := by
  cases hw : t.deed.write? with
  | none =>
      refine .inr ⟨?_, t.play_other h hw⟩
      unfold Report.accepted?
      split
      · exact hw
      · rfl
  | some w =>
      have hdeed : t.deed = .write w := by
        cases hd : t.deed <;> simp_all [Deed.write?]
      rcases t.play_write h hdeed with ⟨hanswer, hstore, hhas, hallows⟩ | ⟨⟨e, hanswer⟩, hstore⟩
      · exact .inl ⟨w, by simp [Report.accepted?, Turn.report, hanswer, hw], hstore, hhas, hallows⟩
      · exact .inr ⟨by simp [Report.accepted?, Turn.report, hanswer], hstore⟩

/-- The store after a turn has the write of the turn, if that was accepted. -/
theorem report_after {s : Scripted} (h : Pending s) (t : Turn) :
    (t.play s).2.store = s.store.applyAll (accepted [t.report s]) := by
  rcases report_cases h t with ⟨w, haccepted, hafter, -⟩ | ⟨haccepted, hafter⟩
  · rw [accepted, List.filterMap_cons, haccepted]
    exact hafter
  · rw [accepted, List.filterMap_cons, haccepted]
    exact hafter

/-! ## Whole sessions -/

/-- The writes of a session are applied turn by turn. -/
theorem applyAll_accepted_cons (store : Store) (r : Report) (rs : List Report) :
    store.applyAll (accepted (r :: rs)) =
      (store.applyAll (accepted [r])).applyAll (accepted rs) := by
  have happend : accepted (r :: rs) = accepted [r] ++ accepted rs :=
    List.filterMap_append (l := [r])
  rw [happend, Store.applyAll, List.foldl_append]
  rfl

/-- The store after a session has all accepted writes, in their order. -/
theorem final_store (ts : List Turn) {s : Scripted} (h : Pending s) :
    (final ts s).store = s.store.applyAll (accepted (reports ts s)) := by
  induction ts generalizing s with
  | nil => rfl
  | cons t ts ih =>
      rw [final, ih (t.pending_play h), report_after h t]
      exact (applyAll_accepted_cons s.store (t.report s) _).symm

/-- What every turn preserves holds of the state before each turn of a session. -/
theorem reports_invariant {P : Scripted → Prop}
    (hstep : ∀ s (t : Turn), Pending s → P s → P (t.play s).2) {ts : List Turn} {s : Scripted}
    (h : Pending s) (hs : P s) {r : Report} (hr : r ∈ reports ts s) :
    ∃ s', Pending s' ∧ P s' ∧ r = r.turn.report s' := by
  induction ts generalizing s with
  | nil => cases hr
  | cons t ts ih =>
      rcases List.mem_cons.mp hr with rfl | hr
      · exact ⟨s, h, hs, rfl⟩
      · exact ih (t.pending_play h) (hstep s t h hs) hr

/-- **Each report of a session is that of a turn** played from the first store with the writes
accepted until then. -/
theorem reports_split {ts : List Turn} {s : Scripted} (h : Pending s)
    {before : List Report} {r : Report} {rest : List Report}
    (hr : reports ts s = before ++ r :: rest) :
    ∃ s', Pending s' ∧ r = r.turn.report s' ∧
      s'.store = s.store.applyAll (accepted before) := by
  induction ts generalizing s before with
  | nil => simp [reports] at hr
  | cons t ts ih =>
      rw [reports] at hr
      -- the report is that of the first turn, or of a session that begins after it
      cases before with
      | nil =>
          obtain ⟨rfl, -⟩ := List.cons.inj hr
          exact ⟨s, h, rfl, rfl⟩
      | cons first before =>
          obtain ⟨rfl, htail⟩ := List.cons.inj hr
          obtain ⟨s', hs', hreport, hstore⟩ := ih (t.pending_play h) htail
          refine ⟨s', hs', hreport, ?_⟩
          rw [hstore, report_after h t]
          exact (applyAll_accepted_cons s.store (t.report s) before).symm

/-- The report of some turn of a session, whichever it is. -/
theorem exists_of_mem_reports {ts : List Turn} {s : Scripted} (h : Pending s) {r : Report}
    (hr : r ∈ reports ts s) :
    ∃ s' ws, Pending s' ∧ r = r.turn.report s' ∧ s'.store = s.store.applyAll ws := by
  obtain ⟨before, rest, hsplit⟩ := List.append_of_mem hr
  obtain ⟨s', hs', hreport, hstore⟩ := reports_split h hsplit
  exact ⟨s', _, hs', hreport, hstore⟩

end BluetoothDirectory.Session
