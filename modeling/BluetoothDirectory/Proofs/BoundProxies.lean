import BluetoothDirectory.Proofs.Selection
import BluetoothDirectory.Proofs.Sharing

/-!
# Proxies keep what they were bound to

While directories and proxies share a remote, a proxy is held together with the settings and the
path that it was made from. `State.Bound` says that it still is what they make, and `step_bound`
that nothing that is done changes that. What queries answer comes from the tree that they fetched
(`fromTree`), and every call carries what its proxy was bound to (`reports_asBound`).
-/

namespace BluetoothDirectory

/-! ## What a query finds -/

namespace Sharing

variable {σ : Type} {bus : Bus} {remote : Remote σ}

/-- Proxies that a directory made of a tree: they are for objects of the tree that have an
interface, and none is made twice. -/
structure MadeOf (tree : ObjectTree) (interface : String) (d : Directory)
    (made : List PropertyAccess) : Prop where
  bound : ∀ a ∈ made, a = d.access a.path
  listed : ∀ a ∈ made, ∃ o ∈ tree.objects, o.path = a.path ∧ o.hasInterface interface = true
  once : (made.map PropertyAccess.path).Nodup

theorem MadeOf.nil (tree : ObjectTree) (interface : String) (d : Directory) :
    MadeOf tree interface d [] where
  bound := nofun
  listed := nofun
  once := List.nodup_nil

theorem MadeOf.of_sublist {tree : ObjectTree} {interface : String} (d : Directory)
    {ps : List ObjectPath} (h : ps.Sublist ((tree.withInterface interface).map (·.path))) :
    MadeOf tree interface d (ps.map d.access) := by
  obtain ⟨hmem, hnodup⟩ := ObjectTree.found_of_sublist h
  refine ⟨fun a ha => ?_, fun a ha => ?_, ?_⟩
  · obtain ⟨p, -, rfl⟩ := List.mem_map.mp ha
    rfl
  · obtain ⟨p, hp, rfl⟩ := List.mem_map.mp ha
    exact hmem p hp
  · have hpaths : (ps.map d.access).map PropertyAccess.path = ps := by
      rw [List.map_map]
      exact List.map_id ps
    rw [hpaths]
    exact hnodup

/-- What a query answers comes from the tree that it fetched: the adapters are objects of the tree
that are adapters, and the devices objects that are devices. -/
structure FromTree (remote : Remote σ) (s : σ) (d : Directory) (answer : Answer)
    (tree : ObjectTree) : Prop where
  fetched : ∃ listed, (remote.answer d.listingCall s).1 = .ok listed ∧
    ObjectTree.ofManagedObjects listed = .ok tree
  adapters : MadeOf tree Interface.adapter d (answer.foundAdapters.map Adapter.properties)
  devices : MadeOf tree Interface.device d (answer.foundDevices.map Device.properties)

/-- What a query answers is made of the tree that it fetched. -/
theorem exists_tree {d : Directory} {q : Directory.Command} (hq : q.IsQuery) {s : σ}
    {answer : Answer} (h : ((d.perform q).runOn remote s).1 = .ok answer) :
    ∃ use listed tree, d.deed q = .list use ∧ (remote.answer d.listingCall s).1 = .ok listed ∧
      ObjectTree.ofManagedObjects listed = .ok tree ∧ answer = use tree := by
  have hlist : ∃ use, d.deed q = .list use := by
    cases hq with
    | managedObjects | findAdapter | adapters => exact ⟨_, rfl⟩
    | devices pattern =>
        rcases Directory.compilePattern_cases pattern with ⟨p, hp⟩ | ⟨-, hp⟩
        · simp only [Directory.deed, hp]
          exact ⟨_, rfl⟩
        · rw [d.perform_eq] at h
          simp only [Directory.deed, hp] at h
          cases h
  obtain ⟨use, hdeed⟩ := hlist
  rw [d.perform_eq, hdeed] at h
  obtain ⟨listed, hlisted, huse⟩ := bind_eq_ok_iff.mp h
  cases htree : ObjectTree.ofManagedObjects listed with
  | error e =>
      rw [htree] at huse
      cases huse
  | ok tree =>
      rw [htree] at huse
      exact ⟨use, listed, tree, hdeed, hlisted, htree, (Except.ok.inj huse).symm⟩

theorem fromTree {d : Directory} {q : Directory.Command} (hq : q.IsQuery) {s : σ}
    {answer : Answer} (h : ((d.perform q).runOn remote s).1 = .ok answer) :
    ∃ tree, FromTree remote s d answer tree := by
  obtain ⟨use, listed, tree, hdeed, hlisted, htree, rfl⟩ := exists_tree hq h
  refine ⟨tree, ⟨listed, hlisted, htree⟩, ?_, ?_⟩
  · cases hq with
    | managedObjects =>
        cases hdeed
        exact .nil ..
    | findAdapter pattern =>
        cases hdeed
        have hfound := MadeOf.of_sublist d ((tree.findAdapter?_sublist pattern).map (·.path))
        simp only [Answer.foundAdapters]
        cases hfind : tree.findAdapter? pattern with
        | none => exact .nil ..
        | some o =>
            rw [hfind] at hfound
            exact hfound
    | adapters =>
        cases hdeed
        have hfound : MadeOf tree Interface.adapter d (tree.adapterPaths.map d.access) :=
          .of_sublist d (.refl _)
        simp only [Answer.foundAdapters, List.map_map]
        exact hfound
    | devices pattern =>
        simp only [Directory.deed] at hdeed
        split at hdeed <;> cases hdeed
        exact .nil ..
  · cases hq with
    | managedObjects | findAdapter | adapters =>
        cases hdeed
        exact .nil ..
    | devices pattern =>
        simp only [Directory.deed] at hdeed
        rcases Directory.compilePattern_cases pattern with ⟨p, hp⟩ | ⟨-, hp⟩
        · rw [hp] at hdeed
          cases hdeed
          have hfound := MadeOf.of_sublist d (tree.devicePaths_sublist p.isMatch)
          simp only [Answer.foundDevices, List.map_map]
          exact hfound
        · rw [hp] at hdeed
          cases hdeed

/-! ## What is held -/

/-- A proxy that still is what a directory with the given settings makes for the given path. -/
def Held.Bound {α : Type} (bus : Bus) (make : PropertyAccess → α) (held : Held α) : Prop :=
  ∃ p : ObjectPath, p.text = held.path ∧
    held.proxy = make (Directory.access ⟨bus, held.config⟩ p)

/-- A state in which all proxies are what they were made to be. -/
structure State.Bound (bus : Bus) (s : State σ) : Prop where
  adapters : ∀ held ∈ s.adapters, held.Bound bus Adapter.mk
  devices : ∀ held ∈ s.devices, held.Bound bus Device.mk

theorem State.Bound.init (bus : Bus) (s : σ) : State.Bound bus { remote := s } where
  adapters := nofun
  devices := nofun

/-- Proxies that are found are held as they are made. -/
theorem bound_found {α : Type} {select : Answer → List α} {path : α → ObjectPath}
    {make : PropertyAccess → α} (doing : Doing) (s : σ)
    (hmake : ∀ d answer tree, FromTree remote s d answer tree →
      ∀ a ∈ select answer, a = make (d.access (path a))) :
    ∀ held ∈ (doing.report bus remote s).found select path, held.Bound bus make := by
  intro held hheld
  cases doing with
  | adapter h c => cases hheld
  | device h c => cases hheld
  | query config q isQuery =>
      simp only [Report.found, Doing.report, Doing.operation] at hheld
      cases hanswer : ((Directory.perform ⟨bus, config⟩ q).runOn remote s).1 with
      | error e =>
          rw [hanswer] at hheld
          cases hheld
      | ok answer =>
          rw [hanswer] at hheld
          obtain ⟨a, ha, rfl⟩ := List.mem_map.mp hheld
          obtain ⟨tree, hfrom⟩ := fromTree isQuery hanswer
          exact ⟨path a, rfl, hmake _ _ _ hfrom a ha⟩

theorem State.Bound.follow {s : State σ} (h : s.Bound bus) (doing : Doing) (t : σ) :
    (s.follow (doing.report bus remote t)).Bound bus := by
  constructor
  · intro held hheld
    rcases List.mem_append.mp hheld with hheld | hheld
    · exact h.adapters held hheld
    · refine bound_found doing t (fun d answer tree hfrom a ha => ?_) held hheld
      exact congrArg Adapter.mk (hfrom.adapters.bound a.properties (List.mem_map_of_mem ha))
  · intro held hheld
    rcases List.mem_append.mp hheld with hheld | hheld
    · exact h.devices held hheld
    · refine bound_found doing t (fun d answer tree hfrom v hv => ?_) held hheld
      exact congrArg Device.mk (hfrom.devices.bound v.properties (List.mem_map_of_mem hv))

/-- A proxy that a directory makes for a path is held as it is made. -/
theorem bound_made {α : Type} {make : PropertyAccess → α} {config : Config} {path : String}
    {r : Except Error α}
    (hmake : ∀ a, r = .ok a →
      ∃ p : ObjectPath, p.text = path ∧ a = make (Directory.access ⟨bus, config⟩ p)) :
    ∀ held ∈ Held.made config path r, held.Bound bus make := by
  intro held hheld
  cases r with
  | error e => cases hheld
  | ok a =>
      obtain rfl := List.mem_singleton.mp hheld
      exact hmake a rfl

theorem State.Bound.bind {s : State σ} (h : s.Bound bus) (act : Act) :
    (s.bind bus act).Bound bus := by
  cases act with
  | ask | adapter | device => exact h
  | bindAdapter config path =>
      refine ⟨fun held hheld => ?_, h.devices⟩
      rcases List.mem_append.mp hheld with hheld | hheld
      · exact h.adapters held hheld
      · exact bound_made (fun a ha => Directory.adapter_eq_ok ha) held hheld
  | bindDevice config path =>
      refine ⟨h.adapters, fun held hheld => ?_⟩
      rcases List.mem_append.mp hheld with hheld | hheld
      · exact h.devices held hheld
      · exact bound_made (fun v hv => Directory.device_eq_ok hv) held hheld

/-- **What is held stays as it was made**, whatever is done. -/
theorem step_bound {s : State σ} (h : s.Bound bus) (act : Act) :
    (step bus remote act s).Bound bus := by
  unfold step report?
  cases s.doing? act with
  | none => exact h.bind act
  | some doing => exact h.follow doing s.remote

/-- Each report of a run is that of something done from a state in which all is as it was made. -/
theorem exists_of_mem_reports {acts : List Act} {s : State σ} (h : s.Bound bus) {r : Report σ}
    (hr : r ∈ reports bus remote acts s) :
    ∃ (act : Act) (s' : State σ) (doing : Doing), s'.Bound bus ∧ s'.doing? act = some doing ∧
      r = doing.report bus remote s'.remote := by
  induction acts generalizing s with
  | nil => cases hr
  | cons act acts ih =>
      rw [reports] at hr
      rcases List.mem_append.mp hr with hr | hr
      · obtain ⟨doing, hdoing, rfl⟩ := Option.map_eq_some_iff.mp (Option.mem_toList.mp hr)
        exact ⟨act, s, doing, h, hdoing, rfl⟩
      · exact ih (step_bound h act) hr

end Sharing

/-! ## What is asked -/

/-- The path and the interface that a request is for, if it is for one object. -/
def Request.target? : Request → Option (String × String)
  | managedObjects _ => none
  | get path interface _ | getAll path interface | set path interface _ _
  | method path interface _ _ => some (path, interface)

/-- A call with the given settings, for the object at a path and one of its interfaces. -/
structure Call.Carries (call : Call) (config : Config) (path interface : String) : Prop where
  service : call.service = config.service
  timeout : call.timeout = config.timeout
  target : call.request.target? = some (path, interface)

namespace Deed

/-- The call of a deed with the given settings, if it has one. -/
def calls (config : Config) (deed : Deed) : List Call :=
  (deed.request? config.root).toList.map fun r => ⟨config.service, config.timeout, r⟩

/-- The calls of a deed are the same on every remote. -/
theorem callsOn_operation {σ : Type} (d : Directory) (deed : Deed) (remote : Remote σ) (s : σ) :
    (deed.operation d).callsOn remote s = deed.calls d.config := by
  rcases deed.operation_cases d with ⟨r, -, hrequest, hop⟩ | ⟨r, use, hrequest, hop, -⟩
  · rw [hop, calls, hrequest]
    rfl
  · rw [hop, calls, hrequest]
    rfl

theorem Within.carries {path : ObjectPath} {interface : String} {deed : Deed}
    (h : deed.Within path interface) (config : Config) :
    ∀ call ∈ deed.calls config, call.Carries config path.text interface := by
  intro call hcall
  obtain ⟨r, hr, rfl⟩ := List.mem_map.mp hcall
  refine ⟨rfl, rfl, ?_⟩
  have hrequest := Option.mem_toList.mp hr
  cases h with
  | settled => cases hrequest
  | read | readAll | invoke =>
      cases hrequest
      rfl
  | write name value =>
      simp only [request?] at hrequest
      split at hrequest <;> cases hrequest
      rfl

end Deed

namespace Sharing

variable {σ : Type} {bus : Bus} {remote : Remote σ}

/-- What a proxy asks is as it was bound: it is on the bus of the remote and for the path it was
made for, and what its deed asks carries the settings it was made with and the interface of its
sort. -/
structure AsksAsBound (bus : Bus) (config : Config) (path interface : String)
    (a : PropertyAccess) (deed : Deed) (calls : List Call) : Prop where
  onBus : a.bus = bus
  forPath : a.path.text = path
  asked : calls = deed.calls config
  carried : ∀ call ∈ calls, call.Carries config path interface

/-- What a report shows is as it was bound. A query asks nothing but the listing that the settings
of its directory call for, and what it answers comes from the tree that it fetched; a proxy asks as
it was bound. -/
def Report.AsBound (bus : Bus) (remote : Remote σ) (r : Report σ) : Prop :=
  match r.doing with
  | .query config _ _ =>
    (∀ call ∈ r.calls, call = ⟨config.service, config.timeout, .managedObjects config.root⟩) ∧
      ∀ answer, r.answer = .ok answer →
        ∃ tree, FromTree remote r.before ⟨bus, config⟩ answer tree
  | .adapter held c =>
    AsksAsBound bus held.config held.path Interface.adapter held.proxy.properties
      (held.proxy.deed c) r.calls
  | .device held c =>
    AsksAsBound bus held.config held.path Interface.device held.proxy.properties
      (held.proxy.deed c) r.calls

/-- A proxy that is as it was made asks as it was bound. -/
theorem asksAsBound_of_within (config : Config) {p : ObjectPath} {interface : String}
    {deed : Deed} (h : deed.Within p interface) (s : σ) :
    AsksAsBound bus config p.text interface (Directory.access ⟨bus, config⟩ p) deed
      ((deed.operation ⟨bus, config⟩).callsOn remote s) := by
  have hcalls := deed.callsOn_operation ⟨bus, config⟩ remote s
  refine ⟨rfl, rfl, hcalls, fun call hcall => ?_⟩
  rw [hcalls] at hcall
  exact h.carries config call hcall

theorem adapter_asBound {held : Held Adapter} (h : held.Bound bus Adapter.mk)
    (c : Adapter.Command) (s : σ) :
    ((Doing.adapter held c).report bus remote s).AsBound bus remote := by
  obtain ⟨config, path, proxy⟩ := held
  obtain ⟨p, hpath, hproxy⟩ := h
  dsimp only at hpath hproxy
  subst hpath hproxy
  simp only [Report.AsBound, Doing.report, Doing.operation, Adapter.perform_eq]
  exact asksAsBound_of_within config
    (Adapter.deed_within ⟨Directory.access ⟨bus, config⟩ p⟩ c) s

theorem device_asBound {held : Held Device} (h : held.Bound bus Device.mk)
    (c : Device.Command) (s : σ) :
    ((Doing.device held c).report bus remote s).AsBound bus remote := by
  obtain ⟨config, path, proxy⟩ := held
  obtain ⟨p, hpath, hproxy⟩ := h
  dsimp only at hpath hproxy
  subst hpath hproxy
  simp only [Report.AsBound, Doing.report, Doing.operation, Device.perform_eq]
  exact asksAsBound_of_within config
    (Device.deed_within ⟨Directory.access ⟨bus, config⟩ p⟩ c) s

theorem query_asBound (config : Config) {q : Directory.Command} (hq : q.IsQuery) (s : σ) :
    ((Doing.query config q hq).report bus remote s).AsBound bus remote := by
  refine ⟨fun call hcall => ?_, fun answer h => fromTree hq h⟩
  simp only [Doing.report, Doing.operation] at hcall
  rw [Directory.perform_eq, Deed.callsOn_operation] at hcall
  obtain ⟨r, hr, rfl⟩ := List.mem_map.mp hcall
  rw [Directory.request?_of_isQuery hq (Option.mem_toList.mp hr)]

/-- All that a run reports is as it was bound. -/
theorem reports_asBound {acts : List Act} {s : State σ} (h : s.Bound bus) {r : Report σ}
    (hr : r ∈ reports bus remote acts s) : r.AsBound bus remote := by
  obtain ⟨act, s', doing, hbound, hdoing, rfl⟩ := exists_of_mem_reports h hr
  cases act with
  | bindAdapter | bindDevice => cases hdoing
  | ask config q isQuery =>
      cases hdoing
      exact query_asBound config isQuery s'.remote
  | adapter n c =>
      obtain ⟨held, hheld, rfl⟩ := Option.map_eq_some_iff.mp hdoing
      exact adapter_asBound (hbound.adapters held (List.mem_of_getElem? hheld)) c s'.remote
  | device n c =>
      obtain ⟨held, hheld, rfl⟩ := Option.map_eq_some_iff.mp hdoing
      exact device_asBound (hbound.devices held (List.mem_of_getElem? hheld)) c s'.remote

/-- **Every call goes where it was bound to go.** Directories with any settings share one remote,
and so do the proxies that they make, in any order of use. The calls that the remote sees are those
of the reports; each of them carries what who makes it was bound to, and what a query answers comes
from the tree that it fetched. Which bus the settings name changes neither the calls nor the
answers. -/
theorem calls_as_bound (bus : Bus) (remote : Remote σ) (s : σ) (acts : List Act) :
    (run bus remote.logging acts { remote := (s, []) }).remote.2 =
        (reports bus remote acts { remote := s }).flatMap Report.calls ∧
      (∀ r ∈ reports bus remote acts { remote := s }, r.AsBound bus remote) ∧
      ∀ choose : Config → Bus,
        (reports bus remote (acts.map (Act.rebus choose)) { remote := s }).map
            (fun r => (r.calls, r.answer)) =
          (reports bus remote acts { remote := s }).map fun r => (r.calls, r.answer) := by
  refine ⟨?_, fun r hr => reports_asBound (.init bus s) hr, fun choose => ?_⟩
  · have hlog : run bus remote.logging acts (State.logged { remote := s } []) = _ :=
      run_logging acts { remote := s } []
    exact congrArg (fun final => final.remote.2) hlog
  · have hreports : reports bus remote (acts.map (Act.rebus choose)) { remote := s } = _ :=
      reports_rebus choose acts { remote := s }
    rw [hreports, List.map_map]
    rfl

end Sharing

end BluetoothDirectory
