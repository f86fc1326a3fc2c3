import BluetoothDirectory.Proofs.SingleCall
import BluetoothDirectory.Store

/-!
# Sharing one remote

Any number of directories, each with settings of its own, and the proxies that they make share one
remote on one bus and are used in any order. A run reports what each act asked and was answered;
`run_logging` says that the remote sees the calls of the reports and no others, and `reports_rebus`
that it makes no difference which bus the settings name.
-/

namespace BluetoothDirectory

/-! ## A remote that keeps a log -/

/-- A remote that writes down the calls that reach it, in their order. -/
def Remote.logging {σ : Type} (remote : Remote σ) : Remote (σ × List Call) where
  answer c s := ((remote.answer c s.1).1, (remote.answer c s.1).2, s.2 ++ [c])

theorem Remote.answer_logging {σ : Type} (remote : Remote σ) (c : Call) (s : σ)
    (log : List Call) :
    remote.logging.answer c (s, log) =
      ((remote.answer c s).1, (remote.answer c s).2, log ++ [c]) := rfl

/-- The log grows by the calls of a program, and makes no difference to it. -/
theorem Exchange.run_logging {α σ : Type} (remote : Remote σ) (x : Exchange α) (s : σ)
    (log : List Call) :
    x.run remote.logging (s, log) =
      ((x.run remote s).1, (x.run remote s).2, log ++ x.calls remote s) := by
  induction x generalizing s log with
  | done a => simp only [run, calls, List.append_nil]
  | ask c next ih =>
      simp only [run, calls, Remote.answer_logging, ih, List.append_assoc, List.singleton_append]

theorem Operation.runOn_logging {α σ : Type} (remote : Remote σ) (op : Operation α) (s : σ)
    (log : List Call) :
    op.runOn remote.logging (s, log) =
      ((op.runOn remote s).1, (op.runOn remote s).2, log ++ op.callsOn remote s) :=
  Exchange.run_logging remote (ExceptT.run op) s log

/-- The calls of a program are those it would ask without a log. -/
theorem Exchange.calls_logging {α σ : Type} (remote : Remote σ) (x : Exchange α) (s : σ)
    (log : List Call) : x.calls remote.logging (s, log) = x.calls remote s := by
  induction x generalizing s log with
  | done a => rfl
  | ask c next ih =>
      simp only [calls, Remote.answer_logging, ih]

/-! ## Proxies in an answer -/

/-- The adapters that a query answers. -/
def Answer.foundAdapters : Answer → List Adapter
  | .foundAdapter found => found.toList
  | .adapters as => as
  | _ => []

/-- The devices that a query answers. -/
def Answer.foundDevices : Answer → List Device
  | .devices vs => vs
  | _ => []

namespace Sharing

/-- A proxy, with the settings of the directory that made it and the path it was made for. -/
structure Held (α : Type) where
  config : Config
  path : String
  proxy : α

/-- The proxy that a directory was asked for, if the path is one. -/
def Held.made {α : Type} (config : Config) (path : String) : Except Error α → List (Held α)
  | .ok a => [⟨config, path, a⟩]
  | .error _ => []

/-- What is done next: a directory with some settings is asked a query or for a proxy, or one of
the proxies at hand is given a command. -/
inductive Act where
  | ask (config : Config) (query : Directory.Command) (isQuery : query.IsQuery)
  | bindAdapter (config : Config) (path : String)
  | bindDevice (config : Config) (path : String)
  | adapter (index : Nat) (command : Adapter.Command)
  | device (index : Nat) (command : Device.Command)

/-- The proxies at hand, in the order in which they were made, and the state of the remote. -/
structure State (σ : Type) where
  adapters : List (Held Adapter) := []
  devices : List (Held Device) := []
  remote : σ

/-- Who does something that may need a call, and what. -/
inductive Doing where
  | query (config : Config) (query : Directory.Command) (isQuery : query.IsQuery)
  | adapter (held : Held Adapter) (command : Adapter.Command)
  | device (held : Held Device) (command : Device.Command)

/-- The operation of what is done; directories are on the bus of the remote. -/
def Doing.operation (bus : Bus) : Doing → Operation Answer
  | query config q _ => Directory.perform ⟨bus, config⟩ q
  | adapter held c => held.proxy.perform c
  | device held c => held.proxy.perform c

/-- What became of something that was done: the state of the remote before it, its calls, its
answer and the state of the remote after it. -/
structure Report (σ : Type) where
  doing : Doing
  before : σ
  calls : List Call
  answer : Except Error Answer
  after : σ

section Run

variable {σ : Type} (bus : Bus) (remote : Remote σ)

/-- The report of something that is done. -/
def Doing.report (doing : Doing) (s : σ) : Report σ where
  doing := doing
  before := s
  calls := (doing.operation bus).callsOn remote s
  answer := ((doing.operation bus).runOn remote s).1
  after := ((doing.operation bus).runOn remote s).2

/-- The proxies of one sort that were found, to be held with the settings of the directory that
found them. -/
def Report.found {α : Type} (select : Answer → List α) (path : α → ObjectPath) (r : Report σ) :
    List (Held α) :=
  match r.doing, r.answer with
  | .query config _ _, .ok answer => (select answer).map fun a => ⟨config, (path a).text, a⟩
  | _, _ => []

/-- Who acts, if the act is anything but the making of a proxy. -/
def State.doing? (s : State σ) : Act → Option Doing
  | .ask config q isQuery => some (.query config q isQuery)
  | .bindAdapter .. | .bindDevice .. => none
  | .adapter n c => s.adapters[n]?.map fun held => .adapter held c
  | .device n c => s.devices[n]?.map fun held => .device held c

/-- Makes a proxy, if that is asked for and the path is one. -/
def State.bind (s : State σ) : Act → State σ
  | .bindAdapter config path =>
    { s with adapters := s.adapters ++ Held.made config path (Directory.adapter ⟨bus, config⟩ path) }
  | .bindDevice config path =>
    { s with devices := s.devices ++ Held.made config path (Directory.device ⟨bus, config⟩ path) }
  | _ => s

/-- The state after what a report is about. -/
def State.follow (s : State σ) (r : Report σ) : State σ where
  adapters := s.adapters ++ r.found Answer.foundAdapters Adapter.path
  devices := s.devices ++ r.found Answer.foundDevices Device.path
  remote := r.after

/-- The report of an act, if it is anything but the making of a proxy. -/
def report? (act : Act) (s : State σ) : Option (Report σ) :=
  (s.doing? act).map fun doing => doing.report bus remote s.remote

/-- The state after an act. -/
def step (act : Act) (s : State σ) : State σ :=
  match report? bus remote act s with
  | some r => s.follow r
  | none => s.bind bus act

/-- The state after a run. -/
def run : List Act → State σ → State σ
  | [], s => s
  | act :: acts, s => run acts (step bus remote act s)

/-- The reports of a run, in the order of its acts. -/
def reports : List Act → State σ → List (Report σ)
  | [], _ => []
  | act :: acts, s => (report? bus remote act s).toList ++ reports acts (step bus remote act s)

end Run

/-! ## The log of the remote -/

section Log

variable {σ : Type} {bus : Bus} {remote : Remote σ}

/-- A state with a log beside it. -/
def State.logged (s : State σ) (log : List Call) : State (σ × List Call) where
  adapters := s.adapters
  devices := s.devices
  remote := (s.remote, log)

/-- A report with the log beside it, to which its calls were added. -/
def Report.logged (r : Report σ) (log : List Call) : Report (σ × List Call) where
  doing := r.doing
  before := (r.before, log)
  calls := r.calls
  answer := r.answer
  after := (r.after, log ++ r.calls)

theorem report?_logging (act : Act) (s : State σ) (log : List Call) :
    report? bus remote.logging act (s.logged log) =
      (report? bus remote act s).map fun r => r.logged log := by
  have hreport : ∀ doing : Doing, doing.report bus remote.logging (s.remote, log) =
      (doing.report bus remote s.remote).logged log := by
    intro doing
    simp only [Doing.report, Report.logged, Operation.runOn_logging, Operation.callsOn,
      Exchange.calls_logging]
  have hdoing : (s.logged log).doing? act = s.doing? act := by
    cases act <;> rfl
  unfold report?
  rw [hdoing]
  cases s.doing? act with
  | none => rfl
  | some doing => exact congrArg some (hreport doing)

theorem step_logging (act : Act) (s : State σ) (log : List Call) :
    step bus remote.logging act (s.logged log) =
      (step bus remote act s).logged
        (log ++ (report? bus remote act s).toList.flatMap Report.calls) := by
  unfold step
  rw [report?_logging]
  cases report? bus remote act s with
  | some r => simp [Report.logged, State.follow, State.logged, Report.found]
  | none =>
      simp only [Option.map_none, Option.toList_none, List.flatMap_nil, List.append_nil]
      cases act <;> rfl

/-- **The remote sees the calls of the reports**, in their order, and no other. -/
theorem run_logging (acts : List Act) (s : State σ) (log : List Call) :
    run bus remote.logging acts (s.logged log) =
      (run bus remote acts s).logged (log ++ (reports bus remote acts s).flatMap Report.calls) := by
  induction acts generalizing s log with
  | nil => simp only [run, reports, List.flatMap_nil, List.append_nil]
  | cons act acts ih =>
      simp only [run, reports]
      rw [step_logging, ih, List.flatMap_append, List.append_assoc]

/-- Two directories with different services, and proxies of both in turn. -/
example :
    let near : Config := { service := "org.bluez", timeout := none }
    let far : Config := { service := "org.example", root := "/far", timeout := none }
    let acts : List Act := [.bindDevice near "/a", .bindAdapter far "/b", .bindDevice far "no path",
      .device 0 .connect, .adapter 0 .powered, .ask far .adapters .adapters,
      .device 0 (.setTrusted true), .device 1 .pair]
    (run .system Store.remote.logging acts { remote := (⟨[]⟩, []) }).remote.2 =
      [⟨"org.bluez", none, .method "/a" Interface.device "Connect" []⟩,
       ⟨"org.example", none, .get "/b" Interface.adapter "Powered"⟩,
       ⟨"org.example", none, .managedObjects "/far"⟩,
       ⟨"org.bluez", none, .set "/a" Interface.device "Trusted" (.bool true)⟩] := by
  rfl

end Log

/-! ## The bus in the settings -/

section OtherBus

variable {σ : Type} {bus : Bus} {remote : Remote σ} (choose : Config → Bus)

/-- The settings with another bus. -/
def rebus (config : Config) : Config := config.withBus (choose config)

/-- What is held, with another bus in the settings it was made from. -/
def Held.rebus {α : Type} (held : Held α) : Held α :=
  { held with config := Sharing.rebus choose held.config }

/-- An act with another bus in the settings. -/
def Act.rebus : Act → Act
  | ask config q isQuery => ask (Sharing.rebus choose config) q isQuery
  | bindAdapter config path => bindAdapter (Sharing.rebus choose config) path
  | bindDevice config path => bindDevice (Sharing.rebus choose config) path
  | adapter n c => adapter n c
  | device n c => device n c

/-- What is done, with another bus in the settings. -/
def Doing.rebus : Doing → Doing
  | query config q isQuery => query (Sharing.rebus choose config) q isQuery
  | adapter held c => adapter (held.rebus choose) c
  | device held c => device (held.rebus choose) c

/-- A state with another bus in the settings. -/
def State.rebus (s : State σ) : State σ where
  adapters := s.adapters.map (Held.rebus choose)
  devices := s.devices.map (Held.rebus choose)
  remote := s.remote

/-- A report with another bus in the settings; all that was observed is the same. -/
def Report.rebus (r : Report σ) : Report σ :=
  { r with doing := r.doing.rebus choose }

/-- The operations of a directory do not look at the bus in its settings. -/
theorem perform_rebus (config : Config) (c : Directory.Command) :
    Directory.perform ⟨bus, rebus choose config⟩ c = Directory.perform ⟨bus, config⟩ c := by
  cases c <;> rfl

theorem doing?_rebus (act : Act) (s : State σ) :
    (s.rebus choose).doing? (act.rebus choose) = (s.doing? act).map (Doing.rebus choose) := by
  cases act with
  | ask | bindAdapter | bindDevice => rfl
  | adapter n c =>
      simp only [State.doing?, Act.rebus, State.rebus, List.getElem?_map, Option.map_map]
      rfl
  | device n c =>
      simp only [State.doing?, Act.rebus, State.rebus, List.getElem?_map, Option.map_map]
      rfl

theorem report_rebus (doing : Doing) (s : σ) :
    (doing.rebus choose).report bus remote s = (doing.report bus remote s).rebus choose := by
  cases doing with
  | query config q isQuery =>
      simp only [Doing.report, Report.rebus, Doing.rebus, Doing.operation, perform_rebus]
  | adapter held c => rfl
  | device held c => rfl

theorem report?_rebus (act : Act) (s : State σ) :
    report? bus remote (act.rebus choose) (s.rebus choose) =
      (report? bus remote act s).map (Report.rebus choose) := by
  unfold report?
  rw [doing?_rebus]
  cases s.doing? act with
  | none => rfl
  | some doing => exact congrArg some (report_rebus choose doing s.remote)

theorem found_rebus {α : Type} (select : Answer → List α) (path : α → ObjectPath)
    (r : Report σ) :
    (r.rebus choose).found select path = (r.found select path).map (Held.rebus choose) := by
  obtain ⟨doing, before, calls, answer, after⟩ := r
  cases doing with
  | query config q isQuery =>
      cases answer with
      | error e => rfl
      | ok answer =>
          simp only [Report.found, Report.rebus, Doing.rebus, List.map_map]
          rfl
  | adapter held c => cases answer <;> rfl
  | device held c => cases answer <;> rfl

theorem made_rebus {α : Type} (config : Config) (path : String) (r : Except Error α) :
    Held.made (rebus choose config) path r =
      (Held.made config path r).map (Held.rebus choose) := by
  cases r <;> rfl

theorem bind_rebus (act : Act) (s : State σ) :
    (s.rebus choose).bind bus (act.rebus choose) = (s.bind bus act).rebus choose := by
  cases act with
  | ask | adapter | device => rfl
  | bindAdapter config path =>
      simp only [Act.rebus, State.bind, State.rebus, made_rebus, List.map_append]
      rfl
  | bindDevice config path =>
      simp only [Act.rebus, State.bind, State.rebus, made_rebus, List.map_append]
      rfl

theorem step_rebus (act : Act) (s : State σ) :
    step bus remote (act.rebus choose) (s.rebus choose) =
      (step bus remote act s).rebus choose := by
  unfold step
  rw [report?_rebus]
  cases report? bus remote act s with
  | none => exact bind_rebus choose act s
  | some r =>
      simp only [Option.map_some, State.follow, State.rebus, found_rebus, List.map_append]
      rfl

/-- **The bus in the settings makes no difference**: the reports of a run are the same, whichever
bus the settings of each directory name. -/
theorem reports_rebus (acts : List Act) (s : State σ) :
    reports bus remote (acts.map (Act.rebus choose)) (s.rebus choose) =
      (reports bus remote acts s).map (Report.rebus choose) := by
  induction acts generalizing s with
  | nil => rfl
  | cons act acts ih =>
      simp only [reports, List.map_cons, report?_rebus, step_rebus, ih, List.map_append]
      cases report? bus remote act s <;> rfl

end OtherBus

end Sharing

end BluetoothDirectory
