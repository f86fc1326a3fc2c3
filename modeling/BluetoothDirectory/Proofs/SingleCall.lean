import BluetoothDirectory.Proofs.SnapshotOrder

/-!
# One call for one command

No command asks more than one call, and none asks again. `Directory.Settles` says which commands
are settled without a call and how, and `Directory.Command.MayAdd` which errors a command can have
that its call did not. `Deed.operation_cases` says the same of deeds; `settledBy_iff` and
`mayAdd_of_deed` carry it over to commands.
-/

namespace BluetoothDirectory

/-! ## What a caller is told -/

/-- The commands to an adapter that are settled without a call, and how. -/
inductive Adapter.Settles (a : Adapter) : Adapter.Command → Except Error Answer → Prop
  | path : Settles a .path (.ok (.path a.path))
  | description : Settles a .description (.ok (.text a.description))
  | refused {name : String} {value : Variant} {e : Error}
      (h : Schema.Refuses Interface.adapter name value.kind e) :
      Settles a (.setProperty name value) (.error e)

/-- The commands to a device that are settled without a call, and how. -/
inductive Device.Settles (v : Device) : Device.Command → Except Error Answer → Prop
  | path : Settles v .path (.ok (.path v.path))
  | description : Settles v .description (.ok (.text v.description))
  | refused {name : String} {value : Variant} {e : Error}
      (h : Schema.Refuses Interface.device name value.kind e) :
      Settles v (.setProperty name value) (.error e)
  | connectProfile {uuid : String} (h : Uuid.ofString? uuid = none) :
      Settles v (.connectProfile uuid) (.error (.invalidUuid uuid))
  | disconnectProfile {uuid : String} (h : Uuid.ofString? uuid = none) :
      Settles v (.disconnectProfile uuid) (.error (.invalidUuid uuid))

/-- The commands to the properties of an object that are settled without a call, and how. -/
inductive PropertyAccess.Settles (a : PropertyAccess) :
    PropertyAccess.Command → Except Error Answer → Prop
  | refused {interface name : String} {value : Variant} {e : Error}
      (h : Schema.Refuses interface name value.kind e) :
      Settles a (.set interface name value) (.error e)

/-- The commands that are settled without a call, and how: what the proxies settle, a proxy that
cannot be bound, and a pattern that cannot be read. -/
inductive Directory.Settles (d : Directory) : Directory.Command → Except Error Answer → Prop
  | pattern {pattern : String} (h : Pattern.compile? pattern = none) :
      Settles d (.devices pattern) (.error (.invalidPattern pattern))
  | noAdapter {path : String} {c : Adapter.Command} (h : ObjectPath.ofString? path = none) :
      Settles d (.adapter path c) (.error (.invalidObjectPath path))
  | noDevice {path : String} {c : Device.Command} (h : ObjectPath.ofString? path = none) :
      Settles d (.device path c) (.error (.invalidObjectPath path))
  | adapter {path : String} {a : Adapter} {c : Adapter.Command} {r : Except Error Answer}
      (h : d.adapter path = .ok a) (hc : a.Settles c r) : Settles d (.adapter path c) r
  | device {path : String} {v : Device} {c : Device.Command} {r : Except Error Answer}
      (h : d.device path = .ok v) (hc : v.Settles c r) : Settles d (.device path c) r
  | properties {path : ObjectPath} {c : PropertyAccess.Command} {r : Except Error Answer}
      (hc : (d.access path).Settles c r) : Settles d (.properties path c) r

namespace Directory.Command

/-- The commands that read one property as a type. -/
inductive IsGetter : Directory.Command → Prop
  | adapter (path : String) {c : Adapter.Command} (h : c.isGetter = true) :
      IsGetter (.adapter path c)
  | device (path : String) {c : Device.Command} (h : c.isGetter = true) :
      IsGetter (.device path c)
  | properties (path : ObjectPath) (type : PropertyType) (interface name : String) :
      IsGetter (.properties path (.getAs type interface name))

/-- The commands that read all properties of an interface of an object. -/
inductive ReadsAll : (path interface : String) → Directory.Command → Prop
  | adapter (path : String) {c : Adapter.Command} (h : c.readsAll = true) :
      ReadsAll path Interface.adapter (.adapter path c)
  | device (path : String) {c : Device.Command} (h : c.readsAll = true) :
      ReadsAll path Interface.device (.device path c)
  | properties (path : ObjectPath) (interface : String) :
      ReadsAll path.text interface (.properties path (.getAll interface))

/-- The errors that a command can have when its call was answered: a listing may be malformed, and
a property of another kind than it is read as. -/
inductive MayAdd : Directory.Command → Error → Prop
  | malformed {c : Directory.Command} (h : c.IsQuery) (text : String) :
      MayAdd c (.malformedReply text)
  | mistyped {c : Directory.Command} (h : c.IsGetter) (interface name : String)
      (expected found : Variant.Kind) : MayAdd c (.decode interface name expected found)

end Directory.Command

/-- An operation asks a remote one call and no other. The error of the call is its error, and it
has no other errors than the given ones. -/
structure Operation.AsksOnce {α σ : Type} (remote : Remote σ) (s : σ) (op : Operation α)
    (call : Call) (mayAdd : Error → Prop) : Prop where
  calls : op.callsOn remote s = [call]
  after : (op.runOn remote s).2 = (remote.answer call s).2
  failed : ∀ e, (remote.answer call s).1 = .error e → (op.runOn remote s).1 = .error e
  answered : ∀ reply, (remote.answer call s).1 = .ok reply →
    ∀ e, (op.runOn remote s).1 = .error e → mayAdd e

namespace Operation

variable {α σ : Type} {remote : Remote σ} {s : σ} {call : Call} {mayAdd : Error → Prop}

theorem asksOnce_once {use : call.Reply → Except Error α}
    (huse : ∀ reply e, use reply = .error e → mayAdd e) :
    (once call use).AsksOnce remote s call mayAdd where
  calls := rfl
  after := rfl
  failed := by
    intro e h
    rw [runOn_once, h]
    rfl
  answered := by
    intro reply h e he
    rw [runOn_once, h] at he
    exact huse reply e he

end Operation

/-! ## Deeds -/

/-- How a deed is settled without a call. -/
inductive Deed.SettledBy : Deed → Except Error Answer → Prop
  | settled (r : Except Error Answer) : SettledBy (.settled r) r
  | refused {w : Write} {e : Error}
      (h : Schema.Refuses w.interface w.property w.value.kind e) : SettledBy (.write w) (.error e)

/-- The errors that a deed can have when its call was answered. -/
inductive Deed.MayAdd : Deed → Error → Prop
  | malformed (use : ObjectTree → Answer) (text : String) :
      MayAdd (.list use) (.malformedReply text)
  | mistyped (path : ObjectPath) (type : PropertyType) (interface name : String)
      (expected found : Variant.Kind) :
      MayAdd (.read path type interface name) (.decode interface name expected found)

/-- The request that a deed makes, unless it is settled without one. -/
def Deed.request? (root : String) : Deed → Option Request
  | settled _ => none
  | list _ => some (.managedObjects root)
  | get path interface name | read path _ interface name =>
    some (.get path.text interface name)
  | readAll path interface _ => some (.getAll path.text interface)
  | write w =>
    match Schema.checkWrite w.interface w.property w.value with
    | .ok () => some (.set w.path.text w.interface w.property w.value)
    | .error _ => none
  | invoke path interface member arguments =>
    some (.method path.text interface member arguments)

/-- A tree that cannot be made of a listing is malformed. -/
theorem ObjectTree.exists_malformedReply {reply : ManagedObjects} {e : Error}
    (h : ObjectTree.ofManagedObjects reply = .error e) : ∃ text, e = .malformedReply text := by
  obtain ⟨front, path, interfaces, back, -, -, hfault⟩ := ofManagedObjects_eq_error_iff.mp h
  cases hfault with
  | path repeated => exact ⟨_, rfl⟩
  | interface fresh repeated => exact ⟨_, rfl⟩

theorem map_eq_error {ε α β : Type} {f : α → β} {r : Except ε α} {e : ε}
    (h : f <$> r = .error e) : r = .error e := by
  cases r with
  | ok a => cases h
  | error e' => exact congrArg Except.error (Except.error.inj h)

/-- A value that cannot be read as a type is reported with the property it belongs to. -/
theorem Variant.exists_decode_error {α : Type} [Variant.Payload α] {v : Variant}
    {interface name : String} {e : Error} (h : v.decode α interface name = .error e) :
    ∃ expected found, e = .decode interface name expected found := by
  unfold decode at h
  split at h
  · cases h
  · cases h
    exact ⟨_, _, rfl⟩

theorem PropertyType.exists_decode_error {type : PropertyType} {v : Variant}
    {interface name : String} {e : Error}
    (h : type.readWith (m := Except Error) (fun α _ => v.decode α interface name) = .error e) :
    ∃ expected found, e = .decode interface name expected found := by
  cases type <;> exact Variant.exists_decode_error (map_eq_error h)

/-- The deeds of a proxy: all of them are about its own object and interface. -/
inductive Deed.Within (path : ObjectPath) (interface : String) : Deed → Prop
  | settled (r : Except Error Answer) : Within path interface (.settled r)
  | read (type : PropertyType) (name : String) :
      Within path interface (.read path type interface name)
  | readAll (use : Snapshot → Answer) : Within path interface (.readAll path interface use)
  | write (name : String) (value : Variant) :
      Within path interface (.write ⟨path, interface, name, value⟩)
  | invoke (member : String) (arguments : List Variant) :
      Within path interface (.invoke path interface member arguments)

theorem Adapter.deed_within (a : Adapter) (c : Adapter.Command) :
    (a.deed c).Within a.path Interface.adapter := by
  cases c <;> constructor

/-- The profile decides whether there is anything to ask, but not of what. -/
theorem Device.profileDeed_within (v : Device) (member uuid : String) :
    (v.profileDeed member uuid).Within v.path Interface.device := by
  rcases v.profileDeed_cases member uuid with ⟨u, -, hdeed⟩ | ⟨-, hdeed⟩
  · rw [hdeed]
    exact .invoke _ _
  · rw [hdeed]
    exact .settled _

theorem Device.deed_within (v : Device) (c : Device.Command) :
    (v.deed c).Within v.path Interface.device := by
  cases c
  case connectProfile uuid | disconnectProfile uuid => exact v.profileDeed_within _ uuid
  all_goals constructor

namespace Deed

/-- **What a deed does**: it is settled, or it makes its request once. -/
theorem operation_cases (d : Directory) (deed : Deed) :
    (∃ r, deed.SettledBy r ∧ deed.request? d.config.root = none ∧
      deed.operation d = Operation.ofExcept r) ∨
    ∃ (r : Request) (use : r.Reply → Except Error Answer),
      deed.request? d.config.root = some r ∧
      deed.operation d = Operation.once ⟨d.config.service, d.config.timeout, r⟩ use ∧
      ∀ reply e, use reply = .error e → deed.MayAdd e := by
  cases deed with
  | settled r => exact .inl ⟨r, .settled r, rfl, rfl⟩
  | list use =>
      refine .inr ⟨.managedObjects d.config.root, _, rfl, rfl, fun reply e h => ?_⟩
      obtain ⟨text, rfl⟩ := ObjectTree.exists_malformedReply (map_eq_error h)
      exact .malformed use text
  | get path interface name =>
      refine .inr ⟨.get path.text interface name, _, rfl, rfl, fun reply e h => ?_⟩
      cases h
  | read path type interface name =>
      refine .inr ⟨.get path.text interface name, _, rfl, rfl, fun reply e h => ?_⟩
      obtain ⟨expected, found, rfl⟩ := PropertyType.exists_decode_error h
      exact .mistyped path type interface name expected found
  | readAll path interface use =>
      refine .inr ⟨.getAll path.text interface, _, rfl, rfl, fun reply e h => ?_⟩
      cases h
  | write w =>
      cases hcheck : Schema.checkWrite w.interface w.property w.value with
      | error e =>
          refine .inl ⟨.error e, .refused (Schema.checkWrite_eq_error_iff.mp hcheck), ?_, ?_⟩
          · simp only [request?, hcheck]
          · simp only [operation, hcheck]
      | ok u =>
          refine .inr ⟨.set w.path.text w.interface w.property w.value, fun _ => .ok .nothing,
            ?_, ?_, fun reply e h => ?_⟩
          · simp only [request?, hcheck]
          · simp only [operation, hcheck]
          · cases h
  | invoke path interface member arguments =>
      refine .inr ⟨.method path.text interface member arguments, _, rfl, rfl, fun reply e h => ?_⟩
      cases h

theorem SettledBy.operation_eq {deed : Deed} {r : Except Error Answer} (h : deed.SettledBy r)
    (d : Directory) : deed.operation d = Operation.ofExcept r := by
  cases h with
  | settled => rfl
  | refused h => simp only [operation, Schema.checkWrite_eq_error_iff.mpr h]

end Deed

/-! ## Which commands are settled -/

/-- A write that the check lets pass is not refused. -/
theorem Schema.not_refuses {interface property : String} {v : Variant} {e : Error}
    (h : checkWrite interface property v = .ok ()) : ¬ Refuses interface property v.kind e := by
  rw [← checkWrite_eq_error_iff, h]
  nofun

theorem Adapter.settledBy_iff {a : Adapter} {c : Adapter.Command} {r : Except Error Answer} :
    (a.deed c).SettledBy r ↔ a.Settles c r := by
  constructor
  · intro h
    cases c
    case path =>
      cases h
      exact .path
    case description =>
      cases h
      exact .description
    case setProperty name value =>
      cases h with
      | refused h => exact .refused h
    case setAlias | setDiscoverable | setDiscoverableTimeout | setPairable | setPairableTimeout
        | setPowered =>
      -- the typed setters pass the check
      cases h with
      | refused h => exact absurd h (Schema.not_refuses rfl)
    all_goals cases h
  · intro h
    cases h with
    | path => exact .settled _
    | description => exact .settled _
    | refused h => exact .refused h

theorem Device.settledBy_profileDeed {v : Device} {member uuid : String} {r : Except Error Answer}
    (h : (v.profileDeed member uuid).SettledBy r) :
    Uuid.ofString? uuid = none ∧ r = .error (.invalidUuid uuid) := by
  rcases v.profileDeed_cases member uuid with ⟨u, -, hdeed⟩ | ⟨hnone, hdeed⟩
  · rw [hdeed] at h
    cases h
  · rw [hdeed] at h
    cases h
    exact ⟨hnone, rfl⟩

theorem Device.settledBy_iff {v : Device} {c : Device.Command} {r : Except Error Answer} :
    (v.deed c).SettledBy r ↔ v.Settles c r := by
  constructor
  · intro h
    cases c
    case path =>
      cases h
      exact .path
    case description =>
      cases h
      exact .description
    case setProperty name value =>
      cases h with
      | refused h => exact .refused h
    case setAlias | setBlocked | setTrusted =>
      cases h with
      | refused h => exact absurd h (Schema.not_refuses rfl)
    case connectProfile uuid =>
      obtain ⟨hnone, rfl⟩ := settledBy_profileDeed h
      exact .connectProfile hnone
    case disconnectProfile uuid =>
      obtain ⟨hnone, rfl⟩ := settledBy_profileDeed h
      exact .disconnectProfile hnone
    all_goals cases h
  · intro h
    cases h with
    | path => exact .settled _
    | description => exact .settled _
    | refused h => exact .refused h
    | connectProfile h | disconnectProfile h =>
        simp only [deed, profileDeed, profile, h]
        exact .settled _

theorem PropertyAccess.settledBy_iff {a : PropertyAccess} {c : PropertyAccess.Command}
    {r : Except Error Answer} : (a.deed c).SettledBy r ↔ a.Settles c r := by
  constructor
  · intro h
    cases c with
    | set interface name value =>
        cases h with
        | refused h => exact .refused h
    | get | getAs | getAll => cases h
  · intro h
    cases h with
    | refused h => exact .refused h

namespace Directory

/-- An adapter is bound to the path that is given, which has to be one. -/
theorem adapter_cases (d : Directory) (path : String) :
    (∃ p : ObjectPath, p.text = path ∧ d.adapter path = .ok ⟨d.access p⟩) ∨
      ObjectPath.ofString? path = none ∧ d.adapter path = .error (.invalidObjectPath path) := by
  unfold adapter readPath
  cases hp : ObjectPath.ofString? path with
  | some p => exact .inl ⟨p, ObjectPath.text_of_ofString? hp, rfl⟩
  | none => exact .inr ⟨rfl, rfl⟩

/-- A device is bound to the path that is given, which has to be one. -/
theorem device_cases (d : Directory) (path : String) :
    (∃ p : ObjectPath, p.text = path ∧ d.device path = .ok ⟨d.access p⟩) ∨
      ObjectPath.ofString? path = none ∧ d.device path = .error (.invalidObjectPath path) := by
  unfold device readPath
  cases hp : ObjectPath.ofString? path with
  | some p => exact .inl ⟨p, ObjectPath.text_of_ofString? hp, rfl⟩
  | none => exact .inr ⟨rfl, rfl⟩

theorem compilePattern_cases (pattern : String) :
    (∃ p, compilePattern pattern = .ok p) ∨
      Pattern.compile? pattern = none ∧
        compilePattern pattern = .error (.invalidPattern pattern) := by
  unfold compilePattern
  cases Pattern.compile? pattern with
  | some p => exact .inl ⟨p, rfl⟩
  | none => exact .inr ⟨rfl, rfl⟩

/-- The commands that are settled are those whose deeds are. -/
theorem settledBy_iff {d : Directory} {c : Directory.Command} {r : Except Error Answer} :
    (d.deed c).SettledBy r ↔ d.Settles c r := by
  constructor
  · intro h
    cases c with
    | managedObjects | findAdapter | adapters => cases h
    | devices pattern =>
        simp only [deed] at h
        rcases compilePattern_cases pattern with ⟨p, hp⟩ | ⟨hnone, hp⟩
        · rw [hp] at h
          cases h
        · rw [hp] at h
          cases h
          exact .pattern hnone
    | adapter path c =>
        simp only [deed] at h
        rcases d.adapter_cases path with ⟨p, -, ha⟩ | ⟨hnone, ha⟩
        · rw [ha] at h
          exact .adapter ha (Adapter.settledBy_iff.mp h)
        · rw [ha] at h
          cases h
          exact .noAdapter hnone
    | device path c =>
        simp only [deed] at h
        rcases d.device_cases path with ⟨p, -, hv⟩ | ⟨hnone, hv⟩
        · rw [hv] at h
          exact .device hv (Device.settledBy_iff.mp h)
        · rw [hv] at h
          cases h
          exact .noDevice hnone
    | properties path c => exact .properties (PropertyAccess.settledBy_iff.mp h)
  · intro h
    cases h with
    | pattern h =>
        simp only [deed, compilePattern, h]
        exact .settled _
    | noAdapter h =>
        simp only [deed, adapter, readPath, h]
        exact .settled _
    | noDevice h =>
        simp only [deed, device, readPath, h]
        exact .settled _
    | adapter ha hc =>
        simp only [deed, ha]
        exact Adapter.settledBy_iff.mpr hc
    | device hv hc =>
        simp only [deed, hv]
        exact Device.settledBy_iff.mpr hc
    | properties hc => exact PropertyAccess.settledBy_iff.mpr hc

/-! ## What commands ask -/

/-- A command to a proxy has the deed of that proxy's command, or is settled by an error. -/
theorem deed_adapter_cases (d : Directory) (path : String) (c : Adapter.Command) :
    (∃ p : ObjectPath, p.text = path ∧ d.deed (.adapter path c) = Adapter.deed ⟨d.access p⟩ c) ∨
      ∃ e, d.deed (.adapter path c) = .settled (.error e) := by
  simp only [deed]
  rcases d.adapter_cases path with ⟨p, hp, ha⟩ | ⟨-, ha⟩
  · rw [ha]
    exact .inl ⟨p, hp, rfl⟩
  · rw [ha]
    exact .inr ⟨_, rfl⟩

theorem deed_device_cases (d : Directory) (path : String) (c : Device.Command) :
    (∃ p : ObjectPath, p.text = path ∧ d.deed (.device path c) = Device.deed ⟨d.access p⟩ c) ∨
      ∃ e, d.deed (.device path c) = .settled (.error e) := by
  simp only [deed]
  rcases d.device_cases path with ⟨p, hp, hv⟩ | ⟨-, hv⟩
  · rw [hv]
    exact .inl ⟨p, hp, rfl⟩
  · rw [hv]
    exact .inr ⟨_, rfl⟩

/-- Only queries list all objects. -/
theorem isQuery_of_deed {d : Directory} {c : Directory.Command} {use : ObjectTree → Answer}
    (h : d.deed c = .list use) : c.IsQuery := by
  cases c with
  | managedObjects => exact .managedObjects
  | findAdapter pattern => exact .findAdapter pattern
  | adapters => exact .adapters
  | devices pattern => exact .devices pattern
  | adapter path c =>
      rcases d.deed_adapter_cases path c with ⟨p, -, hdeed⟩ | ⟨e, hdeed⟩
      · have hwithin := Adapter.deed_within ⟨d.access p⟩ c
        rw [← hdeed, h] at hwithin
        cases hwithin
      · cases hdeed.symm.trans h
  | device path c =>
      rcases d.deed_device_cases path c with ⟨p, -, hdeed⟩ | ⟨e, hdeed⟩
      · have hwithin := Device.deed_within ⟨d.access p⟩ c
        rw [← hdeed, h] at hwithin
        cases hwithin
      · cases hdeed.symm.trans h
  | properties path c => cases c <;> cases h

/-- Only getters read a property as a type. -/
theorem isGetter_of_deed {d : Directory} {c : Directory.Command} {p : ObjectPath}
    {type : PropertyType} {interface name : String}
    (h : d.deed c = .read p type interface name) : c.IsGetter := by
  cases c with
  | managedObjects | findAdapter | adapters => cases h
  | devices pattern =>
      simp only [deed] at h
      split at h <;> cases h
  | adapter path c =>
      rcases d.deed_adapter_cases path c with ⟨q, -, hdeed⟩ | ⟨e, hdeed⟩
      · exact .adapter path (Adapter.isGetter_of_deed (hdeed.symm.trans h))
      · cases hdeed.symm.trans h
  | device path c =>
      rcases d.deed_device_cases path c with ⟨q, -, hdeed⟩ | ⟨e, hdeed⟩
      · exact .device path (Device.isGetter_of_deed (hdeed.symm.trans h))
      · cases hdeed.symm.trans h
  | properties path c =>
      cases c with
      | getAs type interface name => exact .properties path type interface name
      | get | getAll | set => cases h

/-- What a deed may add to the errors of its call, its command may. -/
theorem mayAdd_of_deed {d : Directory} {c : Directory.Command} {e : Error}
    (h : (d.deed c).MayAdd e) : c.MayAdd e := by
  generalize hdeed : d.deed c = deed at h
  cases h with
  | malformed use text => exact .malformed (isQuery_of_deed hdeed) text
  | mistyped path type interface name expected found =>
      exact .mistyped (isGetter_of_deed hdeed) interface name expected found

/-- The one request of a query is the listing. -/
theorem request?_of_isQuery {d : Directory} {c : Directory.Command} (hc : c.IsQuery)
    {r : Request} (h : (d.deed c).request? d.config.root = some r) :
    r = .managedObjects d.config.root := by
  cases hc with
  | managedObjects | findAdapter | adapters => exact (Option.some.inj h).symm
  | devices pattern =>
      simp only [deed] at h
      split at h
      · exact (Option.some.inj h).symm
      · cases h

/-- The one request of a command that reads all properties is for all of them. -/
theorem request?_of_readsAll {d : Directory} {c : Directory.Command} {path interface : String}
    (hc : c.ReadsAll path interface) {r : Request}
    (h : (d.deed c).request? d.config.root = some r) : r = .getAll path interface := by
  cases hc with
  | adapter path hread =>
      rcases d.deed_adapter_cases path _ with ⟨p, rfl, hdeed⟩ | ⟨e, hdeed⟩
      · obtain ⟨use, hall⟩ := Adapter.deed_of_readsAll ⟨d.access p⟩ hread
        rw [hdeed, hall] at h
        exact (Option.some.inj h).symm
      · rw [hdeed] at h
        cases h
  | device path hread =>
      rcases d.deed_device_cases path _ with ⟨p, rfl, hdeed⟩ | ⟨e, hdeed⟩
      · obtain ⟨use, hall⟩ := Device.deed_of_readsAll ⟨d.access p⟩ hread
        rw [hdeed, hall] at h
        exact (Option.some.inj h).symm
      · rw [hdeed] at h
        cases h
  | properties p interface => exact (Option.some.inj h).symm

/-- A settled command reaches no remote. -/
theorem perform_of_settles {d : Directory} {c : Directory.Command} {r : Except Error Answer}
    (h : d.Settles c r) : d.perform c = Operation.ofExcept r := by
  rw [d.perform_eq]
  exact (settledBy_iff.mpr h).operation_eq d

/-- A pattern with an open group. -/
example : Directory.perform default (.devices "hci(") =
    Operation.ofExcept (.error (.invalidPattern "hci(")) :=
  perform_of_settles (.pattern (by cbv))

/-- Any other command asks its request once. -/
theorem exists_request {d : Directory} {c : Directory.Command} (h : ∀ r, ¬ d.Settles c r) :
    ∃ (r : Request), (d.deed c).request? d.config.root = some r ∧
      ∀ (σ : Type) (remote : Remote σ) (s : σ),
        (d.perform c).AsksOnce remote s ⟨d.config.service, d.config.timeout, r⟩ c.MayAdd := by
  rcases (d.deed c).operation_cases d with ⟨r, hsettled, -⟩ | ⟨r, use, hrequest, hop, huse⟩
  · exact absurd (settledBy_iff.mp hsettled) (h r)
  · refine ⟨r, hrequest, fun σ remote s => ?_⟩
    rw [d.perform_eq, hop]
    exact Operation.asksOnce_once fun reply e he => mayAdd_of_deed (huse reply e he)

end Directory

/-- No error that a command adds to those of its call means that the caller was wrong. -/
theorem Directory.Command.MayAdd.not_isConfiguration {c : Directory.Command} {e : Error}
    (h : c.MayAdd e) : e.isConfiguration = false := by
  cases h with
  | malformed h text => rfl
  | mistyped h interface name expected found => rfl

/-- **One command is one call at most.** Whatever a remote answers: a command reaches it with no
call exactly if it is settled, and any other command with exactly one, which for a query is the
listing and for a summary the reading of all properties. The error of that call is returned as it
is, and where the call is answered, the command can only add that the listing is malformed or the
property of another kind. So a command that fails by a mistake of the caller has asked nothing,
unless the remote itself said so. -/
theorem Directory.single_call {σ : Type} (remote : Remote σ) (s : σ) (d : Directory)
    (c : Directory.Command) :
    ((d.perform c).callsOn remote s = [] ↔ ∃ r, d.Settles c r) ∧
    (∀ r, d.Settles c r → (d.perform c).runOn remote s = (r, s)) ∧
    ((¬ ∃ r, d.Settles c r) → ∃ call, (d.perform c).AsksOnce remote s call c.MayAdd ∧
      call.service = d.config.service ∧ call.timeout = d.config.timeout ∧
      (c.IsQuery → call = d.listingCall) ∧
      ∀ path interface, c.ReadsAll path interface → call.request = .getAll path interface) ∧
    (∀ e, ((d.perform c).runOn remote s).1 = .error e → e.isConfiguration = true →
      ∀ call ∈ (d.perform c).callsOn remote s, (remote.answer call s).1 = .error e) ∧
    ∀ (α : Type) [Variant.Payload α] (a : PropertyAccess) (interface name : String),
      (a.getAs α interface name).AsksOnce remote s
        ⟨a.service, a.timeout, .get a.path.text interface name⟩
        fun e => ∃ expected found, e = .decode interface name expected found := by
  have hsettled : ∀ r, d.Settles c r → d.perform c = Operation.ofExcept r :=
    fun r h => perform_of_settles h
  refine ⟨?_, ?_, ?_, ?_, ?_⟩
  · constructor
    · intro hcalls
      by_contra hnone
      obtain ⟨r, -, hasks⟩ := exists_request (not_exists.mp hnone)
      rw [(hasks σ remote s).calls] at hcalls
      cases hcalls
    · rintro ⟨r, h⟩
      rw [hsettled r h]
      rfl
  · intro r h
    rw [hsettled r h]
    rfl
  · intro hnone
    obtain ⟨r, hrequest, hasks⟩ := exists_request (not_exists.mp hnone)
    refine ⟨_, hasks σ remote s, rfl, rfl, fun hc => ?_, fun path interface hc => ?_⟩
    · rw [request?_of_isQuery hc hrequest]
      rfl
    · exact request?_of_readsAll hc hrequest
  · intro e he hconf call hcall
    by_cases hnone : ∃ r, d.Settles c r
    · obtain ⟨r, h⟩ := hnone
      rw [hsettled r h] at hcall
      cases hcall
    · obtain ⟨r, -, hasks⟩ := exists_request (not_exists.mp hnone)
      have hop := hasks σ remote s
      rw [hop.calls] at hcall
      obtain rfl := List.mem_singleton.mp hcall
      cases hanswer : (remote.answer ⟨d.config.service, d.config.timeout, r⟩ s).1 with
      | error e' =>
          have heq := (hop.failed e' hanswer).symm.trans he
          rw [Except.error.inj heq]
      | ok reply =>
          have hadd := (hop.answered reply hanswer e he).not_isConfiguration
          rw [hadd] at hconf
          cases hconf
  · intro α _ a interface name
    obtain ⟨d', ha⟩ := a.exists_access
    rw [ha, PropertyAccess.getAs_eq_once]
    exact Operation.asksOnce_once fun value e he => Variant.exists_decode_error he

end BluetoothDirectory
