import BluetoothDirectory.Command
import BluetoothDirectory.Proofs.OneCall

/-!
# What commands come to

Every command, whichever proxy it is given to, comes to one of a few deeds: a result at once, or
one listing, reading, writing or method call. `Directory.deed` is the table that says which deed a
command is, and `Directory.perform_eq` that performing the command is doing that deed. Statements
about all commands go through this table and then have one case for each sort of deed.
-/

namespace BluetoothDirectory

/-- One writing of a property: which property of which object, and the value. -/
structure Write where
  path : ObjectPath
  interface : String
  property : String
  value : Variant

/-- What a command comes to. -/
inductive Deed where
  /-- A result without any call. -/
  | settled (result : Except Error Answer)
  /-- One listing of all objects. -/
  | list (use : ObjectTree → Answer)
  /-- One reading of a property, as it is. -/
  | get (path : ObjectPath) (interface name : String)
  /-- One reading of a property as a type. -/
  | read (path : ObjectPath) (type : PropertyType) (interface name : String)
  /-- One reading of all properties of an interface. -/
  | readAll (path : ObjectPath) (interface : String) (use : Snapshot → Answer)
  /-- One writing of a property, if the declared properties allow it. -/
  | write (w : Write)
  /-- One call of a method. -/
  | invoke (path : ObjectPath) (interface member : String) (arguments : List Variant)

namespace Deed

/-- Does a deed with the settings of a directory. -/
def operation (d : Directory) : Deed → Operation Answer
  | settled result => Operation.ofExcept result
  | list use =>
    Operation.once ⟨d.config.service, d.config.timeout, .managedObjects d.config.root⟩
      fun reply => use <$> ObjectTree.ofManagedObjects reply
  | get path interface name =>
    Operation.once ⟨d.config.service, d.config.timeout, .get path.text interface name⟩
      fun value => .ok (.variant value)
  | read path type interface name =>
    Operation.once ⟨d.config.service, d.config.timeout, .get path.text interface name⟩
      fun value => type.readWith fun α _ => Variant.decode α interface name value
  | readAll path interface use =>
    Operation.once ⟨d.config.service, d.config.timeout, .getAll path.text interface⟩
      fun props => .ok (use props)
  | write w =>
    match Schema.checkWrite w.interface w.property w.value with
    | .error e => Operation.ofExcept (.error e)
    | .ok () =>
      Operation.once
        ⟨d.config.service, d.config.timeout, .set w.path.text w.interface w.property w.value⟩
        fun _ => .ok .nothing
  | invoke path interface member arguments =>
    Operation.once
      ⟨d.config.service, d.config.timeout, .method path.text interface member arguments⟩
      fun _ => .ok .nothing

/-- The writing that a deed is, if it is one. -/
def write? : Deed → Option Write
  | write w => some w
  | _ => none

end Deed

/-! ## The table of commands -/

/-- What a command to an adapter comes to. -/
def Adapter.deed (a : Adapter) : Adapter.Command → Deed
  | .path => .settled (.ok (.path a.path))
  | .description => .settled (.ok (.text a.description))
  | .address => .read a.path .text Interface.adapter "Address"
  | .aliasName => .read a.path .text Interface.adapter "Alias"
  | .rawClass => .read a.path .uint32 Interface.adapter "Class"
  | .discoverable => .read a.path .bool Interface.adapter "Discoverable"
  | .discoverableTimeout => .read a.path .uint32 Interface.adapter "DiscoverableTimeout"
  | .discovering => .read a.path .bool Interface.adapter "Discovering"
  | .modalias => .read a.path .text Interface.adapter "Modalias"
  | .name => .read a.path .text Interface.adapter "Name"
  | .pairable => .read a.path .bool Interface.adapter "Pairable"
  | .pairableTimeout => .read a.path .uint32 Interface.adapter "PairableTimeout"
  | .powered => .read a.path .bool Interface.adapter "Powered"
  | .uuids => .read a.path .texts Interface.adapter "UUIDs"
  | .setAlias name => .write ⟨a.path, Interface.adapter, "Alias", .text name⟩
  | .setDiscoverable on => .write ⟨a.path, Interface.adapter, "Discoverable", .bool on⟩
  | .setDiscoverableTimeout seconds =>
    .write ⟨a.path, Interface.adapter, "DiscoverableTimeout", .uint32 seconds⟩
  | .setPairable on => .write ⟨a.path, Interface.adapter, "Pairable", .bool on⟩
  | .setPairableTimeout seconds =>
    .write ⟨a.path, Interface.adapter, "PairableTimeout", .uint32 seconds⟩
  | .setPowered on => .write ⟨a.path, Interface.adapter, "Powered", .bool on⟩
  | .setProperty name value => .write ⟨a.path, Interface.adapter, name, value⟩
  | .allProperties => .readAll a.path Interface.adapter .snapshot
  | .info =>
    .readAll a.path Interface.adapter fun s => .adapterInfo (AdapterInfo.ofSnapshot a.path s)
  | .removeDevice device =>
    .invoke a.path Interface.adapter "RemoveDevice" [.objectPath device]
  | .startDiscovery => .invoke a.path Interface.adapter "StartDiscovery" []
  | .stopDiscovery => .invoke a.path Interface.adapter "StopDiscovery" []

/-- What a command to a device with a profile comes to; the profile has to be readable. -/
def Device.profileDeed (v : Device) (member uuid : String) : Deed :=
  match Device.profile uuid with
  | .ok u => .invoke v.path Interface.device member [.text u]
  | .error e => .settled (.error e)

/-- What a command to a device comes to. -/
def Device.deed (v : Device) : Device.Command → Deed
  | .path => .settled (.ok (.path v.path))
  | .description => .settled (.ok (.text v.description))
  | .adapter => .read v.path .objectPath Interface.device "Adapter"
  | .address => .read v.path .text Interface.device "Address"
  | .aliasName => .read v.path .text Interface.device "Alias"
  | .appearance => .read v.path .uint16 Interface.device "Appearance"
  | .blocked => .read v.path .bool Interface.device "Blocked"
  | .rawClass => .read v.path .uint32 Interface.device "Class"
  | .connected => .read v.path .bool Interface.device "Connected"
  | .icon => .read v.path .text Interface.device "Icon"
  | .legacyPairing => .read v.path .bool Interface.device "LegacyPairing"
  | .modalias => .read v.path .text Interface.device "Modalias"
  | .name => .read v.path .text Interface.device "Name"
  | .paired => .read v.path .bool Interface.device "Paired"
  | .rssi => .read v.path .int16 Interface.device "RSSI"
  | .trusted => .read v.path .bool Interface.device "Trusted"
  | .uuids => .read v.path .texts Interface.device "UUIDs"
  | .setAlias name => .write ⟨v.path, Interface.device, "Alias", .text name⟩
  | .setBlocked on => .write ⟨v.path, Interface.device, "Blocked", .bool on⟩
  | .setTrusted on => .write ⟨v.path, Interface.device, "Trusted", .bool on⟩
  | .setProperty name value => .write ⟨v.path, Interface.device, name, value⟩
  | .allProperties => .readAll v.path Interface.device .snapshot
  | .info =>
    .readAll v.path Interface.device fun s => .deviceInfo (DeviceInfo.ofSnapshot v.path s)
  | .cancelPairing => .invoke v.path Interface.device "CancelPairing" []
  | .connect => .invoke v.path Interface.device "Connect" []
  | .connectProfile uuid => v.profileDeed "ConnectProfile" uuid
  | .disconnect => .invoke v.path Interface.device "Disconnect" []
  | .disconnectProfile uuid => v.profileDeed "DisconnectProfile" uuid
  | .pair => .invoke v.path Interface.device "Pair" []

/-- What a command to the properties of an object comes to. -/
def PropertyAccess.deed (a : PropertyAccess) : PropertyAccess.Command → Deed
  | .get interface name => .get a.path interface name
  | .getAs type interface name => .read a.path type interface name
  | .getAll interface => .readAll a.path interface .snapshot
  | .set interface name value => .write ⟨a.path, interface, name, value⟩

/-- What a command to a directory comes to. -/
def Directory.deed (d : Directory) : Directory.Command → Deed
  | .managedObjects => .list .tree
  | .findAdapter pattern =>
    .list fun t => .foundAdapter ((t.findAdapter? pattern).map fun o => ⟨d.access o.path⟩)
  | .adapters => .list fun t => .adapters (t.adapterPaths.map fun p => ⟨d.access p⟩)
  | .devices pattern =>
    match Directory.compilePattern pattern with
    | .ok p => .list fun t => .devices ((t.devicePaths p.isMatch).map fun q => ⟨d.access q⟩)
    | .error e => .settled (.error e)
  | .adapter path command =>
    match d.adapter path with
    | .ok a => a.deed command
    | .error e => .settled (.error e)
  | .device path command =>
    match d.device path with
    | .ok v => v.deed command
    | .error e => .settled (.error e)
  | .properties path command => (d.access path).deed command

/-! ## Performing a command is doing its deed -/

namespace PropertyAccess

variable (d : Directory) (p : ObjectPath) (interface name : String)

theorem get_eq_once :
    (d.access p).get interface name =
      Operation.once ⟨d.config.service, d.config.timeout, .get p.text interface name⟩ .ok :=
  Operation.ask_eq_once _

theorem getAll_eq_once :
    (d.access p).getAll interface =
      Operation.once ⟨d.config.service, d.config.timeout, .getAll p.text interface⟩ .ok :=
  Operation.ask_eq_once _

theorem invoke_eq_once (arguments : List Variant) :
    (d.access p).invoke interface name arguments =
      Operation.once ⟨d.config.service, d.config.timeout, .method p.text interface name arguments⟩
        .ok :=
  Operation.ask_eq_once _

theorem getAs_eq_once (α : Type) [Variant.Payload α] :
    (d.access p).getAs α interface name =
      Operation.once ⟨d.config.service, d.config.timeout, .get p.text interface name⟩
        fun value => Variant.decode α interface name value := by
  unfold PropertyAccess.getAs
  rw [get_eq_once, Operation.once_bind_ofExcept]
  rfl

theorem readWith_eq (type : PropertyType) :
    type.readWith (m := Operation) (fun α _ => (d.access p).getAs α interface name) =
      (Deed.read p type interface name).operation d := by
  cases type <;> simp only [PropertyType.readWith, getAs_eq_once, Operation.map_once] <;> rfl

theorem get_eq :
    (Answer.variant <$> (d.access p).get interface name : Operation Answer) =
      (Deed.get p interface name).operation d := by
  rw [get_eq_once, Operation.map_once]
  rfl

theorem getAll_eq (use : Snapshot → Answer) :
    (use <$> (d.access p).getAll interface : Operation Answer) =
      (Deed.readAll p interface use).operation d := by
  rw [getAll_eq_once, Operation.map_once]
  rfl

/-- A summary is made of one reading of all properties. -/
theorem summary_eq {α : Type} (summary : Snapshot → α) (answer : α → Answer) :
    (answer <$> (do let s ← (d.access p).getAll interface; return summary s) : Operation Answer) =
      (Deed.readAll p interface fun s => answer (summary s)).operation d := by
  rw [getAll_eq_once]
  refine (congrArg (answer <$> ·)
    (Operation.once_bind_ofExcept _ _ fun s => .ok (summary s))).trans ?_
  rw [Operation.map_once]
  rfl

theorem set_eq {α : Type} [Variant.Writable α] (value : α) :
    (Answer.ofUnit <$> (d.access p).set interface name value : Operation Answer) =
      (Deed.write ⟨p, interface, name, Variant.Writable.toVariant value⟩).operation d := by
  unfold PropertyAccess.set
  simp only [Operation.ofExcept_bind, Deed.operation]
  cases Schema.checkWrite interface name (Variant.Writable.toVariant value) with
  | error e => exact Operation.map_ofExcept _ _
  | ok u =>
      simp only [PropertyAccess.ask, Operation.ask_eq_once, Operation.map_once]
      rfl

theorem invoke_eq (arguments : List Variant) :
    (Answer.ofUnit <$> (do let _ ← (d.access p).invoke interface name arguments) :
      Operation Answer) = (Deed.invoke p interface name arguments).operation d := by
  rw [invoke_eq_once]
  show Answer.ofUnit <$> (Operation.once _ .ok >>= fun _ => Operation.ofExcept (.ok ())) = _
  rw [Operation.once_bind_ofExcept, Operation.map_once]
  rfl

/-- Performing a command to the properties of an object is doing its deed. -/
theorem perform_eq (c : PropertyAccess.Command) :
    (d.access p).perform c = ((d.access p).deed c).operation d := by
  cases c with
  | get interface name => exact get_eq d p interface name
  | getAs type interface name => exact readWith_eq d p interface name type
  | getAll interface => exact getAll_eq d p interface _
  | set interface name value => exact set_eq d p interface name value

end PropertyAccess

/-- Performing a command to an adapter is doing its deed. -/
theorem Adapter.perform_eq (d : Directory) (p : ObjectPath) (c : Adapter.Command) :
    Adapter.perform ⟨d.access p⟩ c = (Adapter.deed ⟨d.access p⟩ c).operation d := by
  cases c
  case path | description => rfl
  case allProperties => exact PropertyAccess.getAll_eq d p _ _
  case info => exact PropertyAccess.summary_eq d p _ (AdapterInfo.ofSnapshot p) _
  case removeDevice | startDiscovery | stopDiscovery =>
    exact PropertyAccess.invoke_eq d p _ _ _
  case setAlias | setDiscoverable | setDiscoverableTimeout | setPairable |
      setPairableTimeout | setPowered | setProperty =>
    exact PropertyAccess.set_eq d p _ _ _
  case discoverable | discovering | pairable | powered =>
    exact PropertyAccess.readWith_eq d p _ _ .bool
  case rawClass | discoverableTimeout | pairableTimeout =>
    exact PropertyAccess.readWith_eq d p _ _ .uint32
  case address | aliasName | modalias | name =>
    exact PropertyAccess.readWith_eq d p _ _ .text
  case uuids => exact PropertyAccess.readWith_eq d p _ _ .texts

/-- Connecting and disconnecting a profile is doing its deed. -/
theorem Device.profile_eq (d : Directory) (p : ObjectPath) (member uuid : String) :
    (Answer.ofUnit <$> do
      let u ← Operation.ofExcept (Device.profile uuid)
      Device.act ⟨d.access p⟩ member [.text u]) =
      (Device.profileDeed ⟨d.access p⟩ member uuid).operation d := by
  rw [Operation.ofExcept_bind]
  simp only [Device.profileDeed]
  cases Device.profile uuid with
  | error e => exact Operation.map_ofExcept _ _
  | ok u => exact PropertyAccess.invoke_eq d p _ _ _

/-- Performing a command to a device is doing its deed. -/
theorem Device.perform_eq (d : Directory) (p : ObjectPath) (c : Device.Command) :
    Device.perform ⟨d.access p⟩ c = (Device.deed ⟨d.access p⟩ c).operation d := by
  cases c
  case path | description => rfl
  case allProperties => exact PropertyAccess.getAll_eq d p _ _
  case info => exact PropertyAccess.summary_eq d p _ (DeviceInfo.ofSnapshot p) _
  case cancelPairing | connect | disconnect | pair => exact PropertyAccess.invoke_eq d p _ _ _
  case connectProfile | disconnectProfile => exact Device.profile_eq d p _ _
  case setAlias | setBlocked | setTrusted | setProperty =>
    exact PropertyAccess.set_eq d p _ _ _
  case adapter => exact PropertyAccess.readWith_eq d p _ _ .objectPath
  case blocked | connected | legacyPairing | paired | trusted =>
    exact PropertyAccess.readWith_eq d p _ _ .bool
  case appearance => exact PropertyAccess.readWith_eq d p _ _ .uint16
  case rawClass => exact PropertyAccess.readWith_eq d p _ _ .uint32
  case rssi => exact PropertyAccess.readWith_eq d p _ _ .int16
  case address | aliasName | icon | modalias | name =>
    exact PropertyAccess.readWith_eq d p _ _ .text
  case uuids => exact PropertyAccess.readWith_eq d p _ _ .texts

theorem ObjectTree.fetch_eq_once (service root : String) (timeout : Option Duration) :
    ObjectTree.fetch service root timeout =
      Operation.once ⟨service, timeout, .managedObjects root⟩
        fun reply => ObjectTree.ofManagedObjects reply := by
  unfold ObjectTree.fetch
  rw [Operation.ask_eq_once, Operation.once_bind_ofExcept]
  rfl

theorem Directory.managedObjects_eq_once (d : Directory) :
    d.managedObjects =
      Operation.once ⟨d.config.service, d.config.timeout, .managedObjects d.config.root⟩
        fun reply => ObjectTree.ofManagedObjects reply :=
  ObjectTree.fetch_eq_once d.config.service d.config.root d.config.timeout

/-- A query is one listing of all objects. -/
theorem Directory.query_eq (d : Directory) {α : Type} (query : ObjectTree → α)
    (answer : α → Answer) :
    (answer <$> (do let t ← d.managedObjects; return query t) : Operation Answer) =
      (Deed.list fun t => answer (query t)).operation d := by
  rw [d.managedObjects_eq_once]
  show answer <$> (Operation.once _ _ >>= fun t => Operation.ofExcept (.ok (query t))) = _
  rw [Operation.once_bind_ofExcept, Operation.map_once]
  refine congrArg (Operation.once _) (funext fun reply => ?_)
  cases ObjectTree.ofManagedObjects reply <;> rfl

/-- The proxy for an adapter is bound to a path with the directory's settings. -/
theorem Directory.adapter_eq_ok {d : Directory} {path : String} {a : Adapter}
    (h : d.adapter path = .ok a) : ∃ p : ObjectPath, p.text = path ∧ a = ⟨d.access p⟩ := by
  unfold Directory.adapter Directory.readPath at h
  cases hp : ObjectPath.ofString? path with
  | none => simp [hp, bind, Except.bind] at h
  | some p =>
      simp only [hp, bind, Except.bind, pure, Except.pure, Except.ok.injEq] at h
      exact ⟨p, ObjectPath.text_of_ofString? hp, h.symm⟩

/-- The proxy for a device is bound to a path with the directory's settings. -/
theorem Directory.device_eq_ok {d : Directory} {path : String} {v : Device}
    (h : d.device path = .ok v) : ∃ p : ObjectPath, p.text = path ∧ v = ⟨d.access p⟩ := by
  unfold Directory.device Directory.readPath at h
  cases hp : ObjectPath.ofString? path with
  | none => simp [hp, bind, Except.bind] at h
  | some p =>
      simp only [hp, bind, Except.bind, pure, Except.pure, Except.ok.injEq] at h
      exact ⟨p, ObjectPath.text_of_ofString? hp, h.symm⟩

/-- Any proxy is one that a directory binds. -/
theorem PropertyAccess.exists_access (a : PropertyAccess) :
    ∃ d : Directory, a = d.access a.path :=
  ⟨⟨a.bus, { service := a.service, timeout := a.timeout }⟩, rfl⟩

theorem Adapter.exists_access (a : Adapter) : ∃ (d : Directory) (p : ObjectPath),
    a = ⟨d.access p⟩ := by
  obtain ⟨d, h⟩ := a.properties.exists_access
  exact ⟨d, a.path, congrArg Adapter.mk h⟩

theorem Device.exists_access (v : Device) : ∃ (d : Directory) (p : ObjectPath),
    v = ⟨d.access p⟩ := by
  obtain ⟨d, h⟩ := v.properties.exists_access
  exact ⟨d, v.path, congrArg Device.mk h⟩

/-- **Performing a command is doing its deed.** -/
theorem Directory.perform_eq (d : Directory) (c : Directory.Command) :
    d.perform c = (d.deed c).operation d := by
  cases c with
  | managedObjects =>
      show Answer.tree <$> d.managedObjects = _
      rw [d.managedObjects_eq_once, Operation.map_once]
      rfl
  | findAdapter pattern => exact d.query_eq _ _
  | adapters => exact d.query_eq _ _
  | devices pattern =>
      show Answer.devices <$> (Operation.ofExcept (Directory.compilePattern pattern) >>= _) = _
      rw [Operation.ofExcept_bind]
      simp only [Directory.deed]
      cases Directory.compilePattern pattern with
      | error e => exact Operation.map_ofExcept _ _
      | ok p => exact d.query_eq _ _
  | adapter path command =>
      show (Operation.ofExcept (d.adapter path) >>= _) = _
      rw [Operation.ofExcept_bind]
      simp only [Directory.deed]
      cases ha : d.adapter path with
      | error e => rfl
      | ok a =>
          obtain ⟨p, -, rfl⟩ := Directory.adapter_eq_ok ha
          exact Adapter.perform_eq d p command
  | device path command =>
      show (Operation.ofExcept (d.device path) >>= _) = _
      rw [Operation.ofExcept_bind]
      simp only [Directory.deed]
      cases hv : d.device path with
      | error e => rfl
      | ok v =>
          obtain ⟨p, -, rfl⟩ := Directory.device_eq_ok hv
          exact Device.perform_eq d p command
  | properties path command => exact PropertyAccess.perform_eq d path command

/-! ## Getters and summaries -/

/-- Whether a command to an adapter is a getter. -/
def Adapter.Command.isGetter : Adapter.Command → Bool
  | .address | .aliasName | .rawClass | .discoverable | .discoverableTimeout | .discovering
  | .modalias | .name | .pairable | .pairableTimeout | .powered | .uuids => true
  | _ => false

/-- Whether a command to an adapter reads all of its properties. -/
def Adapter.Command.readsAll : Adapter.Command → Bool
  | .allProperties | .info => true
  | _ => false

/-- Whether a command to a device is a getter. -/
def Device.Command.isGetter : Device.Command → Bool
  | .adapter | .address | .aliasName | .appearance | .blocked | .rawClass | .connected | .icon
  | .legacyPairing | .modalias | .name | .paired | .rssi | .trusted | .uuids => true
  | _ => false

/-- Whether a command to a device reads all of its properties. -/
def Device.Command.readsAll : Device.Command → Bool
  | .allProperties | .info => true
  | _ => false

theorem Adapter.deed_of_isGetter (a : Adapter) {c : Adapter.Command} (h : c.isGetter = true) :
    ∃ type name, a.deed c = .read a.path type Interface.adapter name := by
  cases c
  case address | aliasName | rawClass | discoverable | discoverableTimeout | discovering | modalias
      | name | pairable | pairableTimeout | powered | uuids =>
    exact ⟨_, _, rfl⟩
  all_goals cases h

theorem Adapter.isGetter_of_deed {a : Adapter} {c : Adapter.Command} {path : ObjectPath}
    {type : PropertyType} {interface name : String}
    (h : a.deed c = .read path type interface name) : c.isGetter = true := by
  cases c
  case address | aliasName | rawClass | discoverable | discoverableTimeout | discovering | modalias
      | name | pairable | pairableTimeout | powered | uuids =>
    rfl
  all_goals cases h

theorem Adapter.deed_of_readsAll (a : Adapter) {c : Adapter.Command} (h : c.readsAll = true) :
    ∃ use, a.deed c = .readAll a.path Interface.adapter use := by
  cases c
  case allProperties | info => exact ⟨_, rfl⟩
  all_goals cases h

/-- A command with a profile is an action, or is refused. -/
theorem Device.profileDeed_cases (v : Device) (member uuid : String) :
    (∃ u, Uuid.ofString? uuid = some u ∧
        v.profileDeed member uuid = .invoke v.path Interface.device member [.text u.text]) ∨
      Uuid.ofString? uuid = none ∧
        v.profileDeed member uuid = .settled (.error (.invalidUuid uuid)) := by
  unfold profileDeed profile
  cases Uuid.ofString? uuid with
  | some u => exact .inl ⟨u, rfl, rfl⟩
  | none => exact .inr ⟨rfl, rfl⟩

theorem Device.deed_of_isGetter (v : Device) {c : Device.Command} (h : c.isGetter = true) :
    ∃ type name, v.deed c = .read v.path type Interface.device name := by
  cases c
  case adapter | address | aliasName | appearance | blocked | rawClass | connected | icon
      | legacyPairing | modalias | name | paired | rssi | trusted | uuids =>
    exact ⟨_, _, rfl⟩
  all_goals cases h

theorem Device.isGetter_of_deed {v : Device} {c : Device.Command} {path : ObjectPath}
    {type : PropertyType} {interface name : String}
    (h : v.deed c = .read path type interface name) : c.isGetter = true := by
  cases c
  case adapter | address | aliasName | appearance | blocked | rawClass | connected | icon
      | legacyPairing | modalias | name | paired | rssi | trusted | uuids =>
    rfl
  case connectProfile uuid | disconnectProfile uuid =>
    rcases v.profileDeed_cases _ uuid with ⟨u, -, hdeed⟩ | ⟨-, hdeed⟩ <;>
      cases hdeed.symm.trans h
  all_goals cases h

theorem Device.deed_of_readsAll (v : Device) {c : Device.Command} (h : c.readsAll = true) :
    ∃ use, v.deed c = .readAll v.path Interface.device use := by
  cases c
  case allProperties | info => exact ⟨_, rfl⟩
  all_goals cases h

end BluetoothDirectory
