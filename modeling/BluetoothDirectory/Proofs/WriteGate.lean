import BluetoothDirectory.Adapter
import BluetoothDirectory.Device
import BluetoothDirectory.Proofs.OneCall
import Mathlib.Data.List.Nodup

/-!
# The gate for writes

Which writes go out, and why the others do not. `Schema.Allows` and `Schema.Refuses` say it of the
declarations alone; `checkWrite_eq_ok_iff` and `checkWrite_eq_error_iff` that the check decides
exactly these, and `write_gate_exact` what that means for the calls that reach a remote.
-/

namespace BluetoothDirectory

namespace Schema

/-! ## What the declarations say -/

/-- An interface is described and has a declaration for a property. -/
def Declares (interface property : String) (d : Declaration) : Prop :=
  ∃ ds, declarations? interface = some ds ∧ d ∈ ds ∧ d.name = property

/-- What may be written: anything on an interface that is not described, and on the others a
property that is declared writable, with a value of its kind. -/
def Allows (interface property : String) (kind : Variant.Kind) : Prop :=
  declarations? interface = none ∨
    ∃ d, Declares interface property d ∧ d.access = .readWrite ∧ d.kind = kind

/-- Why a value of a kind may not be written. That a property may only be read comes before its
kind. -/
inductive Refuses (interface property : String) (kind : Variant.Kind) : Error → Prop
  | undeclared (described : declarations? interface ≠ none)
      (missing : ∀ d, ¬ Declares interface property d) :
      Refuses interface property kind (.propertyNotFound interface property)
  | fixed {d : Declaration} (declared : Declares interface property d)
      (access : d.access ≠ .readWrite) :
      Refuses interface property kind (.readOnly interface property)
  | mistyped {d : Declaration} (declared : Declares interface property d)
      (access : d.access = .readWrite) (differs : d.kind ≠ kind) :
      Refuses interface property kind (.typeMismatch interface property d.kind kind)

/-- No interface declares a name twice. -/
theorem nodup_names {interface : String} {ds : List Declaration}
    (h : declarations? interface = some ds) : (ds.map Declaration.name).Nodup := by
  unfold declarations? at h
  split at h
  · cases h
    decide
  · split at h
    · cases h
      decide
    · cases h

theorem Declares.unique {interface property : String} {d d' : Declaration}
    (h : Declares interface property d) (h' : Declares interface property d') : d = d' := by
  obtain ⟨ds, hds, hmem, hname⟩ := h
  obtain ⟨ds', hds', hmem', hname'⟩ := h'
  obtain rfl : ds = ds' := Option.some.inj (hds.symm.trans hds')
  exact List.inj_on_of_nodup_map (nodup_names hds) hmem hmem' (hname.trans hname'.symm)

/-- A described property is of a kind that can be sent. -/
theorem Declares.sendable {interface property : String} {d : Declaration}
    (h : Declares interface property d) : d.kind ≠ .dict ∧ d.kind ≠ .unsupported := by
  have hadapter : ∀ d ∈ adapter, d.kind ≠ .dict ∧ d.kind ≠ .unsupported := by decide
  have hdevice : ∀ d ∈ device, d.kind ≠ .dict ∧ d.kind ≠ .unsupported := by decide
  obtain ⟨ds, hds, hmem, -⟩ := h
  unfold declarations? at hds
  split at hds
  · cases hds
    exact hadapter d hmem
  · split at hds
    · cases hds
      exact hdevice d hmem
    · cases hds

/-- What may be written to a described interface is of a kind that can be sent. -/
theorem Allows.sendable {interface property : String} {kind : Variant.Kind}
    (h : Allows interface property kind) (hdescribed : declarations? interface ≠ none) :
    kind ≠ .dict ∧ kind ≠ .unsupported := by
  rcases h with hnone | ⟨d, hd, -, rfl⟩
  · exact absurd hnone hdescribed
  · exact hd.sendable

/-! ## Looking a property up -/

/-- What a look-up finds is what the declarations say. -/
theorem lookup_cases (interface property : String) :
    (lookup interface property = .unknownInterface ∧ declarations? interface = none) ∨
    (lookup interface property = .undeclared ∧ declarations? interface ≠ none ∧
      ∀ d, ¬ Declares interface property d) ∨
    ∃ d, lookup interface property = .declared d ∧ Declares interface property d := by
  unfold lookup
  cases hds : declarations? interface with
  | none => exact .inl ⟨rfl, rfl⟩
  | some ds =>
      refine .inr ?_
      cases hfind : ds.find? fun d => d.name == property with
      | none =>
          refine .inl ⟨by simp only [hfind], by simp, ?_⟩
          rintro d ⟨ds', hds', hmem, hname⟩
          obtain rfl : ds = ds' := Option.some.inj (hds.symm.trans hds')
          exact List.find?_eq_none.mp hfind d hmem (by simp [hname])
      | some d =>
          refine .inr ⟨d, by simp only [hfind], ds, hds, List.mem_of_find?_eq_some hfind, ?_⟩
          simpa using List.find?_some hfind

theorem lookup_eq_declared_iff {interface property : String} {d : Declaration} :
    lookup interface property = .declared d ↔ Declares interface property d := by
  rcases lookup_cases interface property with ⟨hl, hnone⟩ | ⟨hl, -, hnone⟩ | ⟨d', hl, hd'⟩
  · rw [hl]
    refine ⟨fun h => (by cases h), ?_⟩
    rintro ⟨ds, hds, -⟩
    rw [hnone] at hds
    cases hds
  · rw [hl]
    exact ⟨fun h => (by cases h), fun h => absurd h (hnone d)⟩
  · rw [hl]
    constructor
    · intro h
      cases h
      exact hd'
    · intro h
      rw [h.unique hd']

/-! ## The check -/

/-- The check lets pass exactly what the declarations allow. -/
theorem checkWrite_eq_ok_iff {interface property : String} {value : Variant} :
    checkWrite interface property value = .ok () ↔ Allows interface property value.kind := by
  unfold checkWrite Allows
  rcases lookup_cases interface property with ⟨hl, hnone⟩ | ⟨hl, hsome, hnone⟩ | ⟨d, hl, hd⟩
  · simp only [hl, hnone, true_or]
  · simp only [hl, reduceCtorEq, false_iff, not_or, not_exists, not_and]
    exact ⟨hsome, fun d hd => absurd hd (hnone d)⟩
  · simp only [hl, Declaration.writable]
    have hdescribed : declarations? interface ≠ none := by
      obtain ⟨ds, hds, -⟩ := hd
      simp [hds]
    -- no interface declares a name twice, so it is this declaration that decides
    have honly : (∃ d', Declares interface property d' ∧ d'.access = .readWrite ∧
        d'.kind = value.kind) ↔ d.access = .readWrite ∧ d.kind = value.kind := by
      constructor
      · rintro ⟨d', hd', haccess, hkind⟩
        rw [hd.unique hd']
        exact ⟨haccess, hkind⟩
      · exact fun h => ⟨d, hd, h⟩
    by_cases haccess : d.access = .readWrite <;> by_cases hkind : d.kind = value.kind <;>
      simp [hdescribed, honly, haccess, hkind]

/-- The check refuses a write for exactly the reason that the declarations give. -/
theorem checkWrite_eq_error_iff {interface property : String} {value : Variant} {e : Error} :
    checkWrite interface property value = .error e ↔
      Refuses interface property value.kind e := by
  unfold checkWrite
  rcases lookup_cases interface property with ⟨hl, hnone⟩ | ⟨hl, hsome, hnone⟩ | ⟨d, hl, hd⟩
  · simp only [hl, reduceCtorEq, false_iff]
    rintro (⟨hdescribed, -⟩ | ⟨⟨ds, hds, -⟩, -⟩ | ⟨⟨ds, hds, -⟩, -, -⟩)
    · exact hdescribed hnone
    · simp [hnone] at hds
    · simp [hnone] at hds
  · simp only [hl, Except.error.injEq]
    constructor
    · rintro rfl
      exact .undeclared hsome hnone
    · rintro (_ | ⟨hd, -⟩ | ⟨hd, -, -⟩)
      · rfl
      · exact absurd hd (hnone _)
      · exact absurd hd (hnone _)
  · simp only [hl, Declaration.writable]
    by_cases haccess : d.access = .readWrite
    · by_cases hkind : d.kind = value.kind
      · simp only [haccess, hkind, beq_self_eq_true, Bool.not_true, Bool.false_eq_true,
          if_false, ne_eq, not_true_eq_false, reduceCtorEq, false_iff]
        rintro (⟨-, hmissing⟩ | ⟨hd', hfixed⟩ | ⟨hd', -, hdiffers⟩)
        · exact hmissing d hd
        · exact hfixed (hd.unique hd' ▸ haccess)
        · exact hdiffers (hd.unique hd' ▸ hkind)
      · simp only [haccess, hkind, beq_self_eq_true, Bool.not_true, Bool.false_eq_true,
          if_false, ne_eq, not_false_eq_true, if_true, Except.error.injEq]
        constructor
        · rintro rfl
          exact .mistyped hd haccess hkind
        · rintro (⟨-, hmissing⟩ | ⟨hd', hfixed⟩ | ⟨hd', -, -⟩)
          · exact absurd hd (hmissing d)
          · exact absurd (hd.unique hd' ▸ haccess) hfixed
          · rw [hd.unique hd']
    · have hnot : (d.access == Access.readWrite) = false := by simpa using haccess
      simp only [hnot, Bool.not_false, if_true, Except.error.injEq]
      constructor
      · rintro rfl
        exact .fixed hd haccess
      · rintro (⟨-, hmissing⟩ | ⟨-, -⟩ | ⟨hd', hwritable, -⟩)
        · exact absurd hd (hmissing d)
        · rfl
        · exact absurd (hd.unique hd' ▸ hwritable) haccess

/-- Whatever is not allowed is refused for a reason. -/
theorem exists_refuses {interface property : String} {kind : Variant.Kind}
    (h : ¬ Allows interface property kind) : ∃ e, Refuses interface property kind e := by
  rcases lookup_cases interface property with ⟨-, hnone⟩ | ⟨-, hsome, hnone⟩ | ⟨d, -, hd⟩
  · exact absurd (.inl hnone) h
  · exact ⟨_, .undeclared hsome hnone⟩
  · by_cases haccess : d.access = .readWrite
    · exact ⟨_, .mistyped hd haccess fun hkind => h (.inr ⟨d, hd, haccess, hkind⟩)⟩
    · exact ⟨_, .fixed hd haccess⟩

end Schema

/-! ## What reaches the remote -/

namespace PropertyAccess

variable {α : Type} [Variant.Writable α] {a : PropertyAccess} {interface name : String} {value : α}

/-- The call that writes a property. -/
abbrev setCall (a : PropertyAccess) (interface name : String) (value : Variant) : Call :=
  ⟨a.service, a.timeout, .set a.path.text interface name value⟩

/-- An allowed write is one call, whose outcome is the result. -/
theorem set_of_allows
    (h : Schema.Allows interface name (Variant.Writable.toVariant value).kind) :
    a.set interface name value =
      Operation.once (a.setCall interface name (Variant.Writable.toVariant value)) .ok := by
  unfold PropertyAccess.set
  rw [Operation.ofExcept_bind, Schema.checkWrite_eq_ok_iff.mpr h]
  exact Operation.ask_eq_once _

theorem callsOn_set {σ : Type} (remote : Remote σ) (s : σ)
    (h : Schema.Allows interface name (Variant.Writable.toVariant value).kind) :
    (a.set interface name value).callsOn remote s =
      [a.setCall interface name (Variant.Writable.toVariant value)] := by
  rw [set_of_allows h]
  rfl

theorem runOn_set {σ : Type} (remote : Remote σ) (s : σ)
    (h : Schema.Allows interface name (Variant.Writable.toVariant value).kind) :
    (a.set interface name value).runOn remote s =
      remote.answer (a.setCall interface name (Variant.Writable.toVariant value)) s := by
  rw [set_of_allows h, ← Operation.ask_eq_once]
  rfl

/-- A refused write fails for the reason of the refusal, without a call. -/
theorem set_of_refuses {e : Error}
    (h : Schema.Refuses interface name (Variant.Writable.toVariant value).kind e) :
    a.set interface name value = Operation.ofExcept (.error e) := by
  unfold PropertyAccess.set
  rw [Operation.ofExcept_bind, Schema.checkWrite_eq_error_iff.mpr h]

end PropertyAccess

/-- The typed setters of an adapter, each with the property and the value that it writes. -/
def Adapter.typedSetters (a : Adapter) (name : String) (on : Bool) (seconds : UInt32) :
    List (Operation Unit × String × Variant) :=
  [(a.setAlias name, "Alias", .text name),
   (a.setDiscoverable on, "Discoverable", .bool on),
   (a.setDiscoverableTimeout seconds, "DiscoverableTimeout", .uint32 seconds),
   (a.setPairable on, "Pairable", .bool on),
   (a.setPairableTimeout seconds, "PairableTimeout", .uint32 seconds),
   (a.setPowered on, "Powered", .bool on)]

/-- The typed setters of a device, each with the property and the value that it writes. -/
def Device.typedSetters (d : Device) (name : String) (on : Bool) :
    List (Operation Unit × String × Variant) :=
  [(d.setAlias name, "Alias", .text name),
   (d.setBlocked on, "Blocked", .bool on),
   (d.setTrusted on, "Trusted", .bool on)]

theorem Adapter.typedSetters_allowed {a : Adapter} {name : String} {on : Bool} {seconds : UInt32}
    {e : Operation Unit × String × Variant} (h : e ∈ a.typedSetters name on seconds) :
    e.1 = a.properties.set Interface.adapter e.2.1 e.2.2 ∧
      Schema.Allows Interface.adapter e.2.1 e.2.2.kind := by
  simp only [typedSetters, List.mem_cons, List.not_mem_nil, or_false] at h
  rcases h with rfl | rfl | rfl | rfl | rfl | rfl <;>
    exact ⟨rfl, Schema.checkWrite_eq_ok_iff.mp rfl⟩

theorem Device.typedSetters_allowed {d : Device} {name : String} {on : Bool}
    {e : Operation Unit × String × Variant} (h : e ∈ d.typedSetters name on) :
    e.1 = d.properties.set Interface.device e.2.1 e.2.2 ∧
      Schema.Allows Interface.device e.2.1 e.2.2.kind := by
  simp only [typedSetters, List.mem_cons, List.not_mem_nil, or_false] at h
  rcases h with rfl | rfl | rfl <;> exact ⟨rfl, Schema.checkWrite_eq_ok_iff.mp rfl⟩

/-- **The gate is exact**: on every remote, a write is the one call that carries it, unmodified, if
and only if the declarations allow it, and then its result is what the remote answers; a write
that they do not allow reaches nothing and fails for the reason that they give. Every typed setter
writes its property with its argument and passes. -/
theorem write_gate_exact {σ : Type} (remote : Remote σ) (s : σ) :
    (∀ (α : Type) [Variant.Writable α] (a : PropertyAccess) (interface name : String) (value : α),
      let v := Variant.Writable.toVariant value
      let op := a.set interface name value
      (op.callsOn remote s = [a.setCall interface name v] ↔
        Schema.Allows interface name v.kind) ∧
      (Schema.Allows interface name v.kind →
        op.runOn remote s = remote.answer (a.setCall interface name v) s) ∧
      (¬ Schema.Allows interface name v.kind →
        ∃ e, Schema.Refuses interface name v.kind e) ∧
      (∀ e, Schema.Refuses interface name v.kind e →
        op.callsOn remote s = [] ∧ op.runOn remote s = (.error e, s))) ∧
    (∀ (a : Adapter) (name : String) (on : Bool) (seconds : UInt32),
      ∀ e ∈ a.typedSetters name on seconds,
        e.1.callsOn remote s = [a.properties.setCall Interface.adapter e.2.1 e.2.2]) ∧
    (∀ (d : Device) (name : String) (on : Bool), ∀ e ∈ d.typedSetters name on,
        e.1.callsOn remote s = [d.properties.setCall Interface.device e.2.1 e.2.2]) := by
  refine ⟨?_, ?_, ?_⟩
  · intro α _ a interface name value v op
    have hrefused : ∀ e, Schema.Refuses interface name v.kind e →
        op.callsOn remote s = [] ∧ op.runOn remote s = (.error e, s) := by
      intro e h
      have hop : op = Operation.ofExcept (.error e) := PropertyAccess.set_of_refuses h
      rw [hop]
      exact ⟨rfl, rfl⟩
    refine ⟨⟨fun hcalls => ?_, fun h => ?_⟩, fun h => ?_, Schema.exists_refuses, hrefused⟩
    · -- a refused write would have left the list of calls empty
      by_contra hnot
      obtain ⟨e, he⟩ := Schema.exists_refuses hnot
      rw [(hrefused e he).1] at hcalls
      cases hcalls
    · exact PropertyAccess.callsOn_set remote s h
    · exact PropertyAccess.runOn_set remote s h
  · intro a name on seconds e he
    obtain ⟨hset, hallows⟩ := Adapter.typedSetters_allowed he
    rw [hset]
    exact PropertyAccess.callsOn_set remote s hallows
  · intro d name on e he
    obtain ⟨hset, hallows⟩ := Device.typedSetters_allowed he
    rw [hset]
    exact PropertyAccess.callsOn_set remote s hallows

end BluetoothDirectory
