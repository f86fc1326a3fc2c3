import BluetoothDirectory.Proofs.Conformance
import BluetoothDirectory.Proofs.SnapshotReading
import BluetoothDirectory.Proofs.Summary
import BluetoothDirectory.Proofs.SummaryRecord

/-!
# What summaries keep

A summary keeps all that is declared of its interface. `Snapshot.seen` is what it sees of one
declared property, and two summaries are equal exactly if they are of one object and see the same of
each (`AdapterInfo.ofSnapshot_eq_iff`, `DeviceInfo.ofSnapshot_eq_iff`), whatever else is in the
snapshots. Where the declared properties have their kinds, what is seen is the property itself, but
for a list that is missing, which looks like an empty one.
-/

namespace BluetoothDirectory

/-! ## Declared properties -/

theorem Schema.forall_declared_iff {interface : String} {ds : List Declaration}
    (h : declarations? interface = some ds) {P : String → Declaration → Prop} :
    (∀ name d, Declares interface name d → P name d) ↔ ∀ d ∈ ds, P d.name d := by
  constructor
  · exact fun hall d hd => hall d.name d ⟨ds, h, hd, rfl⟩
  · rintro hall name d ⟨ds', hds', hd, rfl⟩
    obtain rfl : ds = ds' := Option.some.inj (h.symm.trans hds')
    exact hall d hd

namespace Snapshot

/-- Each declared property of an interface is missing or has the declared kind. -/
def Conforms (s : Snapshot) (interface : String) : Prop :=
  ∀ name d, Schema.Declares interface name d → ∀ v, s.get? name = some v → v.kind = d.kind

instance (s : Snapshot) (interface : String) : Decidable (s.Conforms interface) :=
  decidable_of_iff (∀ e ∈ s.entries, Schema.fits interface e.1 e.2.kind = true) <| by
    simp only [Schema.fits_iff, Conforms, SortedMap.get?_eq_some_iff, Prod.forall]
    exact ⟨fun h name d hd v hv => h name v hv d hd, fun h name v hv d hd => h name d hd v hv⟩

/-- Under a name, two snapshots have the same value, or both have none; or the profiles are missing
in one and an empty list in the other. -/
def SameAt (s s' : Snapshot) (name : String) : Prop :=
  s.get? name = s'.get? name ∨
    name = "UUIDs" ∧ (s.get? name = none ∧ s'.get? name = some (.texts []) ∨
      s.get? name = some (.texts []) ∧ s'.get? name = none)

/-- What is observed of an object and a snapshot of an interface of it, up to a sameness, tells the
object and the declared properties, if these have their kinds; and it tells nothing else. -/
structure Tells {β : Type} (observe : ObjectPath → Snapshot → β) (same : β → β → Prop)
    (interface : String) : Prop where
  same_iff : ∀ p p' s s', s.Conforms interface → s'.Conforms interface →
    (same (observe p s) (observe p' s') ↔
      p = p' ∧ ∀ name d, Schema.Declares interface name d → s.SameAt s' name)
  of_declared : ∀ p s s',
    (∀ name d, Schema.Declares interface name d → s.get? name = s'.get? name) →
      same (observe p s) (observe p s')

/-! ## What is seen of a property -/

/-- What a summary sees of a property that is declared with a kind: its value if that has the kind,
and an empty list for the profiles where it sees none. -/
def seen (s : Snapshot) (name : String) (kind : Variant.Kind) : Option Variant :=
  let value := (s.get? name).filter fun v => v.kind = kind
  if name = "UUIDs" then some (value.getD (.texts [])) else value

theorem seen_congr {s s' : Snapshot} {name : String} (h : s.get? name = s'.get? name)
    (kind : Variant.Kind) : s.seen name kind = s'.seen name kind := by
  unfold seen
  rw [h]

/-- Properties of the declared kind look the same exactly if they are. -/
theorem seen_eq_iff {s s' : Snapshot} {name : String} {kind : Variant.Kind}
    (hs : ∀ v, s.get? name = some v → v.kind = kind)
    (hs' : ∀ v, s'.get? name = some v → v.kind = kind) :
    s.seen name kind = s'.seen name kind ↔ s.SameAt s' name := by
  have hvalue {t : Snapshot} (ht : ∀ v, t.get? name = some v → v.kind = kind) :
      ((t.get? name).filter fun v => v.kind = kind) = t.get? name := by
    refine Option.ext fun v => ?_
    rw [Option.filter_eq_some_iff]
    exact ⟨And.left, fun hv => ⟨hv, decide_eq_true (ht v hv)⟩⟩
  unfold seen SameAt
  simp only [hvalue hs, hvalue hs']
  by_cases hname : name = "UUIDs"
  · subst hname
    simp only [if_true, true_and, Option.some.injEq]
    -- a missing list and an empty one look the same
    cases s.get? "UUIDs" <;> cases s'.get? "UUIDs" <;> simp [eq_comm]
  · simp only [hname, if_false, false_and, or_false]

section Reading

variable {α : Type} [Variant.Payload α] {made : α → Variant} {s s' : Snapshot} {name : String}

/-- What is there of a property in the kind of a type is its payload. -/
theorem filter_kind (h : Variant.Payload.CarriedBy made) :
    ((s.get? name).filter fun v => v.kind = Variant.Payload.kind α) =
      (s.getAs? α name).map made := by
  refine Option.ext fun v => ?_
  simp only [Option.filter_eq_some_iff, decide_eq_true_eq, h.kind_iff, Option.map_eq_some_iff,
    getAs?_eq_some_iff h]
  constructor
  · rintro ⟨hget, x, rfl⟩
    exact ⟨x, hget, rfl⟩
  · rintro ⟨x, hget, rfl⟩
    exact ⟨hget, x, rfl⟩

theorem getAs?_eq_iff (h : Variant.Payload.CarriedBy made) (hname : name ≠ "UUIDs") :
    s.getAs? α name = s'.getAs? α name ↔
      s.seen name (Variant.Payload.kind α) = s'.seen name (Variant.Payload.kind α) := by
  simp only [seen, if_neg hname, filter_kind h]
  exact (Option.map_injective h.injective).eq_iff.symm

/-- A class is kept with the number it is made of. -/
theorem class_eq_iff :
    (s.getAs? UInt32 "Class").map DeviceClass.ofRaw =
        (s'.getAs? UInt32 "Class").map DeviceClass.ofRaw ↔
      s.seen "Class" .uint32 = s'.seen "Class" .uint32 :=
  (Option.map_injective DeviceClass.ofRaw_injective).eq_iff.trans
    (getAs?_eq_iff carriedBy_uint32 (by decide))

theorem seen_uuids (s : Snapshot) :
    s.seen "UUIDs" (Variant.Payload.kind (List String)) =
      some (.texts ((s.getAs? (List String) "UUIDs").getD [])) := by
  rw [seen, if_pos rfl, filter_kind carriedBy_texts]
  cases s.getAs? (List String) "UUIDs" <;> rfl

theorem uuids_eq_iff :
    (s.getAs? (List String) "UUIDs").getD [] = (s'.getAs? (List String) "UUIDs").getD [] ↔
      s.seen "UUIDs" (Variant.Payload.kind (List String)) =
        s'.seen "UUIDs" (Variant.Payload.kind (List String)) := by
  rw [seen_uuids, seen_uuids, Option.some.injEq, Variant.texts.injEq]

end Reading

end Snapshot

/-! ## Summaries -/

section Summaries

open Snapshot (getAs?_eq_iff class_eq_iff uuids_eq_iff)

variable {p p' : ObjectPath} {s s' : Snapshot}

/-- Two summaries of adapters are equal exactly if they are of one object and see the same of each
declared property. -/
theorem AdapterInfo.ofSnapshot_eq_iff :
    ofSnapshot p s = ofSnapshot p' s' ↔
      p = p' ∧ ∀ d ∈ Schema.adapter, s.seen d.name d.kind = s'.seen d.name d.kind := by
  unfold ofSnapshot
  simp (disch := decide) only [AdapterInfo.mk.injEq, class_eq_iff, uuids_eq_iff,
    getAs?_eq_iff carriedBy_bool, getAs?_eq_iff carriedBy_text, getAs?_eq_iff carriedBy_uint32,
    Schema.adapter, List.forall_mem_cons, Variant.Payload.kind]
  -- the fields are those of the declarations, in another order
  tauto

/-- Two summaries of devices are equal exactly if they are of one object and see the same of each
declared property. -/
theorem DeviceInfo.ofSnapshot_eq_iff :
    ofSnapshot p s = ofSnapshot p' s' ↔
      p = p' ∧ ∀ d ∈ Schema.device, s.seen d.name d.kind = s'.seen d.name d.kind := by
  unfold ofSnapshot
  simp (disch := decide) only [DeviceInfo.mk.injEq, class_eq_iff, uuids_eq_iff,
    getAs?_eq_iff carriedBy_bool, getAs?_eq_iff carriedBy_text, getAs?_eq_iff carriedBy_int16,
    getAs?_eq_iff carriedBy_uint16, getAs?_eq_iff carriedBy_objectPath, Schema.device,
    List.forall_mem_cons, Variant.Payload.kind]
  -- the fields are those of the declarations, in another order
  tauto

end Summaries

/-- What sees the declared properties and nothing else tells them. -/
theorem Snapshot.Tells.of_seen {α : Type} {summary : ObjectPath → Snapshot → α}
    {interface : String} {ds : List Schema.Declaration}
    (hds : Schema.declarations? interface = some ds)
    (h : ∀ p p' s s', summary p s = summary p' s' ↔
      p = p' ∧ ∀ d ∈ ds, s.seen d.name d.kind = s'.seen d.name d.kind) :
    Tells summary Eq interface where
  same_iff p p' s s' hs hs' := by
    unfold Conforms at hs hs'
    rw [Schema.forall_declared_iff hds] at hs hs' ⊢
    rw [h]
    exact and_congr_right fun _ => forall₂_congr fun d hd => seen_eq_iff (hs d hd) (hs' d hd)
  of_declared p s s' hsame := by
    rw [Schema.forall_declared_iff hds] at hsame
    exact (h p p s s').mpr ⟨rfl, fun d hd => seen_congr (hsame d hd) d.kind⟩

/-- What is made of a summary tells as much, if it can only be the same for the same summaries. -/
theorem Snapshot.Tells.through {α β : Type} {summary : ObjectPath → Snapshot → α}
    {interface : String} (h : Tells summary Eq interface) {make : α → β} {same : β → β → Prop}
    (hmake : ∀ a b, same (make a) (make b) ↔ a = b) :
    Tells (fun p s => make (summary p s)) same interface where
  same_iff p p' s s' hs hs' := (hmake _ _).trans (h.same_iff p p' s s' hs hs')
  of_declared p s s' hsame := (hmake _ _).mpr (h.of_declared p s s' hsame)

/-- Documents that are read back, with edits that no reader sees, are the same up to edits exactly
if they are written of the same. -/
theorem Document.eqvGen_write_iff {α : Type} {write : α → Document} {read : Document → Option α}
    {edit : Document → Document → Prop} (hwrite : ∀ a, read (write a) = some a)
    (hedit : ∀ d d', edit d d' → read d = read d') (a b : α) :
    Relation.EqvGen edit (write a) (write b) ↔ a = b := by
  constructor
  · intro h
    have hread := read_eq_of_edits hedit h
    rw [hwrite, hwrite] at hread
    exact Option.some.inj hread
  · rintro rfl
    exact .refl _

theorem Document.write_eq_iff {α : Type} {write : α → Document} {read : Document → Option α}
    (hwrite : ∀ a, read (write a) = some a) (a b : α) : write a = write b ↔ a = b := by
  constructor
  · intro h
    have hread := hwrite a
    rw [h, hwrite] at hread
    exact (Option.some.inj hread).symm
  · exact congrArg write

/-- **Summaries lose nothing that is declared.** The summary of an adapter or of a device tells its
object and all its declared properties, if each of these is missing or of its kind, where only the
profiles may be missing or empty alike; and it tells nothing of other properties. So does the record
that is written of it, and so do all documents that are that record up to edits. -/
theorem summaries_tell_declared :
    (Snapshot.Tells AdapterInfo.ofSnapshot Eq Interface.adapter ∧
      Snapshot.Tells (fun p s => (AdapterInfo.ofSnapshot p s).document) Eq Interface.adapter ∧
      Snapshot.Tells (fun p s => (AdapterInfo.ofSnapshot p s).document)
        (Relation.EqvGen (Info.Edit AdapterInfo.memberNames)) Interface.adapter) ∧
    (Snapshot.Tells DeviceInfo.ofSnapshot Eq Interface.device ∧
      Snapshot.Tells (fun p s => (DeviceInfo.ofSnapshot p s).document) Eq Interface.device ∧
      Snapshot.Tells (fun p s => (DeviceInfo.ofSnapshot p s).document)
        (Relation.EqvGen (Info.Edit DeviceInfo.memberNames)) Interface.device) := by
  have hadapter : Snapshot.Tells AdapterInfo.ofSnapshot Eq Interface.adapter :=
    .of_seen rfl fun _ _ _ _ => AdapterInfo.ofSnapshot_eq_iff
  have hdevice : Snapshot.Tells DeviceInfo.ofSnapshot Eq Interface.device :=
    .of_seen rfl fun _ _ _ _ => DeviceInfo.ofSnapshot_eq_iff
  refine ⟨⟨hadapter, ?_, ?_⟩, hdevice, ?_, ?_⟩
  · exact hadapter.through (Document.write_eq_iff AdapterInfo.ofDocument?_document)
  · exact hadapter.through (Document.eqvGen_write_iff AdapterInfo.ofDocument?_document
      fun _ _ => AdapterInfo.ofDocument?_edit)
  · exact hdevice.through (Document.write_eq_iff DeviceInfo.ofDocument?_document)
  · exact hdevice.through (Document.eqvGen_write_iff DeviceInfo.ofDocument?_document
      fun _ _ => DeviceInfo.ofDocument?_edit)

/-- The properties of an adapter without profiles. -/
def Snapshot.withoutProfiles : Snapshot :=
  .ofList [("Class", .uint32 0x1C0104), ("Powered", .bool true)]

/-- The same adapter as a service shows it that lists no profiles, and its roles. -/
def Snapshot.withNoProfiles : Snapshot :=
  .ofList [("Powered", .bool true), ("Roles", .texts ["central"]), ("Class", .uint32 0x1C0104),
    ("UUIDs", .texts [])]

theorem withoutProfiles_withNoProfiles :
    Snapshot.withoutProfiles.Conforms Interface.adapter ∧
      Snapshot.withNoProfiles.Conforms Interface.adapter ∧
      AdapterInfo.ofSnapshot .root .withoutProfiles = .ofSnapshot .root .withNoProfiles := by
  have hwithout : Snapshot.withoutProfiles.Conforms Interface.adapter := by decide
  have hwith : Snapshot.withNoProfiles.Conforms Interface.adapter := by decide
  refine ⟨hwithout, hwith, ?_⟩
  refine (summaries_tell_declared.1.1.same_iff _ _ _ _ hwithout hwith).mpr ⟨rfl, ?_⟩
  refine (Schema.forall_declared_iff rfl).mpr ?_
  simp only [Schema.adapter, List.forall_mem_cons, Snapshot.SameAt, Snapshot.withoutProfiles,
    Snapshot.withNoProfiles, SortedMap.get?_ofList]
  simp [SortedMap.lookup_cons_eq]

end BluetoothDirectory
