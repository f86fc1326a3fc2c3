import BluetoothDirectory.Info.Document
import BluetoothDirectory.Proofs.ServiceText
import Mathlib.Logic.Relation

/-!
# Summaries and their records

A summary is written as a record and read back from it. What is written is read back as the same
summary (`AdapterInfo.ofDocument?_document`, `DeviceInfo.ofDocument?_document`), field by field
from the laws of the readers of single values. A record may be given in many ways, and
`Document.Edit` says which of its changes no reader sees: the members that it does look at read
alike before and after (`Edit.sameField`), so the summary is the same, and what is written of it is
the one form in which all these ways end.
-/

namespace BluetoothDirectory

namespace Document

/-! ## Values -/

/-- A way of writing and one of reading that fit together: what is written is read back, and is not
null, which stands for nothing. -/
structure Codes {α : Type} (write : α → Document) (read : Document → Option α) : Prop where
  read_write : ∀ a, read (write a) = some a
  ne_null : ∀ a, write a ≠ null

section Codes

variable {α : Type} {write : α → Document} {read : Document → Option α}

theorem optional?_eq {d : Document} (h : d ≠ null) : optional? read d = (read d).map some := by
  cases d with
  | null => exact absurd rfl h
  | _ => rfl

theorem Codes.required?_eq (h : Codes write read) (a : α) :
    required? read (some (write a)) = some a :=
  h.read_write a

/-- What may be missing is read back as well. -/
theorem Codes.possible?_eq (h : Codes write read) (field : Option α) :
    possible? read (some (ofOptional write field)) = some field := by
  cases field with
  | none => rfl
  | some a =>
      show optional? read (write a) = _
      rw [optional?_eq (h.ne_null a), h.read_write]
      rfl

end Codes

theorem codes_text : Codes text text? := ⟨fun _ => rfl, nofun⟩

theorem codes_bool : Codes bool bool? := ⟨fun _ => rfl, nofun⟩

theorem natBelow?_whole {n bound : Nat} (h : n < bound) : (whole n).natBelow? bound = some n := by
  simp [natBelow?, whole, int?, h]

theorem codes_uint32 : Codes ofUInt32 uint32? where
  read_write n := by
    rw [uint32?, ofUInt32, natBelow?_whole n.toNat_lt_size]
    simp
  ne_null := nofun

theorem codes_uint16 : Codes ofUInt16 uint16? where
  read_write n := by
    rw [uint16?, ofUInt16, natBelow?_whole n.toNat_lt_size]
    simp
  ne_null := nofun

theorem codes_int16 : Codes ofInt16 int16? where
  read_write n := by
    have hrange : -32768 ≤ n.toInt ∧ n.toInt ≤ 32767 := ⟨n.le_toInt, n.toInt_le⟩
    simp [int16?, ofInt16, whole, int?, hrange]
  ne_null := nofun

theorem codes_objectPath : Codes ofObjectPath objectPath? :=
  ⟨fun p => p.ofString?_text, nofun⟩

theorem codes_texts : Codes ofTexts texts? where
  read_write l := by
    have hread : (l.map text).mapM text? = some (l.map id) := mapM_map_eq_some fun _ _ => rfl
    rwa [List.map_id] at hread
  ne_null := nofun

/-! ## Members -/

/-- The value of a member of a record, which is an object or a list of the members' values. -/
def field? (names : List String) (name : String) : Document → Option Document
  | object members => member? members name
  | list items => (names.zip items).lookup name
  | _ => none

/-- Whether a document is a record with members of these names. -/
def isRecord (names : List String) : Document → Bool
  | object _ => true
  | list items => items.length == names.length
  | _ => false

theorem map_lookup_zip {names : List String} (hnames : names.Nodup) {values : List Document}
    (hlength : values.length = names.length) :
    (names.map fun name => (names.zip values).lookup name) = values.map some := by
  induction names generalizing values with
  | nil => simp [List.length_eq_zero_iff.mp hlength]
  | cons name rest ih =>
      cases values with
      | nil => simp at hlength
      | cons value values =>
          obtain ⟨hname, hrest⟩ := List.nodup_cons.mp hnames
          have hlength' : values.length = rest.length := by simpa using hlength
          rw [List.map_cons, List.map_cons, List.zip_cons_cons, List.lookup_cons_self,
            ← ih hrest hlength']
          refine congrArg (List.cons (some value)) (List.map_congr_left fun other hother => ?_)
          rw [SortedMap.lookup_cons_eq, if_neg]
          rintro rfl
          exact hname hother

/-- A record is read by its members, whichever way it is given. -/
theorem fields?_eq {names : List String} (hnames : names.Nodup) (d : Document) :
    d.fields? names =
      if d.isRecord names then some (names.map fun name => d.field? names name) else none := by
  cases d with
  | list items =>
      simp only [fields?, isRecord, beq_iff_eq, field?]
      by_cases hlength : items.length = names.length
      · rw [if_pos hlength, if_pos hlength, map_lookup_zip hnames hlength]
      · rw [if_neg hlength, if_neg hlength]
  | _ => rfl

/-- What is written under the names of the members is found under them. -/
theorem fields?_zip {names : List String} (hnames : names.Nodup) {values : List Document}
    (hlength : values.length = names.length) :
    (object (names.zip values)).fields? names = some (values.map some) := by
  rw [← map_lookup_zip hnames hlength]
  rfl

end Document

/-! ## Writing and reading back -/

open Document

theorem MajorClass.ofDocument?_document (c : MajorClass) : ofDocument? c.document = some c := by
  cases c with
  | other code =>
      show ((whole code.toNat).natBelow? 256).map (fun n => other n.toUInt8) = _
      rw [natBelow?_whole code.toNat_lt_size]
      simp
  | _ => rfl

/-- A class is read from what its four members are read as. -/
theorem DeviceClass.ofDocument?_of_members {d raw major minor : Document} {services : String}
    {n k : Nat} {m : MajorClass} {set : ServiceClasses}
    (hfields : d.fields? memberNames =
      some [some raw, some major, some minor, some (.text services)])
    (hraw : raw.natBelow? UInt32.size = some n) (hmajor : MajorClass.ofDocument? major = some m)
    (hminor : minor.natBelow? 256 = some k)
    (hservices : ServiceClasses.ofText? services = some set) :
    ofDocument? d = some ⟨n.toUInt32, m, k.toUInt8, set⟩ := by
  rw [ofDocument?, hfields]
  simp [hraw, hmajor, hminor, hservices, text?]

theorem DeviceClass.codes : Codes document ofDocument? where
  read_write c := by
    have hraw := natBelow?_whole c.raw.toNat_lt_size
    have hminor := natBelow?_whole c.minor.toNat_lt_size
    rw [ofDocument?_of_members rfl hraw c.major.ofDocument?_document hminor c.services.ofText?_text]
    simp
  ne_null := nofun

theorem AdapterInfo.fields?_document (i : AdapterInfo) :
    i.document.fields? memberNames = some (i.memberValues.map some) :=
  fields?_zip (by decide) rfl

theorem AdapterInfo.ofDocument?_document (i : AdapterInfo) : ofDocument? i.document = some i := by
  rw [ofDocument?, i.fields?_document]
  simp only [memberValues, List.map_cons, List.map_nil, ↓Option.bind_eq_bind, ↓Option.bind_some,
    codes_objectPath.required?_eq, codes_text.possible?_eq, DeviceClass.codes.possible?_eq,
    codes_bool.possible?_eq, codes_uint32.possible?_eq, codes_texts.required?_eq]
  rfl

theorem DeviceInfo.fields?_document (i : DeviceInfo) :
    i.document.fields? memberNames = some (i.memberValues.map some) :=
  fields?_zip (by decide) rfl

theorem DeviceInfo.ofDocument?_document (i : DeviceInfo) : ofDocument? i.document = some i := by
  rw [ofDocument?, i.fields?_document]
  simp only [memberValues, List.map_cons, List.map_nil, ↓Option.bind_eq_bind, ↓Option.bind_some,
    codes_objectPath.required?_eq, codes_objectPath.possible?_eq, codes_text.possible?_eq,
    DeviceClass.codes.possible?_eq, codes_bool.possible?_eq, codes_uint16.possible?_eq,
    codes_int16.possible?_eq, codes_texts.required?_eq]
  rfl

/-! ## Changes of a record that no reader sees -/

namespace Document

/-- A change of a record with members of some names, of which some need not be there, in something
that its reader does not look at. -/
inductive Edit (names possible : List String) (within : String → Document → Document → Prop) :
    Document → Document → Prop
  /-- Another order of the members. -/
  | order {members members' : List (String × Document)} (distinct : (members.map (·.1)).Nodup)
      (same : members.Perm members') :
      Edit names possible within (object members) (object members')
  /-- One more member, of a name that the reader does not know. -/
  | unknown (front back : List (String × Document)) {name : String} (value : Document)
      (foreign : name ∉ names) :
      Edit names possible within (object (front ++ back)) (object (front ++ (name, value) :: back))
  /-- One more member that is null, where it need not be there. -/
  | null (front back : List (String × Document)) {name : String} (spared : name ∈ possible)
      (missing : name ∉ (front ++ back).map (·.1)) :
      Edit names possible within (object (front ++ back)) (object (front ++ (name, .null) :: back))
  /-- Another value of a member, where its own reader does not see the change. -/
  | member (front back : List (String × Document)) {name : String} {value value' : Document}
      (change : within name value value') :
      Edit names possible within (object (front ++ (name, value) :: back))
        (object (front ++ (name, value') :: back))
  /-- The same in a record that is given as a list. -/
  | item (front back : List Document) {name : String} {value value' : Document}
      (place : names[front.length]? = some name) (change : within name value value') :
      Edit names possible within (list (front ++ value :: back)) (list (front ++ value' :: back))

/-- What an edit may do to one member. -/
inductive SameField (possible : Prop) (within : Document → Document → Prop) :
    Option Document → Option Document → Prop
  | refl (field : Option Document) : SameField possible within field field
  | null (spared : possible) : SameField possible within none (some .null)
  | change {value value' : Document} (change : within value value') :
      SameField possible within (some value) (some value')

section Edits

variable {names possible : List String} {within : String → Document → Document → Prop}
  {d d' : Document} {α : Type} {read : Document → Option α}

/-- A changed value is seen under its own name, unless an earlier member has that name. -/
theorem sameField_change {p : Prop} (front back : List (String × Document)) {name : String}
    {value value' : Document} (change : within name value value') (other : String) :
    SameField p (within other) ((front ++ (name, value) :: back).lookup other)
      ((front ++ (name, value') :: back).lookup other) := by
  rw [List.lookup_append, List.lookup_append, SortedMap.lookup_cons_eq, SortedMap.lookup_cons_eq]
  cases front.lookup other with
  | some v => exact .refl _
  | none =>
      by_cases hname : other = name
      · subst hname
        simp only [if_true, Option.none_or]
        exact .change change
      · simp only [hname, if_false]
        exact .refl _

/-- A member that the reader knows is read alike before and after an edit. -/
theorem Edit.sameField (h : Edit names possible within d d') {name : String}
    (hname : name ∈ names) :
    SameField (name ∈ possible) (within name) (d.field? names name) (d'.field? names name) := by
  cases h with
  | order distinct same =>
      simp only [field?, member?, lookup_perm same distinct]
      exact .refl _
  | unknown front back value foreign =>
      have hne := ne_of_mem_of_not_mem hname foreign
      simp only [field?, member?, List.lookup_append, SortedMap.lookup_cons_eq, if_neg hne]
      exact .refl _
  | @null front back other spared missing =>
      simp only [field?, member?]
      by_cases heq : name = other
      · subst heq
        have hnone := lookup_eq_none_iff_notMem.mpr missing
        have hfront : front.lookup name = none :=
          lookup_eq_none_iff_notMem.mpr fun hmem => missing (by simp [hmem])
        rw [hnone, List.lookup_append, hfront, SortedMap.lookup_cons_eq, if_pos rfl]
        exact .null spared
      · simp only [List.lookup_append, SortedMap.lookup_cons_eq, if_neg heq]
        exact .refl _
  | member front back change => exact sameField_change front back change name
  | @item front back place value value' hplace change =>
      obtain ⟨hlt, rfl⟩ := List.getElem?_eq_some_iff.mp hplace
      have hsplit : names = names.take front.length ++ names[front.length] ::
          names.drop (front.length + 1) := by
        rw [← List.drop_eq_getElem_cons hlt, List.take_append_drop]
      have hzip (v : Document) : names.zip (front ++ v :: back) =
          (names.take front.length).zip front ++
            (names[front.length], v) :: (names.drop (front.length + 1)).zip back := by
        conv => lhs; rw [hsplit]
        rw [List.zip_append (by simp; omega), List.zip_cons_cons]
      simp only [field?, hzip]
      exact sameField_change _ _ change name

theorem Edit.isRecord_eq (h : Edit names possible within d d') :
    d.isRecord names = d'.isRecord names := by
  cases h with
  | item front back place change => simp [isRecord]
  | _ => rfl

section SameField

variable {p : Prop} {change : Document → Document → Prop} {field field' : Option Document}

/-- What must be there is read alike. -/
theorem SameField.required?_eq (h : SameField p change field field') (hp : ¬ p)
    (hread : ∀ v v', change v v' → read v = read v') :
    required? read field = required? read field' := by
  cases h with
  | refl => rfl
  | null spared => exact absurd spared hp
  | change hchange => exact hread _ _ hchange

/-- So is what may be missing, whether it is null or not there. -/
theorem SameField.possible?_eq (h : SameField p change field field')
    (hread : ∀ v v', change v v' → optional? read v = optional? read v') :
    possible? read field = possible? read field' := by
  cases h with
  | refl => rfl
  | null => rfl
  | change hchange => exact hread _ _ hchange

theorem SameField.eq (h : SameField p change field field') (hp : ¬ p)
    (hchange : ∀ v v', ¬ change v v') : field = field' := by
  cases h with
  | refl => rfl
  | null spared => exact absurd spared hp
  | change h => exact absurd h (hchange _ _)

end SameField

end Edits

end Document

/-- A change of a record of a class: another order of its members, more members, or its services in
another spelling. -/
def DeviceClass.Edit : Document → Document → Prop :=
  Document.Edit memberNames [] fun name d d' =>
    name = "services" ∧ ∃ s s', ServiceClasses.Respelled s s' ∧ d = .text s ∧ d' = .text s'

theorem DeviceClass.ofDocument?_edit {d d' : Document} (h : DeviceClass.Edit d d') :
    ofDocument? d = ofDocument? d' := by
  have hother {name : String} (hname : name ∈ memberNames) (hne : name ≠ "services") :
      d.field? memberNames name = d'.field? memberNames name :=
    (Document.Edit.sameField h hname).eq List.not_mem_nil fun _ _ hchange => hne hchange.1
  have hservices := Document.Edit.sameField h (show "services" ∈ memberNames by decide)
  rw [ofDocument?, ofDocument?, fields?_eq (by decide), fields?_eq (by decide),
    Document.Edit.isRecord_eq h]
  split
  · have hlist (e : Document) : (memberNames.map fun name => e.field? memberNames name) =
        [e.field? memberNames "raw", e.field? memberNames "major", e.field? memberNames "minor",
          e.field? memberNames "services"] := rfl
    rw [hlist, hlist, hother (by decide) (by decide), hother (by decide) (by decide),
      hother (by decide) (by decide)]
    generalize d.field? memberNames "services" = v at hservices ⊢
    generalize d'.field? memberNames "services" = v' at hservices ⊢
    cases hservices with
    | refl => rfl
    | null spared => cases spared
    | change hchange =>
        obtain ⟨-, s, s', hspelling, rfl, rfl⟩ := hchange
        -- the services are looked at only where the other members are there
        cases d'.field? memberNames "raw" with
        | none => rfl
        | some raw =>
            cases d'.field? memberNames "major" with
            | none => rfl
            | some major =>
                cases d'.field? memberNames "minor" with
                | none => rfl
                | some minor =>
                    simp only [text?, Option.bind_eq_bind, Option.bind_some,
                      hspelling.ofText?_eq]
  · rfl

/-- A change of a record of a summary with members of some names: another order of its members, more
members, null for nothing, or a change of the record of the class. -/
def Info.Edit (names : List String) : Document → Document → Prop :=
  Document.Edit names (names.filter fun name => name ∉ ["path", "uuids"]) fun name d d' =>
    name = "class" ∧ DeviceClass.Edit d d'

/-- The fields of two records of summaries that cannot be told apart: what must be there is read
alike, so is what may be missing, and so is the record of the class. -/
structure Info.Alike (names : List String) (before after : String → Option Document) : Prop where
  required?_eq : ∀ {α : Type} (read : Document → Option α) (name : String), name ∈ names →
    name ∈ ["path", "uuids"] → required? read (before name) = required? read (after name)
  possible?_eq : ∀ {α : Type} (read : Document → Option α) (name : String), name ∈ names →
    name ≠ "class" → possible? read (before name) = possible? read (after name)
  class_eq : "class" ∈ names → possible? DeviceClass.ofDocument? (before "class") =
    possible? DeviceClass.ofDocument? (after "class")

namespace Info.Edit

variable {names : List String} {d d' : Document} {α : Type}

theorem alike (h : Info.Edit names d d') :
    Info.Alike names (d.field? names) (d'.field? names) where
  required?_eq read name hname hrequired := by
    refine (Document.Edit.sameField h hname).required?_eq ?_ ?_
    · intro hmem
      exact of_decide_eq_true (List.mem_filter.mp hmem).2 hrequired
    · rintro v v' ⟨rfl, -⟩
      exact absurd hrequired (by decide)
  possible?_eq read name hname hne :=
    (Document.Edit.sameField h hname).possible?_eq fun _ _ hchange => absurd hchange.1 hne
  class_eq hname := by
    refine (Document.Edit.sameField h hname).possible?_eq ?_
    rintro v v' ⟨-, hchange⟩
    have hnull : v ≠ .null ∧ v' ≠ .null := by
      cases hchange <;> exact ⟨nofun, nofun⟩
    rw [optional?_eq hnull.1, optional?_eq hnull.2, DeviceClass.ofDocument?_edit hchange]

/-- What reads alike fields alike does not see an edit. -/
theorem bind_fields?_eq (h : Info.Edit names d d') (hnames : names.Nodup)
    {read : List (Option Document) → Option α}
    (hread : ∀ before after, Info.Alike names before after →
      read (names.map before) = read (names.map after)) :
    (d.fields? names >>= read) = (d'.fields? names >>= read) := by
  rw [fields?_eq hnames, fields?_eq hnames, Document.Edit.isRecord_eq h]
  split
  · exact hread _ _ h.alike
  · rfl

end Info.Edit

theorem AdapterInfo.ofDocument?_edit {d d' : Document} (h : Info.Edit memberNames d d') :
    ofDocument? d = ofDocument? d' :=
  h.bind_fields?_eq (by decide) fun before after halike => by
    simp (disch := decide) only [memberNames, List.map, halike.required?_eq, halike.possible?_eq,
      halike.class_eq]

theorem DeviceInfo.ofDocument?_edit {d d' : Document} (h : Info.Edit memberNames d d') :
    ofDocument? d = ofDocument? d' :=
  h.bind_fields?_eq (by decide) fun before after halike => by
    simp (disch := decide) only [memberNames, List.map, halike.required?_eq, halike.possible?_eq,
      halike.class_eq]

/-! ## Writing as a normal form -/

/-- What becomes of a document that is read and written again. -/
def Document.rewritten {α : Type} (write : α → Document) (read : Document → Option α)
    (d : Document) : Option Document :=
  (read d).map write

/-- Writing and reading fit together, and writing is a normal form of what can be read. -/
structure Document.Normalises {α : Type} (write : α → Document) (read : Document → Option α)
    (edit : Document → Document → Prop) : Prop where
  /-- What is written is read back. -/
  read_write : ∀ a, read (write a) = some a
  /-- A document says the same when it has been rewritten. -/
  read_rewritten : ∀ d a, read d = some a → ∃ n, rewritten write read d = some n ∧ read n = some a
  /-- What has been rewritten stays as it is. -/
  rewritten_rewritten :
    ∀ d n, rewritten write read d = some n → rewritten write read n = some n
  /-- Edits can no longer be seen. -/
  rewritten_edit :
    ∀ d d', Relation.EqvGen edit d d' → rewritten write read d = rewritten write read d'

/-- What a reader does not see in one edit it does not see in any number of them. -/
theorem Document.read_eq_of_edits {α : Type} {read : Document → Option α}
    {edit : Document → Document → Prop} (hedit : ∀ d d', edit d d' → read d = read d')
    {d d' : Document} (h : Relation.EqvGen edit d d') : read d = read d' :=
  congrArg (Quot.lift read hedit) (Quot.eqvGen_sound h)

/-- It is enough to know the round trip and that no edit is seen. -/
theorem Document.Normalises.of_read {α : Type} {write : α → Document} {read : Document → Option α}
    {edit : Document → Document → Prop} (hwrite : ∀ a, read (write a) = some a)
    (hedit : ∀ d d', edit d d' → read d = read d') : Normalises write read edit where
  read_write := hwrite
  read_rewritten d a h := by
    refine ⟨write a, ?_, hwrite a⟩
    rw [rewritten, h, Option.map_some]
  rewritten_rewritten d n h := by
    obtain ⟨a, -, rfl⟩ := Option.map_eq_some_iff.mp h
    rw [rewritten, hwrite, Option.map_some]
  rewritten_edit d d' h := by
    rw [rewritten, rewritten, read_eq_of_edits hedit h]

/-- **Summaries survive their records.** Every summary of an adapter or of a device, whatever its
fields are, is read back from its record as it was. What any document says of one is kept when it is
read and written again; a second time changes nothing more; and documents that differ in the order
of members, in members that are not known, in null for nothing, or in the spelling of the services,
all become the same. -/
theorem summaries_normalise :
    Document.Normalises AdapterInfo.document AdapterInfo.ofDocument?
      (Info.Edit AdapterInfo.memberNames) ∧
    Document.Normalises DeviceInfo.document DeviceInfo.ofDocument?
      (Info.Edit DeviceInfo.memberNames) :=
  ⟨.of_read AdapterInfo.ofDocument?_document fun _ _ => AdapterInfo.ofDocument?_edit,
    .of_read DeviceInfo.ofDocument?_document fun _ _ => DeviceInfo.ofDocument?_edit⟩

end BluetoothDirectory
