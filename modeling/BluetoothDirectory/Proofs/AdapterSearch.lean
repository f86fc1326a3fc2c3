import BluetoothDirectory.Proofs.Irrelevance
import BluetoothDirectory.Proofs.QueriesAndGetters
import BluetoothDirectory.Proofs.SnapshotReading

/-!
# The search for an adapter

A search runs through the objects of a tree and stops at the first that is sought. Which objects
are sought is said without small letters and without the search itself: characters are compared one
by one (`Text.SameLetter`), and a pattern occurs where some run of a text matches it
(`Text.Occurs`). A pattern that occurs in another seeks every object that the other one seeks
(`RemoteObject.Sought.of_infix`), so that the search for it ends no later.
-/

namespace BluetoothDirectory

namespace Text

/-! ## Letters without case -/

/-- Two characters that are the same, or that are one letter of the ASCII alphabet as a capital and
as a small letter. -/
def SameLetter (a b : Char) : Prop :=
  a = b ∨ ∃ k < 26, (a.toNat = 65 + k ∧ b.toNat = 97 + k) ∨ (a.toNat = 97 + k ∧ b.toNat = 65 + k)

theorem toNat_toLower (c : Char) :
    c.toLower.toNat = if 65 ≤ c.toNat ∧ c.toNat ≤ 90 then c.toNat + 32 else c.toNat := by
  have hcapital : (c.val ≥ 'A'.val ∧ c.val ≤ 'Z'.val) ↔ (65 ≤ c.toNat ∧ c.toNat ≤ 90) := Iff.rfl
  unfold Char.toLower
  by_cases h : 65 ≤ c.toNat ∧ c.toNat ≤ 90
  · rw [if_pos h, dif_pos (hcapital.mpr h)]
    show (c.val + 32).toNat = c.val.toNat + 32
    have hlow : c.val.toNat ≤ 90 := h.2
    rw [UInt32.toNat_add]
    exact Nat.mod_eq_of_lt (by simp; omega)
  · rw [if_neg h, dif_neg (fun hc => h (hcapital.mp hc))]

theorem toLower_eq_iff {a b : Char} : a.toLower = b.toLower ↔ SameLetter a b := by
  rw [SameLetter, ← Char.toNat_inj, ← Char.toNat_inj, toNat_toLower, toNat_toLower]
  constructor
  · intro h
    by_cases heq : a.toNat = b.toNat
    · exact .inl heq
    · -- one of the two was folded, which tells the letter
      right
      split at h
      · exact ⟨a.toNat - 65, by omega, .inl (by split at h <;> omega)⟩
      · exact ⟨b.toNat - 65, by split at h <;> omega, .inr (by split at h <;> omega)⟩
  · rintro (heq | ⟨k, hk, ⟨ha, hb⟩ | ⟨ha, hb⟩⟩)
    · rw [heq]
    · rw [if_pos (by omega), if_neg (by omega)]
      omega
    · rw [if_neg (by omega), if_pos (by omega)]
      omega

theorem map_toLower_eq_iff {l m : List Char} :
    l.map Char.toLower = m.map Char.toLower ↔ List.Forall₂ SameLetter l m := by
  rw [← List.forall₂_eq_eq_eq, List.forall₂_map_left_iff, List.forall₂_map_right_iff]
  simp only [toLower_eq_iff]

/-- Some run of characters of a text is the pattern, but for the case of letters. -/
def Occurs (pattern text : String) : Prop :=
  ∃ front run back, text.toList = front ++ run ++ back ∧
    List.Forall₂ SameLetter pattern.toList run

theorem occurs_iff {pattern text : String} :
    Occurs pattern text ↔ lowercase pattern <:+: lowercase text := by
  constructor
  · rintro ⟨front, run, back, hsplit, hrun⟩
    refine ⟨front.map Char.toLower, back.map Char.toLower, ?_⟩
    rw [lowercase, lowercase, map_toLower_eq_iff.mpr hrun, hsplit, List.map_append,
      List.map_append]
  · rintro ⟨front, back, hsplit⟩
    obtain ⟨early, last, htext, hearly, -⟩ := List.map_eq_append_iff.mp hsplit.symm
    obtain ⟨before, run, rfl, -, hrun⟩ := List.map_eq_append_iff.mp hearly
    exact ⟨before, run, last, htext, map_toLower_eq_iff.mp hrun.symm⟩

end Text

/-! ## What is sought -/

namespace RemoteObject

variable {o : RemoteObject}

/-- An object with a text as its name or its address as an adapter, in which a pattern occurs. -/
def Bears (o : RemoteObject) (pattern : String) : Prop :=
  ∃ props name text, (Interface.adapter, props) ∈ o.interfaces ∧ name ∈ ["Name", "Address"] ∧
    props.get? name = some (.text text) ∧ Text.Occurs pattern text

/-- An adapter, which bears the pattern unless that is missing or empty. -/
def Sought (o : RemoteObject) (pattern : Option String) : Prop :=
  Interface.adapter ∈ o.interfaceNames ∧
    (pattern.getD "" = "" ∨ o.Bears (pattern.getD ""))

theorem isAdapterNamed_iff {pattern : String} :
    o.isAdapterNamed pattern = true ↔ o.Bears pattern := by
  have hcontains (name : String) : o.adapterTextContains name pattern = true ↔
      ∃ props text, (Interface.adapter, props) ∈ o.interfaces ∧
        props.get? name = some (.text text) ∧ Text.Occurs pattern text := by
    simp only [adapterTextContains_iff, Option.bind_eq_some_iff, properties?_eq_some_iff,
      Snapshot.getAs?_eq_some_iff carriedBy_text, Text.occurs_iff]
    constructor
    · rintro ⟨text, ⟨props, hprops, hget⟩, hoccurs⟩
      exact ⟨props, text, hprops, hget, hoccurs⟩
    · rintro ⟨props, text, hprops, hget, hoccurs⟩
      exact ⟨text, ⟨props, hprops, hget⟩, hoccurs⟩
  rw [isAdapterNamed, Bool.or_eq_true, hcontains, hcontains]
  constructor
  · rintro (⟨props, text, h⟩ | ⟨props, text, h⟩)
    · exact ⟨props, "Name", text, h.1, by simp, h.2⟩
    · exact ⟨props, "Address", text, h.1, by simp, h.2⟩
  · rintro ⟨props, name, text, hprops, hname, h⟩
    simp only [List.mem_cons, List.not_mem_nil, or_false] at hname
    rcases hname with rfl | rfl
    · exact .inl ⟨props, text, hprops, h⟩
    · exact .inr ⟨props, text, hprops, h⟩

theorem isSought_iff {pattern : Option String} :
    o.isSought pattern = true ↔ o.Sought pattern := by
  rw [isSought, Bool.and_eq_true, hasInterface_iff, Sought]
  cases pattern with
  | none => simp
  | some needle => simp [isAdapterNamed_iff]

/-- A pattern that occurs in another, letters being compared without case, seeks every object that
the other one seeks. -/
theorem Sought.of_infix {p q : Option String}
    (h : Text.lowercase (p.getD "") <:+: Text.lowercase (q.getD "")) (hq : o.Sought q) :
    o.Sought p := by
  obtain ⟨hadapter, hempty | ⟨props, name, text, hprops, hname, hget, hoccurs⟩⟩ := hq
  · rw [hempty] at h
    have hnil : Text.lowercase (p.getD "") = [] := List.infix_nil.mp h
    exact ⟨hadapter, .inl (by simpa [Text.lowercase] using hnil)⟩
  · have hnarrow : Text.Occurs (p.getD "") text :=
      Text.occurs_iff.mpr (h.trans (Text.occurs_iff.mp hoccurs))
    exact ⟨hadapter, .inr ⟨props, name, text, hprops, hname, hget, hnarrow⟩⟩

end RemoteObject

/-! ## The first that is sought -/

section First

variable {α : Type}

/-- What is found is the first member of a list with a property, and nothing is found if there is
none. -/
def IsFirst (P : α → Prop) (l : List α) : Option α → Prop
  | none => ∀ a ∈ l, ¬ P a
  | some a => P a ∧ ∃ front back, l = front ++ a :: back ∧ ∀ b ∈ front, ¬ P b

theorem isFirst_find? {p : α → Bool} {P : α → Prop} (h : ∀ a, p a = true ↔ P a) (l : List α) :
    IsFirst P l (l.find? p) := by
  cases hfind : l.find? p with
  | none =>
      intro a ha hP
      exact List.find?_eq_none.mp hfind a ha ((h a).mpr hP)
  | some a =>
      obtain ⟨hp, front, back, hsplit, hfront⟩ := List.find?_eq_some_iff_append.mp hfind
      refine ⟨(h a).mp hp, front, back, hsplit, fun b hb hP => ?_⟩
      have hnot := hfront b hb
      rw [(h b).mpr hP] at hnot
      cases hnot

/-- The first member with a weaker property does not come later. -/
theorem IsFirst.at_or_after {P Q : α → Prop} (h : ∀ a, Q a → P a) {l : List α} {x y : Option α}
    (hx : IsFirst P l x) (hy : IsFirst Q l y) :
    y = none ∨ ∃ a b front back, x = some a ∧ y = some b ∧ l = front ++ a :: back ∧
      b ∈ a :: back := by
  cases y with
  | none => exact .inl rfl
  | some b =>
      obtain ⟨hQ, before, after, hb, -⟩ := hy
      have hmem : b ∈ l := by simp [hb]
      cases x with
      | none => exact absurd (h b hQ) (hx b hmem)
      | some a =>
          obtain ⟨-, front, back, hsplit, hfront⟩ := hx
          refine .inr ⟨a, b, front, back, rfl, rfl, hsplit, ?_⟩
          -- nothing before `a` has the weaker property, so `b` is not there
          rw [hsplit] at hmem
          exact (List.mem_append.mp hmem).resolve_left fun hearly => hfront b hearly (h b hQ)

end First

namespace ObjectTree

variable (t : ObjectTree)

theorem isFirst_findAdapter? (pattern : Option String) :
    IsFirst (fun o => o.Sought pattern) t.objects (t.findAdapter? pattern) := by
  rw [findAdapter?_eq, List.head?_filter]
  exact isFirst_find? (fun _ => RemoteObject.isSought_iff) t.objects

/-- What a pattern seeks decides what is found. -/
theorem findAdapter?_congr {p q : Option String} (h : ∀ o : RemoteObject, o.Sought p ↔ o.Sought q) :
    t.findAdapter? p = t.findAdapter? q := by
  rw [findAdapter?_eq, findAdapter?_eq]
  refine congrArg List.head? (List.filter_congr fun o _ => ?_)
  rw [Bool.eq_iff_iff, RemoteObject.isSought_iff, RemoteObject.isSought_iff]
  exact h o

/-- **The search finds the first match.** Without a pattern, or with the empty one, that is the
first object with the interface of an adapter, whatever its properties are; with any other pattern
it is the first such object that has a text as its name or its address as an adapter in which the
pattern occurs, the letters of the ASCII alphabet being compared without case. Patterns that differ
in case alone find the same object, and a pattern that occurs in another finds an object at which,
or after which, the object stands that the other one finds. -/
theorem findAdapter?_first :
    (∀ pattern : Option String, pattern = none ∨ pattern = some "" →
      IsFirst (fun o => Interface.adapter ∈ o.interfaceNames) t.objects
        (t.findAdapter? pattern)) ∧
    (∀ pattern : String, pattern ≠ "" →
      IsFirst (fun o => Interface.adapter ∈ o.interfaceNames ∧ o.Bears pattern) t.objects
        (t.findAdapter? (some pattern))) ∧
    (∀ p q : String, List.Forall₂ Text.SameLetter p.toList q.toList →
      t.findAdapter? (some p) = t.findAdapter? (some q)) ∧
    ∀ p q : Option String, Text.lowercase (p.getD "") <:+: Text.lowercase (q.getD "") →
      t.findAdapter? q = none ∨ ∃ o o' front back,
        t.findAdapter? p = some o ∧ t.findAdapter? q = some o' ∧
        t.objects = front ++ o :: back ∧ o' ∈ o :: back := by
  refine ⟨?_, ?_, ?_, ?_⟩
  · intro pattern hpattern
    have hempty : pattern.getD "" = "" := by
      rcases hpattern with rfl | rfl <;> rfl
    have hfirst := t.isFirst_findAdapter? pattern
    simpa only [RemoteObject.Sought, hempty, true_or, and_true] using hfirst
  · intro pattern hpattern
    have hfirst := t.isFirst_findAdapter? (some pattern)
    simpa only [RemoteObject.Sought, Option.getD_some, hpattern, false_or] using hfirst
  · intro p q hsame
    have hlower : Text.lowercase p = Text.lowercase q := Text.map_toLower_eq_iff.mpr hsame
    refine t.findAdapter?_congr fun o => ⟨fun h => ?_, fun h => ?_⟩
    · exact h.of_infix (by simp only [Option.getD_some, hlower, List.infix_rfl])
    · exact h.of_infix (by simp only [Option.getD_some, hlower, List.infix_rfl])
  · intro p q hinfix
    exact IsFirst.at_or_after (fun _ hq => hq.of_infix hinfix) (t.isFirst_findAdapter? p)
      (t.isFirst_findAdapter? q)

/-- An adapter whose name is no text is found by its address. -/
example :
    let props : Snapshot := .ofList [("Name", .uint32 0), ("Address", .text "AA:BB")]
    let o : RemoteObject := ⟨.root, [(Interface.adapter, props)], by simp⟩
    findAdapter? ⟨[o], by simp⟩ (some "a:b") = some o := by
  rfl

end ObjectTree

end BluetoothDirectory
