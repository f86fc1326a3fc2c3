import BluetoothDirectory.Store.Scripted
import BluetoothDirectory.Proofs.Deed
import BluetoothDirectory.Proofs.Flattening

/-!
# Comparing snapshots

Values, snapshots and trees are compared part by part, and the doubles in them as numbers, so all
that can keep something from being equal to itself is a double that is not a number. `Compared` says
this of one thing, together with symmetry and transitivity. It is shown of doubles, passes to lists,
to pairs and to whatever is compared through these, and so reaches values by induction and then
snapshots, objects and trees.
-/

namespace BluetoothDirectory

/-! ## Doubles -/

namespace Double

/-- The bits stand for no number: those of the exponent are all set, and one of the fraction is. -/
def NotANumber (x : Double) : Prop :=
  x.bits.toNat / 0x10000000000000 % 0x800 = 0x7FF ∧ x.bits.toNat % 0x10000000000000 ≠ 0

instance (x : Double) : Decidable x.NotANumber :=
  inferInstanceAs (Decidable (_ ∧ _))

/-- The zero of a sign. -/
def zero (negative : Bool) : Double :=
  ⟨if negative then 0x8000000000000000 else 0⟩

/-- The two doubles are the two zeros. -/
def Zeros (x y : Double) : Prop :=
  ∃ negative, x = zero negative ∧ y = zero (!negative)

variable {x y z : Double}

theorem toNat_magnitude (x : Double) : x.magnitude.toNat = x.bits.toNat % 0x8000000000000000 := by
  rw [magnitude, UInt64.toNat_and]
  exact Nat.and_two_pow_sub_one_eq_mod x.bits.toNat 63

theorem isNaN_iff : x.isNaN = true ↔ x.NotANumber := by
  have hbits := x.bits.toNat_lt
  have hinfinity : infinity.toNat = 0x7FF * 0x10000000000000 := rfl
  rw [isNaN, decide_eq_true_iff, UInt64.lt_iff_toNat_lt, toNat_magnitude, hinfinity]
  unfold NotANumber
  omega

theorem isZero_iff : x.isZero = true ↔ ∃ negative, x = zero negative := by
  have hbits := x.bits.toNat_lt
  rw [isZero, beq_iff_eq, ← UInt64.toNat_inj, toNat_magnitude]
  constructor
  · intro h
    have hcases : x.bits.toNat = 0 ∨ x.bits.toNat = 0x8000000000000000 := by
      simp only [UInt64.toNat_zero] at h
      omega
    rcases hcases with h | h
    · exact ⟨false, congrArg mk (UInt64.toNat_inj.mp h)⟩
    · exact ⟨true, congrArg mk (UInt64.toNat_inj.mp h)⟩
  · rintro ⟨negative, rfl⟩
    cases negative <;> rfl

theorem not_notANumber_of_isZero (h : x.isZero = true) : ¬ x.NotANumber := by
  obtain ⟨negative, rfl⟩ := isZero_iff.mp h
  cases negative <;> decide

/-- Numbers are equal if their bits are, or if both are zero. -/
theorem beq_iff : (x == y) = true ↔
    ¬ x.NotANumber ∧ ¬ y.NotANumber ∧ (x = y ∨ x.isZero = true ∧ y.isZero = true) := by
  have hbits : x.bits = y.bits ↔ x = y := by
    cases x
    cases y
    simp
  show x.equals y = true ↔ _
  simp [equals, ← isNaN_iff, hbits, and_assoc]

/-- Of doubles with different bits only the two zeros are equal. -/
theorem beq_iff_of_ne (h : x ≠ y) : (x == y) = true ↔ Zeros x y := by
  rw [beq_iff]
  constructor
  · rintro ⟨-, -, heq | ⟨hx, hy⟩⟩
    · exact absurd heq h
    · obtain ⟨negative, rfl⟩ := isZero_iff.mp hx
      obtain ⟨negative', rfl⟩ := isZero_iff.mp hy
      refine ⟨negative, rfl, congrArg zero ?_⟩
      cases negative <;> cases negative' <;> simp_all
  · rintro ⟨negative, rfl, rfl⟩
    have hx : (zero negative).isZero = true := isZero_iff.mpr ⟨_, rfl⟩
    have hy : (zero (!negative)).isZero = true := isZero_iff.mpr ⟨_, rfl⟩
    exact ⟨not_notANumber_of_isZero hx, not_notANumber_of_isZero hy, .inr ⟨hx, hy⟩⟩

end Double

/-! ## What a comparison through doubles is -/

/-- A thing is compared through the doubles that it holds: whatever is equal to it is so both ways
round and passes that on, it is equal to itself exactly if all of its doubles are numbers, and
without doubles it is equal to itself only. -/
structure Compared {α : Type} [BEq α] (Holds : Double → α → Prop) (a : α) : Prop where
  symm : ∀ b, (a == b) = true → (b == a) = true
  trans : ∀ b c, (a == b) = true → (b == c) = true → (a == c) = true
  self_iff : (a == a) = true ↔ ∀ x, Holds x a → ¬ x.NotANumber
  eq_iff : (∀ x, ¬ Holds x a) → ∀ b, (a == b) = true ↔ a = b

theorem Double.compared (x : Double) : Compared (fun y x => y = x) x where
  symm y h := by
    obtain ⟨hx, hy, heq | ⟨hzero, hzero'⟩⟩ := beq_iff.mp h
    · exact beq_iff.mpr ⟨hy, hx, .inl heq.symm⟩
    · exact beq_iff.mpr ⟨hy, hx, .inr ⟨hzero', hzero⟩⟩
  trans y z h h' := by
    obtain ⟨hx, -, hxy⟩ := beq_iff.mp h
    obtain ⟨-, hz, hyz⟩ := beq_iff.mp h'
    refine beq_iff.mpr ⟨hx, hz, ?_⟩
    rcases hxy with rfl | ⟨hzero, -⟩
    · exact hyz
    · rcases hyz with rfl | ⟨-, hzero'⟩
      · rcases beq_iff.mp h with ⟨-, -, hxy⟩
        exact hxy
      · exact .inr ⟨hzero, hzero'⟩
  self_iff := by
    rw [beq_iff]
    simp
  eq_iff h := absurd rfl (h x)

namespace Compared

variable {α β : Type} [BEq α] [BEq β] {Holds : Double → α → Prop} {Holds' : Double → β → Prop}

/-- What is equal to itself only, and holds no doubles. -/
theorem of_eq {a : α} (hne : ∀ x, ¬ Holds x a) (h : ∀ b, (a == b) = true ↔ a = b) :
    Compared Holds a where
  symm b hab := by
    obtain rfl := (h b).mp hab
    exact hab
  trans b c hab hbc := by
    obtain rfl := (h b).mp hab
    exact hbc
  self_iff := iff_of_true ((h a).mpr rfl) fun x hx => absurd hx (hne x)
  eq_iff _ := h

/-- Things that are compared through something else that they are determined by. -/
theorem of_view (view : β → α) (hinj : Function.Injective view)
    (hbeq : ∀ a b : β, (a == b) = (view a == view b)) {b : β}
    (h : Compared Holds (view b)) : Compared (fun x b => Holds x (view b)) b where
  symm c hbc := by
    rw [hbeq] at hbc ⊢
    exact h.symm _ hbc
  trans c d hbc hcd := by
    rw [hbeq] at hbc hcd ⊢
    exact h.trans _ _ hbc hcd
  self_iff := by
    rw [hbeq]
    exact h.self_iff
  eq_iff hne c := by
    rw [hbeq, h.eq_iff hne]
    exact hinj.eq_iff

/-- Things made by a function whose results are equal to results only, and as what they are made
of. -/
theorem of_made {make : α → β} (hinj : Function.Injective make)
    (hbeq : ∀ a b, (make a == b) = true ↔ ∃ a', b = make a' ∧ (a == a') = true) {a : α}
    (hholds : ∀ x, Holds' x (make a) ↔ Holds x a) (h : Compared Holds a) :
    Compared Holds' (make a) where
  symm b hab := by
    obtain ⟨a', rfl, haa'⟩ := (hbeq a b).mp hab
    exact (hbeq a' _).mpr ⟨a, rfl, h.symm a' haa'⟩
  trans b c hab hbc := by
    obtain ⟨a', rfl, haa'⟩ := (hbeq a b).mp hab
    obtain ⟨a'', rfl, ha'a''⟩ := (hbeq a' c).mp hbc
    exact (hbeq a _).mpr ⟨a'', rfl, h.trans a' a'' haa' ha'a''⟩
  self_iff := by
    have hself : (make a == make a) = true ↔ (a == a) = true := by
      rw [hbeq]
      constructor
      · rintro ⟨a', heq, haa'⟩
        rw [hinj heq]
        rwa [hinj heq] at haa'
      · exact fun haa => ⟨a, rfl, haa⟩
    rw [hself, h.self_iff]
    simp only [hholds]
  eq_iff hne b := by
    rw [hbeq]
    have hnone : ∀ x, ¬ Holds x a := fun x hx => hne x ((hholds x).mpr hx)
    constructor
    · rintro ⟨a', rfl, haa'⟩
      rw [(h.eq_iff hnone a').mp haa']
    · rintro rfl
      exact ⟨a, rfl, (h.eq_iff hnone a).mpr rfl⟩

/-- Pairs with a key that is compared as it is. -/
theorem pair {κ : Type} [BEq κ] [LawfulBEq κ] {e : κ × α} (h : Compared Holds e.2) :
    Compared (fun x e => Holds x e.2) e := by
  have hbeq (e d : κ × α) : (e == d) = true ↔ e.1 = d.1 ∧ (e.2 == d.2) = true := by
    show (e.1 == d.1 && e.2 == d.2) = true ↔ _
    rw [Bool.and_eq_true, beq_iff_eq]
  constructor
  · intro d hed
    obtain ⟨hkey, hvalue⟩ := (hbeq e d).mp hed
    exact (hbeq d e).mpr ⟨hkey.symm, h.symm d.2 hvalue⟩
  · intro d c hed hdc
    obtain ⟨hkey, hvalue⟩ := (hbeq e d).mp hed
    obtain ⟨hkey', hvalue'⟩ := (hbeq d c).mp hdc
    exact (hbeq e c).mpr ⟨hkey.trans hkey', h.trans d.2 c.2 hvalue hvalue'⟩
  · rw [hbeq, h.self_iff]
    exact ⟨fun hself => hself.2, fun hself => ⟨rfl, hself⟩⟩
  · intro hne d
    rw [hbeq, h.eq_iff hne, Prod.ext_iff]

/-- Lists, item by item. -/
theorem list {l : List α} (h : ∀ a ∈ l, Compared Holds a) :
    Compared (fun x l => ∃ a ∈ l, Holds x a) l := by
  induction l with
  | nil =>
      refine .of_eq (by simp) fun m => ?_
      cases m <;> simp
  | cons a l ih =>
      have ha := h a (by simp)
      have hl := ih fun b hb => h b (by simp [hb])
      constructor
      · intro m hlm
        cases m with
        | nil => simp at hlm
        | cons b m =>
            simp only [List.cons_beq_cons, Bool.and_eq_true] at hlm ⊢
            exact ⟨ha.symm b hlm.1, hl.symm m hlm.2⟩
      · intro m n hlm hmn
        cases m with
        | nil => simp at hlm
        | cons b m =>
            cases n with
            | nil => simp at hmn
            | cons c n =>
                simp only [List.cons_beq_cons, Bool.and_eq_true] at hlm hmn ⊢
                exact ⟨ha.trans b c hlm.1 hmn.1, hl.trans m n hlm.2 hmn.2⟩
      · rw [List.cons_beq_cons, Bool.and_eq_true, ha.self_iff, hl.self_iff]
        constructor
        · rintro ⟨hfirst, hrest⟩ x ⟨b, hb, hx⟩
          rcases List.mem_cons.mp hb with rfl | hb
          · exact hfirst x hx
          · exact hrest x ⟨b, hb, hx⟩
        · intro hall
          exact ⟨fun x hx => hall x ⟨a, by simp, hx⟩,
            fun x ⟨b, hb, hx⟩ => hall x ⟨b, by simp [hb], hx⟩⟩
      · intro hne m
        have hfirst : ∀ x, ¬ Holds x a := fun x hx => hne x ⟨a, by simp, hx⟩
        have hrest : ∀ x, ¬ ∃ b ∈ l, Holds x b :=
          fun x ⟨b, hb, hx⟩ => hne x ⟨b, by simp [hb], hx⟩
        cases m with
        | nil => simp
        | cons b m =>
            rw [List.cons_beq_cons, Bool.and_eq_true, ha.eq_iff hfirst, hl.eq_iff hrest,
              List.cons.injEq]

end Compared

/-! ## Values -/

namespace Variant

/-- The doubles in a value, at any depth of nested dictionaries. -/
inductive Holds (x : Double) : Variant → Prop
  | double : Holds x (.double x)
  | entry {entries : List (String × Variant)} {key : String} {value : Variant}
      (mem : (key, value) ∈ entries) (held : Holds x value) : Holds x (.dict entries)

theorem holds_double_iff {x y : Double} : Holds x (.double y) ↔ x = y := by
  constructor
  · rintro ⟨⟩
    rfl
  · rintro rfl
    exact .double

theorem holds_dict_iff {x : Double} {entries : List (String × Variant)} :
    Holds x (.dict entries) ↔ ∃ e ∈ entries, Holds x e.2 := by
  constructor
  · rintro (_ | ⟨hmem, hheld⟩)
    exact ⟨_, hmem, hheld⟩
  · rintro ⟨⟨key, value⟩, hmem, hheld⟩
    exact .entry hmem hheld

/-- Dictionaries are compared as the lists of their entries. -/
theorem entriesEqual_eq_beq (l m : List (String × Variant)) : entriesEqual l m = (l == m) := by
  induction l generalizing m with
  | nil => cases m <;> simp [entriesEqual]
  | cons e l ih =>
      cases m with
      | nil => simp [entriesEqual]
      | cons d m =>
          rw [entriesEqual, ih, List.cons_beq_cons]
          rfl

theorem beq_double_iff (x : Double) (v : Variant) :
    (double x == v) = true ↔ ∃ y, v = double y ∧ (x == y) = true := by
  show (double x).equals v = true ↔ _
  cases v <;> simp [equals]
  rfl

theorem beq_dict_iff (l : List (String × Variant)) (v : Variant) :
    (dict l == v) = true ↔ ∃ m, v = dict m ∧ (l == m) = true := by
  show (dict l).equals v = true ↔ _
  cases v <;> simp [equals, entriesEqual_eq_beq]

/-- Whether a value is neither a double nor a dictionary. -/
def isPlain : Variant → Bool
  | double _ | dict _ => false
  | _ => true

theorem beq_iff_of_isPlain {v : Variant} (h : v.isPlain = true) (w : Variant) :
    (v == w) = true ↔ v = w := by
  show v.equals w = true ↔ _
  cases v with
  | double | dict => cases h
  | _ => cases w <;> simp [equals]

theorem compared_of_isPlain {v : Variant} (h : v.isPlain = true) : Compared Holds v := by
  refine .of_eq (fun x hx => ?_) (beq_iff_of_isPlain h)
  cases hx <;> cases h

/-- Values of different kinds are not equal. -/
theorem kind_eq_of_beq {v w : Variant} (h : (v == w) = true) : v.kind = w.kind := by
  cases v with
  | double x =>
      obtain ⟨y, rfl, -⟩ := (beq_double_iff x w).mp h
      rfl
  | dict l =>
      obtain ⟨m, rfl, -⟩ := (beq_dict_iff l w).mp h
      rfl
  | _ => rw [(beq_iff_of_isPlain rfl w).mp h]

mutual

/-- Values are compared through the doubles that they hold. -/
theorem compared : (v : Variant) → Compared Holds v
  | double x =>
      .of_made (fun _ _ => Variant.double.inj) beq_double_iff (fun _ => holds_double_iff)
        x.compared
  | dict entries =>
      .of_made (fun _ _ => Variant.dict.inj) beq_dict_iff (fun _ => holds_dict_iff)
        (.list fun e he => .pair (entry_compared entries e he))
  | bool _ | byte _ | int16 _ | uint16 _ | int32 _ | uint32 _ | int64 _ | uint64 _ | text _
  | objectPath _ | texts _ | bytes _ | unsupported _ => compared_of_isPlain rfl

theorem entry_compared : (entries : List (String × Variant)) →
    ∀ e ∈ entries, Compared Holds e.2
  | [], _, he => absurd he List.not_mem_nil
  | (_, value) :: entries, e, he =>
      (List.mem_cons.mp he).elim (fun heq => heq ▸ value.compared) (entry_compared entries e)

end

end Variant

/-! ## Snapshots and trees -/

/-- The doubles in a snapshot. -/
def Snapshot.Holds (x : Double) (s : Snapshot) : Prop :=
  ∃ e ∈ s.entries, e.2.Holds x

theorem SortedMap.ext_entries {α : Type} {m n : SortedMap α} (h : m.entries = n.entries) :
    m = n := by
  cases m
  cases n
  cases h
  rfl

theorem Snapshot.compared (s : Snapshot) : Compared Holds s :=
  .of_view SortedMap.entries (fun _ _ => SortedMap.ext_entries) (fun _ _ => rfl)
    (.list fun e _ => .pair e.2.compared)

/-- The doubles in the properties of an answer. -/
def ManagedObjects.Holds (x : Double) (objects : ManagedObjects) : Prop :=
  ∃ o ∈ objects, ∃ i ∈ o.2, i.2.Holds x

/-- The doubles in a tree. -/
def ObjectTree.Holds (x : Double) (t : ObjectTree) : Prop :=
  ∃ o ∈ t.objects, ∃ i ∈ o.interfaces, i.2.Holds x

theorem RemoteObject.compared (o : RemoteObject) :
    Compared (fun x o => ∃ i ∈ o.interfaces, i.2.Holds x) o :=
  .of_view RemoteObject.listed (fun _ _ => ext_listed) (fun _ _ => rfl)
    (.pair (.list fun i _ => .pair i.2.compared))

theorem ObjectTree.ext_objects {t t' : ObjectTree} (h : t.objects = t'.objects) : t = t' := by
  cases t
  cases t'
  cases h
  rfl

theorem ObjectTree.compared (t : ObjectTree) : Compared Holds t :=
  .of_view ObjectTree.objects (fun _ _ => ext_objects) (fun _ _ => rfl)
    (.list fun o _ => o.compared)

/-! ## Fetching twice -/

namespace ObjectTree

open Store (Scripted)

variable {service root : String} {limit : Option Duration} {s : Scripted} {t : ObjectTree}

/-- A listing is answered by the store or not at all, whatever is scripted. -/
theorem follow_managedObjects (store : Store) (limit : Option Duration) (root : String)
    (script : Option Store.Script) :
    (Scripted.follow store limit (.managedObjects root) script).2 = store ∧
      ∀ reply, (Scripted.follow store limit (.managedObjects root) script).1 = .ok reply →
        reply = store.objects := by
  cases script with
  | none => exact ⟨rfl, fun reply h => (Except.ok.inj h).symm⟩
  | some script =>
      cases script with
      | value v => exact ⟨rfl, fun reply h => (Except.ok.inj h).symm⟩
      | late | refuse | garble => exact ⟨rfl, nofun⟩

theorem store_of_fetch (service root : String) (limit : Option Duration) (s : Scripted) :
    ((fetch service root limit).runOn Scripted.remote s).2.store = s.store := by
  rw [fetch_eq_once, Operation.runOn_once]
  exact (follow_managedObjects s.store limit root s.script.head?).1

/-- A tree that is fetched from a store lists its objects. -/
theorem listed_of_fetch (h : ((fetch service root limit).runOn Scripted.remote s).1 = .ok t) :
    t.listed = s.store.objects := by
  rw [fetch_eq_once, Operation.runOn_once] at h
  obtain ⟨reply, hreply, htree⟩ := bind_eq_ok_iff.mp h
  rw [← (follow_managedObjects s.store limit root s.script.head?).2 reply hreply]
  exact ofManagedObjects_eq_ok_iff.mp htree

theorem ext_of_listed {t t' : ObjectTree} (h : t.listed = t'.listed) : t = t' :=
  ext_objects (List.map_injective_iff.mpr (fun _ _ => RemoteObject.ext_listed) h)

theorem holds_iff {x : Double} : t.Holds x ↔ t.listed.Holds x := by
  simp [Holds, ManagedObjects.Holds, listed, RemoteObject.listed]

end ObjectTree

/-- **Only what is not a number is unequal to itself.** Values, snapshots and trees are compared
through the doubles in them, at any depth: whatever is equal is so both ways round and passes that
on, a thing is equal to itself exactly if all of its doubles are numbers, and without doubles
equality is identity. Values of different kinds are never equal, and of doubles with different bits
only the two zeros are. So two trees that are fetched from the same store are equal exactly if no
property in it holds what is not a number. -/
theorem compared_through_doubles :
    (∀ v : Variant, Compared Variant.Holds v) ∧
    (∀ s : Snapshot, Compared Snapshot.Holds s) ∧
    (∀ t : ObjectTree, Compared ObjectTree.Holds t) ∧
    (∀ v w : Variant, (v == w) = true → v.kind = w.kind) ∧
    (∀ x y : Double, x ≠ y →
      ((Variant.double x == Variant.double y) = true ↔ Double.Zeros x y)) ∧
    ∀ (s : Store.Scripted) (service root : String) (limit : Option Duration),
      ((ObjectTree.fetch service root limit).runOn Store.Scripted.remote s).2.store = s.store ∧
      ∀ (s' : Store.Scripted) (service' root' : String) (limit' : Option Duration)
        (t t' : ObjectTree), s'.store = s.store →
        ((ObjectTree.fetch service root limit).runOn Store.Scripted.remote s).1 = .ok t →
        ((ObjectTree.fetch service' root' limit').runOn Store.Scripted.remote s').1 = .ok t' →
        ((t == t') = true ↔ ∀ x, s.store.objects.Holds x → ¬ x.NotANumber) := by
  refine ⟨Variant.compared, Snapshot.compared, ObjectTree.compared,
    fun v w => Variant.kind_eq_of_beq, fun x y hne => ?_, fun s service root limit =>
      ⟨ObjectTree.store_of_fetch service root limit s, ?_⟩⟩
  · rw [Variant.beq_double_iff, ← Double.beq_iff_of_ne hne]
    constructor
    · rintro ⟨y', ⟨⟩, h⟩
      exact h
    · exact fun h => ⟨y, rfl, h⟩
  · intro s' service' root' limit' t t' hstore ht ht'
    have hlisted := ObjectTree.listed_of_fetch ht
    -- both trees list the same objects, so the question is whether the one is equal to itself
    obtain rfl : t = t' := by
      refine ObjectTree.ext_of_listed ?_
      rw [hlisted, ObjectTree.listed_of_fetch ht', hstore]
    rw [t.compared.self_iff, ← hlisted]
    simp only [ObjectTree.holds_iff]

/-- A double that is not a number, deep inside the one property of a store. -/
def Store.oddLevel : Store :=
  ⟨[(.root, [("a.Meter", .ofList [("State", .dict [("Level", .double ⟨0x7FF8000000000000⟩)])])])]⟩

theorem Store.oddLevel_fetched_twice :
    ∃ t, ((ObjectTree.fetch "" "/" none).runOn Scripted.remote { store := oddLevel }).1 = .ok t ∧
      (t == t) = false := by
  refine ⟨_, rfl, ?_⟩
  have hiff := (compared_through_doubles.2.2.2.2.2 { store := oddLevel } "" "/" none).2
    { store := oddLevel } "" "/" none _ _ rfl rfl rfl
  rw [Bool.eq_false_iff, ne_eq, hiff]
  intro hnumbers
  refine hnumbers ⟨0x7FF8000000000000⟩ ⟨_, .head _, _, .head _, _, .head _, ?_⟩ (by decide)
  exact .entry (.head _) .double

end BluetoothDirectory
