import BluetoothDirectory.Proofs.DecodedReply
import BluetoothDirectory.Proofs.Selection
import BluetoothDirectory.Proofs.SnapshotOrder

/-!
# The hierarchy of objects in snapshots

A path is below those that it goes on from with a slash. No character of a path sorts before the
slash, so a path between another one and something below that is below it as well
(`ObjectPath.IsBelow.of_between`). Ascending paths are therefore a pre-order of the hierarchy
(`Preordered.of_ascending`): those of a snapshot, of its tree, and what queries select from it.
-/

namespace BluetoothDirectory

/-! ## Paths below others -/

theorem lt_append_cons {α : Type} [LinearOrder α] (l : List α) (a : α) (rest : List α) :
    l < l ++ a :: rest := by
  have hlt : l ++ [] < l ++ a :: rest := List.append_left_lt (List.nil_lt_cons a rest)
  rwa [List.append_nil] at hlt

/-- What lies between a list and one that goes on from it with a separator goes on from it in the
same way, if nothing in it sorts before the separator. -/
theorem prefix_of_between {α : Type} [LinearOrder α] {separator : α} {l m rest : List α}
    (hm : ∀ a ∈ m, separator ≤ a) (hlt : l < m) (hgt : m < l ++ separator :: rest) :
    l ++ [separator] <+: m := by
  induction l generalizing m with
  | nil =>
      cases m with
      | nil => exact absurd hlt (List.not_lt_nil _)
      | cons a m =>
          have ha : separator ≤ a := hm a (by simp)
          rw [List.nil_append, List.cons_lt_cons_iff] at hgt
          rcases hgt with hbefore | ⟨rfl, -⟩
          · exact absurd hbefore (not_lt.mpr ha)
          · simp
  | cons b l ih =>
      cases m with
      | nil => exact absurd hlt (List.not_lt_nil _)
      | cons a m =>
          rw [List.cons_append, List.cons_lt_cons_iff] at hgt
          rw [List.cons_lt_cons_iff] at hlt
          -- if the first elements differed, the list would lie before both or after both
          have hsame : b = a ∧ l < m ∧ m < l ++ separator :: rest := by
            rcases hlt with hba | ⟨rfl, hlt⟩
            · rcases hgt with hab | ⟨rfl, -⟩
              · exact absurd hba (lt_asymm hab)
              · exact absurd hba (lt_irrefl _)
            · rcases hgt with hbb | ⟨-, hgt⟩
              · exact absurd hbb (lt_irrefl _)
              · exact ⟨rfl, hlt, hgt⟩
          obtain ⟨rfl, hlt, hgt⟩ := hsame
          have hprefix := ih (fun c hc => hm c (by simp [hc])) hlt hgt
          simpa using hprefix

namespace ObjectPath

/-- Whether a path is below another one. All others are below the root. -/
def IsBelow (q p : ObjectPath) : Prop :=
  p = root ∧ q ≠ root ∨ p.text.toList ++ ['/'] <+: q.text.toList

instance (q p : ObjectPath) : Decidable (q.IsBelow p) :=
  inferInstanceAs (Decidable (_ ∨ _))

theorem slash_le_of_isElementChar {c : Char} (h : isElementChar c = true) : '/' ≤ c := by
  have hbefore : ∀ n < '/'.toNat, isElementChar (Char.ofNat n) = false := by decide
  by_contra hlt
  have hc := hbefore c.toNat (not_le.mp hlt)
  rw [Char.ofNat_toNat, h] at hc
  cases hc

theorem slash_le_of_readsOn {inside : Bool} {cs : List Char} (h : readsOn inside cs = true) :
    ∀ c ∈ cs, '/' ≤ c := by
  induction cs generalizing inside with
  | nil => simp
  | cons d rest ih =>
      have hrest : '/' ≤ d ∧ ∀ c ∈ rest, '/' ≤ c := by
        rw [readsOn] at h
        split at h
        · rename_i hd
          rw [Bool.and_eq_true] at h
          exact ⟨le_of_eq hd.symm, ih h.2⟩
        · rw [Bool.and_eq_true] at h
          exact ⟨slash_le_of_isElementChar h.1, ih h.2⟩
      simpa using hrest

/-- A path begins with a slash, and none of its characters sorts before that. -/
theorem exists_slash_cons (p : ObjectPath) :
    ∃ rest, p.text.toList = '/' :: rest ∧ ∀ c ∈ rest, '/' ≤ c := by
  have hvalid := p.valid
  cases hp : p.text.toList with
  | nil => simp [hp, isValid] at hvalid
  | cons c rest =>
      simp only [hp, isValid, Bool.and_eq_true, beq_iff_eq, Bool.or_eq_true,
        List.isEmpty_iff] at hvalid
      obtain ⟨rfl, rfl | hrest⟩ := hvalid
      · exact ⟨[], rfl, by simp⟩
      · exact ⟨rest, rfl, slash_le_of_readsOn hrest⟩

theorem slash_le (p : ObjectPath) : ∀ c ∈ p.text.toList, '/' ≤ c := by
  obtain ⟨rest, hp, hrest⟩ := p.exists_slash_cons
  simpa [hp] using hrest

/-- The root sorts before all other paths. -/
theorem root_lt {q : ObjectPath} (h : q ≠ root) : root.text < q.text := by
  obtain ⟨rest, hq, -⟩ := q.exists_slash_cons
  rw [String.lt_iff_toList_lt, hq]
  cases rest with
  | nil => exact absurd (ext_text (String.toList_inj.mp hq)) h
  | cons c rest => exact lt_append_cons ['/'] c rest

variable {p q x : ObjectPath}

/-- What is below a path sorts after it. -/
theorem IsBelow.lt (h : q.IsBelow p) : p.text < q.text := by
  rcases h with ⟨rfl, hq⟩ | ⟨rest, hq⟩
  · exact root_lt hq
  · rw [String.lt_iff_toList_lt, ← hq, List.append_assoc]
    exact lt_append_cons _ '/' rest

/-- What sorts between a path and something below that is below the path as well. -/
theorem IsBelow.of_between (h : q.IsBelow p) (hpx : p.text < x.text) (hxq : x.text < q.text) :
    x.IsBelow p := by
  rcases h with ⟨rfl, -⟩ | ⟨rest, hq⟩
  · refine .inl ⟨rfl, fun hx => ?_⟩
    rw [hx] at hpx
    exact String.lt_irrefl _ hpx
  · rw [String.lt_iff_toList_lt] at hpx hxq
    rw [← hq, List.append_assoc] at hxq
    exact .inr (prefix_of_between x.slash_le hpx hxq)

/-- A name that another one begins with is none above it. -/
example : (⟨"/hci1/dev", by decide⟩ : ObjectPath).IsBelow ⟨"/hci1", by decide⟩ ∧
    ¬ (⟨"/hci10", by decide⟩ : ObjectPath).IsBelow ⟨"/hci1", by decide⟩ := by
  decide

end ObjectPath

/-! ## Pre-orders -/

/-- If a condition holds of all that comes before something for which it holds, the list is a block
for which it holds, and a rest for which it does not. -/
theorem exists_block {α : Type} {holds : α → Prop} [DecidablePred holds] {l : List α}
    (h : ∀ mid q back, l = mid ++ q :: back → holds q → ∀ a ∈ mid, holds a) :
    ∃ block back, l = block ++ back ∧ (∀ a ∈ block, holds a) ∧ ∀ a ∈ back, ¬ holds a := by
  induction l with
  | nil => exact ⟨[], [], rfl, by simp, by simp⟩
  | cons a l ih =>
      by_cases ha : holds a
      · obtain ⟨block, back, rfl, hblock, hback⟩ := ih fun mid q back hl hq b hb =>
          h (a :: mid) q back (by simp [hl]) hq b (by simp [hb])
        exact ⟨a :: block, back, rfl, by simpa [ha] using hblock, hback⟩
      · refine ⟨[], a :: l, rfl, by simp, fun q hmem hq => ?_⟩
        rcases List.mem_cons.mp hmem with rfl | hmem
        · exact ha hq
        · obtain ⟨mid, back, rfl⟩ := List.append_of_mem hmem
          exact ha (h (a :: mid) q back rfl hq a (by simp))

/-- Paths in ascending order. -/
def Ascending (paths : List ObjectPath) : Prop :=
  paths.Pairwise fun p q => p.text < q.text

/-- A list of paths is a pre-order of the hierarchy: what is below a path comes after it, with
nothing else in between, so that a path is followed at once by the block of all that is below it. -/
structure Preordered (paths : List ObjectPath) : Prop where
  before : ∀ front p back, paths = front ++ p :: back → ∀ q ∈ paths, q.IsBelow p → q ∈ back
  between : ∀ front p mid q back, paths = front ++ p :: (mid ++ q :: back) → q.IsBelow p →
    ∀ x ∈ mid, x.IsBelow p
  block : ∀ p ∈ paths, ∃ front block back, paths = front ++ p :: (block ++ back) ∧
    (∀ q ∈ block, q.IsBelow p) ∧ ∀ q ∈ front ++ back, ¬ q.IsBelow p

namespace Ascending

variable {paths front mid back : List ObjectPath} {p q x : ObjectPath}

theorem not_isBelow_of_mem_front (h : Ascending (front ++ p :: back)) (hq : q ∈ front) :
    ¬ q.IsBelow p := by
  intro hbelow
  obtain ⟨-, -, hfront⟩ := List.pairwise_append.mp h
  exact String.lt_asymm (hfront q hq p (by simp)) hbelow.lt

theorem isBelow_of_mem_between (h : Ascending (front ++ p :: (mid ++ q :: back)))
    (hq : q.IsBelow p) (hx : x ∈ mid) : x.IsBelow p := by
  obtain ⟨-, htail, -⟩ := List.pairwise_append.mp h
  obtain ⟨hp, hrest⟩ := List.pairwise_cons.mp htail
  obtain ⟨-, -, hmid⟩ := List.pairwise_append.mp hrest
  exact hq.of_between (hp x (by simp [hx])) (hmid x hx q (by simp))

/-- Ascending paths are a pre-order. -/
theorem preordered (h : Ascending paths) : Preordered paths := by
  constructor
  · rintro front p back rfl q hmem hbelow
    rcases List.mem_append.mp hmem with hfront | hmem
    · exact absurd hbelow (h.not_isBelow_of_mem_front hfront)
    · rcases List.mem_cons.mp hmem with rfl | hback
      · exact absurd hbelow.lt (String.lt_irrefl _)
      · exact hback
  · rintro front p mid q back rfl hbelow x hx
    exact h.isBelow_of_mem_between hbelow hx
  · intro p hp
    obtain ⟨front, rest, rfl⟩ := List.append_of_mem hp
    have hfirst : ∀ mid q back, rest = mid ++ q :: back → q.IsBelow p →
        ∀ x ∈ mid, x.IsBelow p := by
      rintro mid q back rfl hq x hx
      exact h.isBelow_of_mem_between hq hx
    obtain ⟨block, back, rfl, hblock, hback⟩ := exists_block hfirst
    refine ⟨front, block, back, rfl, hblock, fun q hq => ?_⟩
    rcases List.mem_append.mp hq with hq | hq
    · exact h.not_isBelow_of_mem_front hq
    · exact hback q hq

end Ascending

/-! ## Snapshots -/

/-- A listing is decoded to the objects at its paths. -/
theorem Wire.mem_paths_decodeObjects {objects : WireObjects} {path : ObjectPath} :
    path ∈ (decodeObjects objects).map Prod.fst ↔ path ∈ objects.map Prod.fst := by
  rw [← not_iff_not, ← lookup_eq_none_iff_notMem, lookup_decodeObjects, Option.map_eq_none_iff,
    lastUnder?_eq_none_iff]

theorem Wire.ascending_of_readReply? {root : String} {body : List Wire.Value}
    {snapshot : ManagedObjects}
    (h : (Request.managedObjects root).readReply? body = some snapshot) :
    Ascending (snapshot.map Prod.fst) :=
  List.pairwise_map.mpr (readReply?_sorted h).1

/-- **A snapshot over the bus is a pre-order of the hierarchy.** Whatever a peer replies to the
listing of its objects, in the answer each object stands right before the block of all objects below
it. The tree that is fetched has its objects in this order, and so have the adapters and the devices
that queries find in it. If the call can be addressed and the reply lists objects with interfaces
whose names obey the rule, there is an answer, and it has exactly the paths of the reply. -/
theorem Peer.snapshot_preordered {σ : Type} (p : Peer σ) (s : σ) (service root : String)
    (timeout : Option Duration) :
    (∀ snapshot, (p.remote.answer ⟨service, timeout, .managedObjects root⟩ s).1 = .ok snapshot →
      Preordered (snapshot.map Prod.fst) ∧
      ∃ t, ((ObjectTree.fetch service root timeout).runOn p.remote s).1 = .ok t ∧
        t.objects.map (·.path) = snapshot.map Prod.fst ∧
        t.adapterPaths.Sublist (snapshot.map Prod.fst) ∧ Preordered t.adapterPaths ∧
        ∀ accepts : String → Bool,
          (t.devicePaths accepts).Sublist (snapshot.map Prod.fst) ∧
          Preordered (t.devicePaths accepts)) ∧
    ∀ objects : WireObjects, BusName.isService service = true →
      ObjectPath.isValid root.toList = true →
      (∀ o ∈ objects, ∀ i ∈ o.2, BusName.isInterface i.1 = true) →
      (p.deliver (.listing service root) s).1 = .reply [Scripted.listing objects] →
      ∃ snapshot,
        (p.remote.answer ⟨service, timeout, .managedObjects root⟩ s).1 = .ok snapshot ∧
        ∀ path, path ∈ snapshot.map Prod.fst ↔ path ∈ objects.map Prod.fst := by
  constructor
  · intro snapshot hsnapshot
    obtain ⟨body, -, hread⟩ := Peer.exists_reply_of_answer hsnapshot
    obtain ⟨t, ht, hlisted⟩ := ObjectTree.fetch_of_answer hsnapshot
    have hascending : Ascending (snapshot.map Prod.fst) := Wire.ascending_of_readReply? hread
    have hpaths : t.objects.map (·.path) = snapshot.map Prod.fst := by
      rw [← hlisted, ObjectTree.listed, List.map_map]
      rfl
    have hadapters : t.adapterPaths.Sublist (snapshot.map Prod.fst) := by
      rw [← hpaths]
      exact (t.withInterface_sublist _).map _
    have hdevices : ∀ accepts, (t.devicePaths accepts).Sublist (snapshot.map Prod.fst) := by
      intro accepts
      rw [← hlisted]
      exact t.devicePaths_sublist_listed accepts
    have hpart : ∀ ps, ps.Sublist (snapshot.map Prod.fst) → Preordered ps :=
      fun ps hps => Ascending.preordered (hascending.sublist hps)
    exact ⟨hascending.preordered, t, ht, hpaths, hadapters, hpart _ hadapters,
      fun accepts => ⟨hdevices accepts, hpart _ (hdevices accepts)⟩⟩
  · intro objects hservice hroot hnamed hreply
    refine ⟨Wire.decodeObjects objects, ?_, fun path => Wire.mem_paths_decodeObjects⟩
    rw [Peer.remote_answer s (Call.message_listing timeout hservice hroot), hreply]
    simp only [Call.conclude, Wire.managedObjects?_listing hnamed root]

/-! ## Names that begin with one another -/

namespace Peer.Siblings

/-- An object of an adapter or device, without properties. -/
def object (path : String) (valid : ObjectPath.isValid path.toList = true) (interface : String) :
    ObjectPath × List (String × List (String × Wire.Value)) :=
  (⟨path, valid⟩, [(interface, [])])

/-- Three adapters, of which the name of one begins those of the others, and their devices. -/
def objects : WireObjects :=
  [object "/org/bluez/hci1_x" (by decide) Interface.adapter,
    object "/org/bluez/hci10/dev" (by decide) Interface.device,
    object "/org/bluez/hci1/dev" (by decide) Interface.device,
    object "/org/bluez/hci10" (by decide) Interface.adapter,
    object "/org/bluez/hci1" (by decide) Interface.adapter,
    (ObjectPath.root, [])]

/-- A peer that lists them, whatever it is asked. -/
def peer : Peer Unit where
  deliver _ _ := (.reply [Scripted.listing objects], ())

/-- In the answer the first adapter has its device between itself and the others. -/
theorem siblings_preordered :
    ∃ snapshot, (peer.remote.answer ⟨"org.bluez", none, .managedObjects "/"⟩ ()).1 = .ok snapshot ∧
      snapshot.map (·.1.text) =
        ["/", "/org/bluez/hci1", "/org/bluez/hci1/dev", "/org/bluez/hci10", "/org/bluez/hci10/dev", "/org/bluez/hci1_x"] ∧
      Preordered (snapshot.map Prod.fst) := by
  obtain ⟨hpreordered, hanswer⟩ := Peer.snapshot_preordered peer () "org.bluez" "/" none
  obtain ⟨snapshot, hsnapshot, -⟩ := hanswer objects (by decide) (by decide) (by decide) rfl
  refine ⟨snapshot, hsnapshot, ?_, (hpreordered snapshot hsnapshot).1⟩
  obtain rfl : Wire.decodeObjects objects = snapshot := Except.ok.inj hsnapshot
  rfl

end Peer.Siblings

end BluetoothDirectory
