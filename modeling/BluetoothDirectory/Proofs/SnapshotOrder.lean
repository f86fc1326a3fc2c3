import BluetoothDirectory.Proofs.ByteOrder
import BluetoothDirectory.Proofs.Classification
import BluetoothDirectory.Proofs.Flattening
import BluetoothDirectory.Proofs.Refinement
import BluetoothDirectory.Proofs.WireOrder

/-!
# Snapshots do not depend on the bus

Two replies that list the same objects in different orders give one snapshot, in the order of the
bytes of paths and names, and so every query has one result. A snapshot is always a tree: what can
be wrong with the answer to a listing is never that it repeats something.
-/

namespace BluetoothDirectory

/-! ## The call that lists all objects -/

/-- The call with which a directory lists the objects of its service. -/
def Directory.listingCall (d : Directory) : Call :=
  ⟨d.config.service, d.config.timeout, .managedObjects d.config.root⟩

theorem Call.message_eq_listing {service root : String} {timeout : Option Duration} {m : Message}
    (h : Call.message ⟨service, timeout, .managedObjects root⟩ = .ok m) :
    m = .listing service root := by
  simp only [Call.message, Request.content, Request.namedInterface?, bind_eq_ok_iff] at h
  obtain ⟨_, hcontent, _, -, _, -, hm⟩ := h
  cases hcontent
  cases hm
  rfl

/-- A listing is not refused as malformed before it is sent. -/
theorem Call.message_ne_malformedReply {service root : String} {timeout : Option Duration}
    {e : Error} (h : Call.message ⟨service, timeout, .managedObjects root⟩ = .error e)
    (text : String) : e ≠ .malformedReply text := by
  have hrequire : ∀ {holds : Bool} {what name : String},
      Call.require holds what name = .error e → e ≠ .malformedReply text := by
    intro holds what name h
    unfold Call.require at h
    split at h <;> cases h
    nofun
  simp only [Call.message, Request.content, Request.namedInterface?, bind_eq_error_iff] at h
  rcases h with h | ⟨_, -, h | ⟨_, -, h | ⟨_, -, h⟩⟩⟩
  · cases h
  · exact hrequire h
  · exact hrequire h
  · cases h

/-- No outcome of a message is reported as a malformed reply. -/
theorem Call.conclude_ne_malformedReply {c : Call} {outcome : Outcome} {e : Error}
    (h : c.conclude outcome = .error e) (text : String) : e ≠ .malformedReply text := by
  have hmeans := c.means_conclude outcome
  rw [h] at hmeans
  rintro rfl
  cases hmeans

/-- Only a reply that can be read is an answer. -/
theorem Call.exists_reply_of_conclude {c : Call} {outcome : Outcome} {answer : c.Reply}
    (h : c.conclude outcome = .ok answer) :
    ∃ body, outcome = .reply body ∧ c.request.readReply? body = some answer := by
  have hmeans := c.means_conclude outcome
  rw [h] at hmeans
  cases hmeans with
  | answered hread => exact ⟨_, rfl, hread⟩

section Listing

variable {σ σ' : Type} {p : Peer σ} {p' : Peer σ'} {s : σ} {s' : σ'} {service root : String}
  {timeout : Option Duration}

theorem Peer.answer_ne_malformedReply {e : Error}
    (h : (p.remote.answer ⟨service, timeout, .managedObjects root⟩ s).1 = .error e)
    (text : String) : e ≠ .malformedReply text := by
  cases hm : Call.message ⟨service, timeout, .managedObjects root⟩ with
  | error e' =>
      simp only [Peer.remote, hm] at h
      cases h
      exact Call.message_ne_malformedReply hm text
  | ok m =>
      obtain rfl := Call.message_eq_listing hm
      rw [Peer.remote_answer s hm] at h
      exact Call.conclude_ne_malformedReply h text

/-- What a listing answers was read from a reply to its message. -/
theorem Peer.exists_reply_of_answer {snapshot : ManagedObjects}
    (h : (p.remote.answer ⟨service, timeout, .managedObjects root⟩ s).1 = .ok snapshot) :
    ∃ body, (p.deliver (.listing service root) s).1 = .reply body ∧
      (Request.managedObjects root).readReply? body = some snapshot := by
  cases hm : Call.message ⟨service, timeout, .managedObjects root⟩ with
  | error e =>
      simp only [Peer.remote, hm] at h
      cases h
  | ok m =>
      obtain rfl := Call.message_eq_listing hm
      rw [Peer.remote_answer s hm] at h
      exact Call.exists_reply_of_conclude h

/-- The same replies have the same answer. -/
theorem Peer.answer_eq_of_same {r r' : Wire.Value}
    (hr : (p.deliver (.listing service root) s).1 = .reply [r])
    (hr' : (p'.deliver (.listing service root) s').1 = .reply [r']) (hsame : r.Same r') :
    (p.remote.answer ⟨service, timeout, .managedObjects root⟩ s).1 =
      (p'.remote.answer ⟨service, timeout, .managedObjects root⟩ s').1 := by
  cases hm : Call.message ⟨service, timeout, .managedObjects root⟩ with
  | error e => simp only [Peer.remote, hm]
  | ok m =>
      obtain rfl := Call.message_eq_listing hm
      rw [Peer.remote_answer s hm, Peer.remote_answer s' hm, hr, hr']
      simp only [Call.conclude, Wire.readReply?_same root hsame]

/-- A reply that lists a content has the snapshot for its answer that mirrors the content. -/
theorem Peer.answer_mirrors {r : Wire.Value} {c : Wire.Content} {objects : WireObjects}
    (hservice : BusName.isService service = true)
    (hroot : ObjectPath.isValid root.toList = true)
    (hr : (p.deliver (.listing service root) s).1 = .reply [r]) (hnamed : c.Named)
    (hlisted : c.ListedBy objects) (hsame : r.Same (Scripted.listing objects)) :
    ∃ snapshot, (p.remote.answer ⟨service, timeout, .managedObjects root⟩ s).1 = .ok snapshot ∧
      Store.Mirrors ⟨snapshot⟩ c := by
  refine ⟨Wire.decodeObjects objects, ?_, Wire.mirrors_decodeObjects hlisted⟩
  have hread := Wire.managedObjects?_listing (hlisted.named hnamed) root
  rw [← Wire.readReply?_same root hsame] at hread
  rw [Peer.remote_answer s (Call.message_listing timeout hservice hroot), hr]
  simp only [Call.conclude, hread]

end Listing

/-! ## Snapshots -/

/-- A snapshot ascends by path, and each object in it by interface, byte by byte. -/
structure ManagedObjects.InOrder (snapshot : ManagedObjects) : Prop where
  paths : snapshot.Pairwise fun a b => Text.bytes a.1.text < Text.bytes b.1.text
  interfaces : ∀ o ∈ snapshot, o.2.Pairwise fun i j => Text.bytes i.1 < Text.bytes j.1

/-- Whatever is read from a reply that lists objects is in order. -/
theorem Wire.readReply?_inOrder {root : String} {body : List Wire.Value}
    {snapshot : ManagedObjects}
    (h : (Request.managedObjects root).readReply? body = some snapshot) : snapshot.InOrder := by
  obtain ⟨hpaths, hinterfaces⟩ := Wire.readReply?_sorted h
  exact ⟨hpaths.imp Text.bytes_lt_bytes.mpr,
    fun o ho => (hinterfaces o ho).imp Text.bytes_lt_bytes.mpr⟩

/-- A snapshot in order repeats nothing. -/
theorem ManagedObjects.InOrder.wellFormed {snapshot : ManagedObjects} (h : snapshot.InOrder) :
    snapshot.WellFormed := by
  constructor
  · refine List.pairwise_map.mpr (h.paths.imp fun hlt heq => ?_)
    rw [heq] at hlt
    exact List.lt_irrefl _ hlt
  · intro o ho
    refine List.pairwise_map.mpr ((h.interfaces o ho).imp fun hlt heq => ?_)
    rw [heq] at hlt
    exact List.lt_irrefl _ hlt

/-- An answer to the listing makes a tree, which lists it. -/
theorem ObjectTree.fetch_of_answer {σ : Type} {p : Peer σ} {s : σ} {service root : String}
    {timeout : Option Duration} {snapshot : ManagedObjects}
    (h : (p.remote.answer ⟨service, timeout, .managedObjects root⟩ s).1 = .ok snapshot) :
    ∃ t, ((ObjectTree.fetch service root timeout).runOn p.remote s).1 = .ok t ∧
      t.listed = snapshot := by
  obtain ⟨body, -, hread⟩ := Peer.exists_reply_of_answer h
  obtain ⟨t, ht⟩ := ObjectTree.exists_ofManagedObjects_iff.mpr
    (Wire.readReply?_inOrder hread).wellFormed
  refine ⟨t, ?_, ObjectTree.ofManagedObjects_eq_ok_iff.mp ht⟩
  rw [ObjectTree.fetch_eq_once, Operation.runOn_once, h]
  exact ht

/-- **A tree that is fetched over a bus is never malformed.** -/
theorem ObjectTree.fetch_ne_malformedReply {σ : Type} (p : Peer σ) (s : σ)
    (service root text : String) (timeout : Option Duration) :
    ((ObjectTree.fetch service root timeout).runOn p.remote s).1 ≠
      .error (.malformedReply text) := by
  intro h
  cases ha : (p.remote.answer ⟨service, timeout, .managedObjects root⟩ s).1 with
  | error e =>
      rw [ObjectTree.fetch_eq_once, Operation.runOn_once, ha] at h
      cases h
      exact Peer.answer_ne_malformedReply ha text rfl
  | ok snapshot =>
      obtain ⟨t, ht, -⟩ := ObjectTree.fetch_of_answer ha
      cases ht.symm.trans h

/-! ## Queries -/

/-- The commands that list the objects and look for something among them. -/
inductive Directory.Command.IsQuery : Directory.Command → Prop
  | managedObjects : IsQuery .managedObjects
  | findAdapter (pattern : Option String) : IsQuery (.findAdapter pattern)
  | adapters : IsQuery .adapters
  | devices (pattern : String) : IsQuery (.devices pattern)

/-- A query is settled at once, or its result is made of the answer to the listing. -/
theorem Directory.perform_query (d : Directory) {q : Directory.Command} (h : q.IsQuery) :
    (∃ result, d.perform q = Operation.ofExcept result) ∨
      ∃ use, d.perform q = Operation.once d.listingCall use := by
  rw [d.perform_eq]
  -- only a pattern that cannot be read settles a query without a call
  cases h with
  | managedObjects | findAdapter | adapters => exact .inr ⟨_, rfl⟩
  | devices pattern =>
      simp only [Directory.deed]
      cases Directory.compilePattern pattern with
      | error e => exact .inl ⟨_, rfl⟩
      | ok p => exact .inr ⟨_, rfl⟩

/-- Queries tell two buses apart only by their answers to the listing. -/
theorem Directory.query_result_eq {σ σ' : Type} {remote : Remote σ} {remote' : Remote σ'} {s : σ}
    {s' : σ'} {d : Directory}
    (h : (remote.answer d.listingCall s).1 = (remote'.answer d.listingCall s').1)
    {q : Directory.Command} (hq : q.IsQuery) :
    ((d.perform q).runOn remote s).1 = ((d.perform q).runOn remote' s').1 := by
  rcases d.perform_query hq with ⟨result, hresult⟩ | ⟨use, hresult⟩
  · rw [hresult, Operation.runOn_ofExcept, Operation.runOn_ofExcept]
  · rw [hresult, Operation.runOn_once, Operation.runOn_once, h]

/-- **Identical states give identical snapshots.** Two buses whose replies are the same up to the
order of entries, at any depth, give one answer to the listing and one result of each query. What
they answer is in order and makes a tree, and if the reply lists a content, the answer is the
snapshot that mirrors it. No tree that is fetched over a bus is malformed. -/
theorem Peer.snapshot_determined {σ σ' : Type} (p : Peer σ) (p' : Peer σ') (s : σ) (s' : σ')
    (d : Directory) {r r' : Wire.Value}
    (hr : (p.deliver (.listing d.config.service d.config.root) s).1 = .reply [r])
    (hr' : (p'.deliver (.listing d.config.service d.config.root) s').1 = .reply [r'])
    (hsame : r.Same r') :
    (p.remote.answer d.listingCall s).1 = (p'.remote.answer d.listingCall s').1 ∧
    (∀ snapshot, (p.remote.answer d.listingCall s).1 = .ok snapshot →
      snapshot.InOrder ∧
        ∃ t, (d.managedObjects.runOn p.remote s).1 = .ok t ∧ t.listed = snapshot) ∧
    (∀ (c : Wire.Content) (objects : WireObjects), d.Addressable → c.Named →
      c.ListedBy objects → r.Same (Scripted.listing objects) →
      ∃ snapshot, (p.remote.answer d.listingCall s).1 = .ok snapshot ∧
        Store.Mirrors ⟨snapshot⟩ c) ∧
    (∀ q : Directory.Command, q.IsQuery →
      ((d.perform q).runOn p.remote s).1 = ((d.perform q).runOn p'.remote s').1) ∧
    ∀ (τ : Type) (b : Peer τ) (t : τ) (service root text : String) (timeout : Option Duration),
      ((ObjectTree.fetch service root timeout).runOn b.remote t).1 ≠
        .error (.malformedReply text) := by
  have hanswer : (p.remote.answer d.listingCall s).1 = (p'.remote.answer d.listingCall s').1 :=
    Peer.answer_eq_of_same hr hr' hsame
  refine ⟨hanswer, fun snapshot hsnapshot => ?_, fun c objects hd hnamed hlisted hlisting => ?_,
    fun q => Directory.query_result_eq hanswer, fun τ b t service root text timeout => ?_⟩
  · obtain ⟨body, -, hread⟩ := Peer.exists_reply_of_answer hsnapshot
    exact ⟨Wire.readReply?_inOrder hread, ObjectTree.fetch_of_answer hsnapshot⟩
  · exact Peer.answer_mirrors hd.1 hd.2 hr hnamed hlisted hlisting
  · exact ObjectTree.fetch_ne_malformedReply b t service root text timeout

/-! ## One state in two orders -/

namespace Peer.Reordered

open Peer.Scripted (listing)

/-- A peer that lists some objects, whatever it is asked. -/
def peer (objects : WireObjects) : Peer Unit where
  deliver _ _ := (.reply [listing objects], ())

/-- The path `/lamp`. -/
def lamp : ObjectPath := ⟨"/lamp", by decide⟩

/-- The value of a property that is a dictionary itself, with a charge and a color. -/
def nearState : Wire.Value :=
  .dict .text .variant
    [(.text "Charge", .variant (.byte 80)), (.text "Color", .variant (.text "red"))]

/-- The same value in another order. -/
def farState : Wire.Value :=
  .dict .text .variant
    [(.text "Color", .variant (.text "red")), (.text "Charge", .variant (.byte 80))]

/-- An adapter and a lamp. -/
def near : WireObjects :=
  [(ObjectPath.root,
    [(Interface.adapter, [("Alias", .text "desk"), ("State", nearState)])]),
   (lamp, [])]

/-- The same, with everything in another order. -/
def far : WireObjects :=
  [(lamp, []),
   (ObjectPath.root,
    [(Interface.adapter, [("State", farState), ("Alias", .text "desk")])])]

theorem near_same_far : (listing near).Same (listing far) := by
  have hstate : nearState.Same farState :=
    .of_perm (by simp) (.swap _ _ _) _ _
  have hprops : Wire.Value.Same
      (.dict .text .variant
        (Scripted.propertyEntries [("Alias", .text "desk"), ("State", nearState)]))
      (.dict .text .variant
        (Scripted.propertyEntries [("State", farState), ("Alias", .text "desk")])) :=
    .dict (.cons _ (.refl _) (.cons _ (.variant hstate) .nil)) (by simp) (.swap _ _ _)
  have hinterfaces := Wire.Value.Same.dict (k := .text) (v := .dict .text .variant)
    (.cons (.text Interface.adapter) hprops .nil) (by simp) (.refl _)
  exact .dict (.cons _ hinterfaces (.cons _ (.refl _) .nil)) (by simp [ObjectPath.root, lamp])
    (.swap _ _ _)

/-- The two replies differ, and their snapshots and adapters do not. -/
theorem snapshots_agree :
    listing near ≠ listing far ∧ (listing near).Same (listing far) ∧
      let d : Directory := ⟨.session, .standard⟩
      ((peer near).remote.answer d.listingCall ()).1 = .ok (Wire.decodeObjects near) ∧
        ((peer far).remote.answer d.listingCall ()).1 = .ok (Wire.decodeObjects near) ∧
        (Wire.decodeObjects near).InOrder ∧
        ((d.perform .adapters).runOn (peer near).remote ()).1 =
          ((d.perform .adapters).runOn (peer far).remote ()).1 := by
  obtain ⟨hanswer, horder, -, hquery, -⟩ := Peer.snapshot_determined (peer near) (peer far) () ()
    ⟨.session, .standard⟩ rfl rfl near_same_far
  have hnear : ((peer near).remote.answer (Directory.listingCall ⟨.session, .standard⟩) ()).1 =
      .ok (Wire.decodeObjects near) := by
    rfl
  refine ⟨fun h => ?_, near_same_far, hnear, hanswer ▸ hnear, (horder _ hnear).1,
    hquery _ .adapters⟩
  simp [listing, near, far, lamp, ObjectPath.root] at h

end Peer.Reordered

end BluetoothDirectory
