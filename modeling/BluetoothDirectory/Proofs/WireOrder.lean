import BluetoothDirectory.Proofs.Listing

/-!
# The order of dictionaries

Dictionaries on the bus come in no order of their own. `Wire.Value.Same` relates values that differ
only in the order in which dictionaries list their entries, at any depth; such values are decoded
alike, and so are the lists of objects that they may be.
-/

namespace BluetoothDirectory.Wire

namespace Value

mutual

/-- Two values are the same, except that dictionaries in them, at any depth, may list their entries
in another order. Where a dictionary does, its keys are distinct. -/
inductive Same : Value → Value → Prop
  | refl (v : Value) : Same v v
  | variant {v w : Value} (content : Same v w) : Same (.variant v) (.variant w)
  | array {t : Ty} {l m : List Value} (items : SameItems l m) : Same (.array t l) (.array t m)
  | struct {l m : List Value} (fields : SameItems l m) : Same (.struct l) (.struct m)
  | dict {k v : Ty} {l m n : List (Value × Value)} (entries : SameEntries l m)
      (distinct : (m.map Prod.fst).Nodup) (order : m.Perm n) : Same (.dict k v l) (.dict k v n)

/-- The same values, one by one. -/
inductive SameItems : List Value → List Value → Prop
  | nil : SameItems [] []
  | cons {v w : Value} {l m : List Value} (first : Same v w) (rest : SameItems l m) :
      SameItems (v :: l) (w :: m)

/-- The same keys with the same values, entry by entry. -/
inductive SameEntries : List (Value × Value) → List (Value × Value) → Prop
  | nil : SameEntries [] []
  | cons {v w : Value} {l m : List (Value × Value)} (key : Value) (first : Same v w)
      (rest : SameEntries l m) : SameEntries ((key, v) :: l) ((key, w) :: m)

end

theorem SameEntries.refl (l : List (Value × Value)) : SameEntries l l := by
  induction l with
  | nil => exact .nil
  | cons e rest ih => exact .cons e.1 (.refl e.2) ih

/-- Another order alone. -/
theorem Same.of_perm {l m : List (Value × Value)} (distinct : (l.map Prod.fst).Nodup)
    (order : l.Perm m) (k v : Ty) : Same (.dict k v l) (.dict k v m) :=
  .dict (.refl l) distinct order

/-! ## Types -/

mutual

theorem Same.ty_eq {v w : Value} (h : Same v w) : v.ty = w.ty := by
  cases h with
  | refl => rfl
  | variant content => rfl
  | array items => rfl
  | struct fields => simp only [ty, SameItems.tys_eq fields]
  | dict entries distinct order => rfl

theorem SameItems.tys_eq {l m : List Value} (h : SameItems l m) : tys l = tys m := by
  cases h with
  | nil => rfl
  | cons first rest => simp only [tys, Same.ty_eq first, SameItems.tys_eq rest]

end

theorem Same.text?_eq {v w : Value} (h : Same v w) : v.text? = w.text? := by
  cases h <;> rfl

theorem Same.byte?_eq {v w : Value} (h : Same v w) : v.byte? = w.byte? := by
  cases h <;> rfl

/-- Of the same values, if they are not equal, both are dictionaries of a type, or neither is. -/
theorem Same.dict_cases {v w : Value} (h : Same v w) (k t : Ty) :
    v = w ∨
    (∃ l m n, v = .dict k t l ∧ w = .dict k t n ∧ SameEntries l m ∧ (m.map Prod.fst).Nodup ∧
      m.Perm n) ∨
    (∀ l, v = .dict k t l → False) ∧ ∀ l, w = .dict k t l → False := by
  cases h with
  | refl => exact .inl rfl
  | variant | array | struct => exact .inr (.inr ⟨nofun, nofun⟩)
  | @dict k' t' l m n entries distinct order =>
      by_cases hty : k' = k ∧ t' = t
      · obtain ⟨rfl, rfl⟩ := hty
        exact .inr (.inl ⟨l, m, n, rfl, rfl, entries, distinct, order⟩)
      · refine .inr (.inr ⟨fun l hl => ?_, fun l hl => ?_⟩) <;> cases hl <;> exact hty ⟨rfl, rfl⟩

/-- What does not tell the same values apart finds the same among the same items. -/
theorem SameItems.filterMap_eq {α : Type} {f : Value → Option α}
    (hf : ∀ {v w : Value}, Same v w → f v = f w) {l m : List Value} (h : SameItems l m) :
    l.filterMap f = m.filterMap f := by
  cases h with
  | nil => rfl
  | cons first rest =>
      rw [List.filterMap_cons, List.filterMap_cons, hf first, SameItems.filterMap_eq hf rest]

/-! ## Entries in another order -/

section Order

variable {α : Type} {f : Value × Value → Option (String × α)}

/-- Entries with different keys are read as pairs with different keys. -/
def KeepsKeys (f : Value × Value → Option (String × α)) : Prop :=
  ∀ {a b : Value × Value} {a' b' : String × α},
    f a = some a' → f b = some b' → a'.1 = b'.1 → a.1 = b.1

theorem KeepsKeys.nodup (hf : KeepsKeys f) {l : List (Value × Value)}
    (h : (l.map Prod.fst).Nodup) : ((l.filterMap f).map Prod.fst).Nodup := by
  induction l with
  | nil => exact List.nodup_nil
  | cons e rest ih =>
      obtain ⟨he, hrest⟩ := List.nodup_cons.mp h
      rw [List.filterMap_cons]
      cases hfe : f e with
      | none => exact ih hrest
      | some e' =>
          refine List.nodup_cons.mpr ⟨fun hmem => ?_, ih hrest⟩
          obtain ⟨d', hd', hkey⟩ := List.mem_map.mp hmem
          obtain ⟨d, hd, hfd⟩ := List.mem_filterMap.mp hd'
          exact he (List.mem_map.mpr ⟨d, hd, hf hfd hfe hkey⟩)

/-- Entries with distinct keys make the same map in any order. -/
theorem ofList_filterMap_perm (hf : KeepsKeys f) {m n : List (Value × Value)}
    (distinct : (m.map Prod.fst).Nodup) (order : m.Perm n) :
    SortedMap.ofList (m.filterMap f) = SortedMap.ofList (n.filterMap f) :=
  SortedMap.ofList_perm (order.filterMap f) (hf.nodup distinct)

/-- The same where every entry has to be readable. -/
theorem ofList_mapM_perm (hf : KeepsKeys f) {m n : List (Value × Value)}
    (distinct : (m.map Prod.fst).Nodup) (order : m.Perm n) :
    (m.mapM f).map SortedMap.ofList = (n.mapM f).map SortedMap.ofList := by
  rw [mapM_eq_ite, mapM_eq_ite, order.all_eq]
  split
  · exact congrArg some (ofList_filterMap_perm hf distinct order)
  · rfl

/-- The same entries are read alike by what does not tell the same values apart. -/
theorem SameEntries.mapM_eq (hf : ∀ (k : Value) {v w : Value}, Same v w → f (k, v) = f (k, w))
    {l m : List (Value × Value)} (h : SameEntries l m) : l.mapM f = m.mapM f := by
  cases h with
  | nil => rfl
  | cons key first rest =>
      rw [List.mapM_cons, List.mapM_cons, hf key first, SameEntries.mapM_eq hf rest]

/-- What does not tell the same values apart, and keeps keys apart, makes the same map of the same
dictionaries. -/
theorem SameEntries.ofList_mapM_eq
    (hf : ∀ (k : Value) {v w : Value}, Same v w → f (k, v) = f (k, w)) (hkeys : KeepsKeys f)
    {l m n : List (Value × Value)} (entries : SameEntries l m)
    (distinct : (m.map Prod.fst).Nodup) (order : m.Perm n) :
    (l.mapM f).map SortedMap.ofList = (n.mapM f).map SortedMap.ofList := by
  rw [entries.mapM_eq hf]
  exact ofList_mapM_perm hkeys distinct order

end Order

/-! ## Property values -/

/-- The entry of a dictionary from texts to variants, if it is one. -/
def pair? : Value × Value → Option (String × Variant)
  | (text k, variant v) => some (k, v.toVariant)
  | _ => none

theorem pair?_eq_none {e : Value × Value} (h : ∀ k v, e = (text k, variant v) → False) :
    pair? e = none := by
  unfold pair?
  split
  · exact (h _ _ rfl).elim
  · rfl

theorem toVariants_eq (l : List (Value × Value)) : toVariants l = l.filterMap pair? := by
  induction l with
  | nil => rfl
  | cons e rest ih =>
      rw [List.filterMap_cons, ← ih]
      by_cases he : ∃ k v, e = (text k, variant v)
      · obtain ⟨k, v, rfl⟩ := he
        rfl
      · have hother : ∀ k v, e = (text k, variant v) → False := fun k v h => he ⟨k, v, h⟩
        rw [pair?_eq_none hother]
        exact toVariants.eq_3 e rest hother

theorem pair?_keepsKeys : KeepsKeys pair? := by
  intro a b a' b' ha hb hkey
  unfold pair? at ha hb
  split at ha <;> cases ha
  split at hb <;> cases hb
  exact congrArg text hkey

theorem toVariant_dict_of_ne {k v : Ty} (h : ¬ (k = .text ∧ v = .variant))
    (l : List (Value × Value)) :
    (dict k v l).toVariant = .unsupported (Ty.dict k v).signatureText := by
  refine toVariant.eq_15 _ ?_ ?_ ?_ ?_ ?_ ?_ ?_ ?_ ?_ ?_ ?_ ?_ ?_ ?_ <;> intro _ heq <;> cases heq
  exact h ⟨rfl, rfl⟩

mutual

/-- **The same values are decoded alike.** -/
theorem Same.toVariant_eq {v w : Value} (h : Same v w) : v.toVariant = w.toVariant := by
  cases h with
  | refl => rfl
  | variant content => rfl
  | @array t l m items =>
      cases t
      case text =>
        rw [toVariant, toVariant, items.filterMap_eq Same.text?_eq]
      case byte =>
        rw [toVariant, toVariant, items.filterMap_eq Same.byte?_eq]
      all_goals rfl
  | struct fields =>
      show Variant.unsupported (ty _).signatureText = Variant.unsupported (ty _).signatureText
      rw [Same.ty_eq (.struct fields)]
  | @dict k v l m n entries distinct order =>
      -- the entries are looked at in dictionaries of one type only; of others the type is all
      by_cases hty : k = .text ∧ v = .variant
      · obtain ⟨rfl, rfl⟩ := hty
        rw [toVariant, toVariant, SameEntries.toVariants_eq entries, toVariants_eq, toVariants_eq,
          ofList_filterMap_perm pair?_keepsKeys distinct order]
      · rw [toVariant_dict_of_ne hty, toVariant_dict_of_ne hty]

theorem SameEntries.toVariants_eq {l m : List (Value × Value)} (h : SameEntries l m) :
    toVariants l = toVariants m := by
  cases h with
  | nil => rfl
  | @cons v w l m key first rest =>
      -- an entry counts if its value is a variant, and then so is the same value
      have hentry : pair? (key, v) = pair? (key, w) := by
        cases first with
        | variant content =>
            cases key
            case text k => simp only [pair?, Same.toVariant_eq content]
            all_goals rfl
        | _ => cases key <;> rfl
      have hrest := SameEntries.toVariants_eq rest
      rw [toVariants_eq, toVariants_eq] at hrest ⊢
      rw [List.filterMap_cons, List.filterMap_cons, hentry, hrest]

end

end Value

/-! ## Lists of objects -/

open Value (KeepsKeys Same SameEntries)

theorem snapshot_eq {l m n : List (Value × Value)} (entries : SameEntries l m)
    (distinct : (m.map Prod.fst).Nodup) (order : m.Perm n) : snapshot l = snapshot n := by
  unfold snapshot
  rw [entries.toVariants_eq, Value.toVariants_eq, Value.toVariants_eq,
    Value.ofList_filterMap_perm Value.pair?_keepsKeys distinct order]

theorem interfaceEntry?_eq_none {k v : Value}
    (h : ∀ props, v = .dict .text .variant props → False) : interfaceEntry? (k, v) = none := by
  unfold interfaceEntry?
  split
  · rename_i heq
    cases heq
    exact (h _ rfl).elim
  · rfl

theorem interfaceEntry?_same (k : Value) {v w : Value} (h : Same v w) :
    interfaceEntry? (k, v) = interfaceEntry? (k, w) := by
  rcases h.dict_cases .text .variant with rfl | ⟨l, m, n, rfl, rfl, entries, distinct, order⟩ |
    ⟨hv, hw⟩
  · rfl
  · cases k
    case text name => simp only [snapshot_eq entries distinct order, interfaceEntry?]
    all_goals rfl
  · rw [interfaceEntry?_eq_none hv, interfaceEntry?_eq_none hw]

theorem interfaceEntry?_keepsKeys : KeepsKeys interfaceEntry? := by
  have hkey : ∀ {e : Value × Value} {e' : String × Snapshot}, interfaceEntry? e = some e' →
      e.1 = .text e'.1 := by
    intro e e' he
    unfold interfaceEntry? at he
    split at he
    · split at he <;> cases he
      rfl
    · cases he
  intro a b a' b' ha hb heq
  rw [hkey ha, hkey hb, heq]

theorem interfaces?_eq {l m n : List (Value × Value)} (entries : SameEntries l m)
    (distinct : (m.map Prod.fst).Nodup) (order : m.Perm n) : interfaces? l = interfaces? n := by
  have hmaps := entries.ofList_mapM_eq interfaceEntry?_same interfaceEntry?_keepsKeys distinct order
  have hentries := congrArg (Option.map SortedMap.entries) hmaps
  rwa [Option.map_map, Option.map_map] at hentries

theorem objectEntry?_eq_none {k v : Value}
    (h : ∀ entries, v = .dict .text (.dict .text .variant) entries → False) :
    objectEntry? (k, v) = none := by
  unfold objectEntry?
  split
  · rename_i heq
    cases heq
    exact (h _ rfl).elim
  · rfl

theorem objectEntry?_same (k : Value) {v w : Value} (h : Same v w) :
    objectEntry? (k, v) = objectEntry? (k, w) := by
  rcases h.dict_cases .text (.dict .text .variant) with
    rfl | ⟨l, m, n, rfl, rfl, entries, distinct, order⟩ | ⟨hv, hw⟩
  · rfl
  · cases k
    case objectPath p => simp only [interfaces?_eq entries distinct order, objectEntry?]
    all_goals rfl
  · rw [objectEntry?_eq_none hv, objectEntry?_eq_none hw]

/-- The object of an entry is kept under the text of its path, with ascending interfaces. -/
theorem objectEntry?_eq_some {e : Value × Value}
    {e' : String × ObjectPath × List (String × Snapshot)} (h : objectEntry? e = some e') :
    e.1 = .objectPath e'.2.1 ∧ e'.1 = e'.2.1.text ∧
      e'.2.2.Pairwise fun i j => i.1 < j.1 := by
  unfold objectEntry? at h
  split at h
  · rename_i p entries
    cases hi : interfaces? entries with
    | none => rw [hi] at h; cases h
    | some i =>
        rw [hi] at h
        cases h
        refine ⟨rfl, rfl, ?_⟩
        obtain ⟨pairs, -, rfl⟩ := Option.map_eq_some_iff.mp hi
        exact SortedMap.sorted _
  · cases h

theorem objectEntry?_keepsKeys : KeepsKeys objectEntry? := by
  intro a b a' b' ha hb heq
  obtain ⟨hkey, htext, -⟩ := objectEntry?_eq_some ha
  obtain ⟨hkey', htext', -⟩ := objectEntry?_eq_some hb
  rw [hkey, hkey', ObjectPath.ext_text (htext.symm.trans (heq.trans htext'))]

/-- What is read from a reply that lists objects is a dictionary of objects. -/
theorem readReply?_eq_some {root : String} {body : List Value} {reply : ManagedObjects}
    (h : (Request.managedObjects root).readReply? body = some reply) :
    ∃ entries, body = [.dict .objectPath (.dict .text (.dict .text .variant)) entries] ∧
      managedObjects? entries = some reply := by
  by_cases hbody :
      ∃ entries, body = [.dict .objectPath (.dict .text (.dict .text .variant)) entries]
  · obtain ⟨entries, rfl⟩ := hbody
    exact ⟨entries, rfl, h⟩
  · rw [Request.readReply?] at h
    case x_4 => exact fun _ entries _ heq => hbody ⟨entries, heq⟩
    · cases h
    all_goals exact nofun

/-- **The same replies list the same objects**: the order in which a reply lists its entries, at any
level, makes no difference to what is read from it. -/
theorem readReply?_same (root : String) {r r' : Value} (h : Same r r') :
    (Request.managedObjects root).readReply? [r] =
      (Request.managedObjects root).readReply? [r'] := by
  have hnone : ∀ {v : Value},
      (∀ l, v = .dict .objectPath (.dict .text (.dict .text .variant)) l → False) →
      (Request.managedObjects root).readReply? [v] = none := by
    intro v hv
    refine Option.eq_none_iff_forall_ne_some.mpr fun reply hreply => ?_
    obtain ⟨l, hl, -⟩ := readReply?_eq_some hreply
    exact hv l (List.singleton_inj.mp hl)
  rcases h.dict_cases .objectPath (.dict .text (.dict .text .variant)) with
    rfl | ⟨l, m, n, rfl, rfl, entries, distinct, order⟩ | ⟨hr, hr'⟩
  · rfl
  · have hmaps := entries.ofList_mapM_eq objectEntry?_same objectEntry?_keepsKeys distinct order
    have hobjects := congrArg (Option.map fun m => m.entries.map (·.2)) hmaps
    rwa [Option.map_map, Option.map_map] at hobjects
  · rw [hnone hr, hnone hr']

/-- A list of objects that was read ascends by path, and the interfaces of each object by name. -/
theorem readReply?_sorted {root : String} {body : List Value} {reply : ManagedObjects}
    (h : (Request.managedObjects root).readReply? body = some reply) :
    (reply.Pairwise fun a b => a.1.text < b.1.text) ∧
      ∀ o ∈ reply, o.2.Pairwise fun i j => i.1 < j.1 := by
  obtain ⟨entries, -, hreply⟩ := readReply?_eq_some h
  obtain ⟨pairs, hpairs, rfl⟩ := Option.map_eq_some_iff.mp hreply
  have hread : ∀ o ∈ pairs, o.1 = o.2.1.text ∧ o.2.2.Pairwise fun i j => i.1 < j.1 := by
    rw [mapM_eq_ite] at hpairs
    split at hpairs <;> cases hpairs
    intro o ho
    obtain ⟨e, -, he⟩ := List.mem_filterMap.mp ho
    exact (objectEntry?_eq_some he).2
  constructor
  · rw [List.pairwise_map]
    refine (SortedMap.sorted _).imp_of_mem fun {a b} ha hb hab => ?_
    rwa [(hread a (SortedMap.mem_ofList ha)).1, (hread b (SortedMap.mem_ofList hb)).1] at hab
  · intro o ho
    obtain ⟨e, he, rfl⟩ := List.mem_map.mp ho
    exact (hread e (SortedMap.mem_ofList he)).2

/-! ## Listings of one content -/

open Peer.Scripted (listing propertyEntries)

theorem Value.SameEntries.of_map {α : Type} {key : α → Value} {f g : α → Value} {l : List α}
    (h : ∀ a ∈ l, Same (f a) (g a)) :
    SameEntries (l.map fun a => (key a, f a)) (l.map fun a => (key a, g a)) := by
  induction l with
  | nil => exact .nil
  | cons a rest ih =>
      exact .cons (key a) (h a (by simp)) (ih fun b hb => h b (List.mem_cons_of_mem a hb))

/-- Dictionaries that list one map are the same, if the values that stand for one are. -/
theorem Value.Same.of_lists {κ β γ : Type} [DecidableEq κ] {R : β → γ → Prop}
    {l l' : List (κ × β)} {m : κ → Option γ} (h : Lists R l m) (h' : Lists R l' m) (k t : Ty)
    {key : κ → Value} (hkey : Function.Injective key) (value : β → Value)
    (hvalue : ∀ a b c, R a c → R b c → Same (value a) (value b)) :
    Same (.dict k t (l.map fun e => (key e.1, value e.2)))
      (.dict k t (l'.map fun e => (key e.1, value e.2))) := by
  -- first the values of the one list are put in place of those of the other, then the order
  obtain ⟨f, hperm, hf⟩ := h.exists_perm h'
  have hentries : SameEntries (l.map fun e => (key e.1, value e.2))
      (l.map fun e => (key e.1, value (f e))) :=
    .of_map fun e he => by
      obtain ⟨c, hec, hfc⟩ := hf e he
      exact hvalue _ _ _ hec hfc
  have horder := hperm.map fun e => (key e.1, value e.2)
  rw [List.map_map] at horder
  refine .dict hentries ?_ horder
  have hdistinct := h.1.map hkey
  rwa [List.map_map] at hdistinct ⊢

/-- **Two listings of one content are the same**, in whatever order they list it. -/
theorem Content.ListedBy.same {c : Content} {objects objects' : WireObjects}
    (h : c.ListedBy objects) (h' : c.ListedBy objects') :
    Same (listing objects) (listing objects') := by
  refine .of_lists h h' _ _ (fun _ _ => Value.objectPath.inj)
    (fun interfaces => .dict .text (.dict .text .variant) (interfaces.map fun i =>
      (.text i.1, .dict .text .variant (propertyEntries i.2)))) fun _ _ _ hi hi' => ?_
  refine .of_lists hi hi' _ _ (fun _ _ => Value.text.inj)
    (fun props => .dict .text .variant (propertyEntries props)) fun _ _ _ hp hp' => ?_
  refine .of_lists hp hp' _ _ (fun _ _ => Value.text.inj) .variant fun _ _ _ hv hv' => ?_
  rw [hv, hv']
  exact .refl _

end BluetoothDirectory.Wire
