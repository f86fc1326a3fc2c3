import BluetoothDirectory.SortedMap
import BluetoothDirectory.Store
import Mathlib.Data.List.Dedup
import Mathlib.Data.List.Nodup
import Mathlib.Logic.Function.Basic

/-!
# Lists of pairs as maps

Objects, interfaces and properties are all lists of pairs with a key. Here are the facts about
looking up, updating and sorting such lists, and `Describes`, which relates a list to a map whose
values are of another sort: under each key both have a value, and then related ones, or neither.
Lists are read item by item, all of them or nothing (`mapM_eq_ite`).
-/

namespace BluetoothDirectory

section Lookup

variable {κ β γ : Type} [DecidableEq κ]

theorem mem_of_lookup {k : κ} {v : β} {l : List (κ × β)} (h : l.lookup k = some v) :
    (k, v) ∈ l := by
  obtain ⟨front, back, rfl, -⟩ := List.lookup_eq_some_iff.mp h
  simp

theorem lookup_eq_none_iff_notMem {k : κ} {l : List (κ × β)} :
    l.lookup k = none ↔ k ∉ l.map Prod.fst := by
  simp only [List.lookup_eq_none_iff, bne_iff_ne, List.mem_map, not_exists, not_and]
  exact ⟨fun h e he heq => h e he heq.symm, fun h e he heq => h e he heq.symm⟩

theorem lookup_of_mem {k : κ} {v : β} {l : List (κ × β)} (hl : (l.map Prod.fst).Nodup)
    (h : (k, v) ∈ l) : l.lookup k = some v := by
  induction l with
  | nil => cases h
  | cons e rest ih =>
      obtain ⟨i, u⟩ := e
      obtain ⟨hi, hrest⟩ := List.nodup_cons.mp hl
      rw [SortedMap.lookup_cons_eq]
      rcases List.mem_cons.mp h with heq | hmem
      · cases heq
        exact if_pos rfl
      · rw [if_neg, ih hrest hmem]
        rintro rfl
        exact hi (List.mem_map.mpr ⟨_, hmem, rfl⟩)

/-- Where no key is repeated, it does not matter from which end one looks. -/
theorem lookup_reverse {l : List (κ × β)} (hl : (l.map Prod.fst).Nodup) (k : κ) :
    l.reverse.lookup k = l.lookup k := by
  by_cases hk : k ∈ l.map Prod.fst
  · obtain ⟨⟨i, v⟩, he, rfl⟩ := List.mem_map.mp hk
    have hrev : (l.reverse.map Prod.fst).Nodup := by
      rw [List.map_reverse]
      exact List.nodup_reverse.mpr hl
    rw [lookup_of_mem hl he, lookup_of_mem hrev (List.mem_reverse.mpr he)]
  · rw [lookup_eq_none_iff_notMem.mpr hk, lookup_eq_none_iff_notMem.mpr]
    rwa [List.map_reverse, List.mem_reverse]

/-- Where no key is repeated, the order does not matter for looking up. -/
theorem lookup_perm {l l' : List (κ × β)} (h : l.Perm l') (hl : (l.map Prod.fst).Nodup) (k : κ) :
    l.lookup k = l'.lookup k := by
  have hkeys : (l.map Prod.fst).Perm (l'.map Prod.fst) := h.map Prod.fst
  by_cases hk : k ∈ l.map Prod.fst
  · obtain ⟨⟨i, v⟩, he, rfl⟩ := List.mem_map.mp hk
    rw [lookup_of_mem hl he, lookup_of_mem (hkeys.nodup_iff.mp hl) (h.mem_iff.mp he)]
  · rw [lookup_eq_none_iff_notMem.mpr hk, lookup_eq_none_iff_notMem.mpr (mt hkeys.mem_iff.mpr hk)]

theorem lookup_map_snd (g : κ → β → γ) (k : κ) (l : List (κ × β)) :
    (l.map fun e => (e.1, g e.1 e.2)).lookup k = (l.lookup k).map (g k) := by
  induction l with
  | nil => rfl
  | cons e rest ih =>
      rw [List.map_cons, SortedMap.lookup_cons_eq, SortedMap.lookup_cons_eq, ih]
      by_cases h : k = e.1 <;> simp [h]

theorem find?_of_lookup {k : κ} {v : β} {l : List (κ × β)} (h : l.lookup k = some v) :
    l.find? (fun e => e.1 == k) = some (k, v) := by
  induction l with
  | nil => cases h
  | cons e rest ih =>
      obtain ⟨i, u⟩ := e
      rw [SortedMap.lookup_cons_eq] at h
      split at h
      · rename_i hk
        cases h
        simp [hk]
      · rename_i hk
        rw [List.find?_cons_of_neg (by simpa using Ne.symm hk)]
        exact ih h

/-- Lists in strictly ascending order that hold the same under each key are the same. -/
theorem eq_of_lookup_eq {r : κ → κ → Prop} (hr : ∀ a b, r a b → ¬ r b a)
    {l l' : List (κ × β)} (hl : l.Pairwise fun a b => r a.1 b.1)
    (hl' : l'.Pairwise fun a b => r a.1 b.1) (h : ∀ k, l.lookup k = l'.lookup k) : l = l' := by
  induction l generalizing l' with
  | nil =>
      cases l' with
      | nil => rfl
      | cons e' rest' =>
          have hfirst := h e'.1
          rw [SortedMap.lookup_cons_eq, if_pos rfl] at hfirst
          cases hfirst
  | cons e rest ih =>
      cases l' with
      | nil =>
          have hfirst := h e.1
          rw [SortedMap.lookup_cons_eq, if_pos rfl] at hfirst
          cases hfirst
      | cons e' rest' =>
          obtain ⟨k, v⟩ := e
          obtain ⟨k', v'⟩ := e'
          obtain ⟨hhead, hrest⟩ := List.pairwise_cons.mp hl
          obtain ⟨hhead', hrest'⟩ := List.pairwise_cons.mp hl'
          have hkey := h k
          have hkey' := h k'
          simp only [SortedMap.lookup_cons_eq, if_true] at hkey hkey'
          -- of two different first keys each would have to stand behind the other
          have hk : k = k' := by
            by_contra hne
            rw [if_neg hne] at hkey
            rw [if_neg (Ne.symm hne)] at hkey'
            exact hr _ _ (hhead' _ (mem_of_lookup hkey.symm)) (hhead _ (mem_of_lookup hkey'))
          subst hk
          rw [if_pos rfl] at hkey
          obtain rfl : v = v' := Option.some.inj hkey
          have hirrefl : ∀ a, ¬ r a a := fun a ha => hr a a ha ha
          refine congrArg (List.cons (k, v)) (ih hrest hrest' fun j => ?_)
          by_cases hj : j = k
          · -- the key at the front is not among the others, on either side
            subst hj
            rw [lookup_eq_none_iff_notMem.mpr, lookup_eq_none_iff_notMem.mpr]
            · intro hmem
              obtain ⟨e, he, heq⟩ := List.mem_map.mp hmem
              exact hirrefl e.1 (by simpa [heq] using hhead' e he)
            · intro hmem
              obtain ⟨e, he, heq⟩ := List.mem_map.mp hmem
              exact hirrefl e.1 (by simpa [heq] using hhead e he)
          · have hother := h j
            rwa [SortedMap.lookup_cons_eq, SortedMap.lookup_cons_eq, if_neg hj, if_neg hj] at hother

end Lookup

/-! ## The last value of a key -/

section Last

variable {κ β γ : Type} [DecidableEq κ]

/-- The last value that a list gives for a key. -/
def lastUnder? (k : κ) (l : List (κ × β)) : Option β :=
  l.reverse.lookup k

/-- What is behind comes before what is in front. -/
theorem lastUnder?_append (k : κ) (l m : List (κ × β)) :
    lastUnder? k (l ++ m) = (lastUnder? k m).or (lastUnder? k l) := by
  unfold lastUnder?
  rw [List.reverse_append, List.lookup_append]

theorem lastUnder?_cons (k : κ) (e : κ × β) (l : List (κ × β)) :
    lastUnder? k (e :: l) = (lastUnder? k l).or (if k = e.1 then some e.2 else none) := by
  rw [← List.singleton_append, lastUnder?_append]
  obtain ⟨i, v⟩ := e
  show (lastUnder? k l).or ([(i, v)].lookup k) = _
  rw [SortedMap.lookup_cons_eq]
  rfl

/-- One pair among others counts for its own key only, unless the key comes again behind it. -/
theorem lastUnder?_between (k j : κ) (v : β) (l m : List (κ × β)) :
    lastUnder? k (l ++ (j, v) :: m) =
      (lastUnder? k m).or (if k = j then some v else lastUnder? k l) := by
  rw [lastUnder?_append, lastUnder?_cons, Option.or_assoc]
  by_cases h : k = j
  · simp [h]
  · simp [h]

theorem lastUnder?_eq_none_iff {k : κ} {l : List (κ × β)} :
    lastUnder? k l = none ↔ k ∉ l.map Prod.fst := by
  induction l with
  | nil => simp [lastUnder?]
  | cons e rest ih =>
      rw [lastUnder?_cons, Option.or_eq_none_iff, ih, List.map_cons, List.mem_cons, not_or]
      by_cases h : k = e.1
      · simp [h]
      · simp [h]

/-- The last value of a key stands where the key does not come again. -/
theorem lastUnder?_eq_some_iff {k : κ} {v : β} {l : List (κ × β)} :
    lastUnder? k l = some v ↔
      ∃ front back, l = front ++ (k, v) :: back ∧ k ∉ back.map Prod.fst := by
  constructor
  · intro h
    obtain ⟨behind, before, hsplit, hbehind⟩ := List.lookup_eq_some_iff.mp h
    refine ⟨before.reverse, behind.reverse, ?_, fun hk => ?_⟩
    · rw [← l.reverse_reverse, hsplit]
      simp
    · obtain ⟨e, he, rfl⟩ := List.mem_map.mp hk
      simpa using hbehind e (List.mem_reverse.mp he)
  · rintro ⟨front, back, rfl, hback⟩
    rw [lastUnder?_between, lastUnder?_eq_none_iff.mpr hback, if_pos rfl]
    rfl

theorem lastUnder?_map_snd (g : β → γ) (k : κ) (l : List (κ × β)) :
    lastUnder? k (l.map fun e => (e.1, g e.2)) = (lastUnder? k l).map g := by
  unfold lastUnder?
  rw [← List.map_reverse, lookup_map_snd fun _ v => g v]

/-- The pairs that are the last ones with their keys. -/
def lastOnes (l : List (κ × β)) : List (κ × β) :=
  l.pwFilter fun a b => a.1 ≠ b.1

theorem nodup_lastOnes (l : List (κ × β)) : ((lastOnes l).map Prod.fst).Nodup :=
  List.pairwise_map.mpr (List.pairwise_pwFilter l)

theorem lastOnes_subset (l : List (κ × β)) : lastOnes l ⊆ l :=
  List.pwFilter_subset l

/-- A pair is left out exactly if its key comes again behind it. -/
theorem lastOnes_cons (e : κ × β) (l : List (κ × β)) :
    lastOnes (e :: l) =
      if e.1 ∈ (lastOnes l).map Prod.fst then lastOnes l else e :: lastOnes l := by
  unfold lastOnes
  split
  · rename_i h
    obtain ⟨d, hd, hkey⟩ := List.mem_map.mp h
    exact List.pwFilter_cons_of_neg fun hall => hall d hd hkey.symm
  · rename_i h
    refine List.pwFilter_cons_of_pos fun d hd hkey => h ?_
    exact List.mem_map.mpr ⟨d, hd, hkey.symm⟩

/-- What is left has the last value of each key. -/
theorem lookup_lastOnes (k : κ) (l : List (κ × β)) :
    (lastOnes l).lookup k = lastUnder? k l := by
  induction l with
  | nil => rfl
  | cons e rest ih =>
      rw [lastOnes_cons, lastUnder?_cons, ← ih]
      split
      · rename_i h
        by_cases hk : k = e.1
        · obtain ⟨d, hd, hkey⟩ := List.mem_map.mp h
          rw [hk, ← hkey, lookup_of_mem (nodup_lastOnes rest) hd]
          rfl
        · simp [hk]
      · rename_i h
        obtain ⟨i, v⟩ := e
        rw [SortedMap.lookup_cons_eq]
        by_cases hk : k = i
        · subst hk
          simp [lookup_eq_none_iff_notMem.mpr h]
        · simp [hk]

end Last

/-! ## Updating the first pair with a key -/

section UpdateFirst

variable {κ β γ : Type} {p : κ → Bool} {f : β → β}

theorem map_updateFirst {g : κ × β → γ} (h : ∀ k v, p k = true → g (k, f v) = g (k, v))
    (l : List (κ × β)) : (updateFirst p f l).map g = l.map g := by
  induction l with
  | nil => rfl
  | cons e rest ih =>
      obtain ⟨k, v⟩ := e
      simp only [updateFirst]
      split
      · rename_i hk
        simp only [List.map_cons, h k v hk]
      · simp only [List.map_cons, ih]

/-- The keys stay as they are, so an ascending list stays ascending. -/
theorem pairwise_updateFirst {r : κ → κ → Prop} {l : List (κ × β)}
    (h : l.Pairwise fun a b => r a.1 b.1) :
    (updateFirst p f l).Pairwise fun a b => r a.1 b.1 := by
  have hkeys : (updateFirst p f l).map Prod.fst = l.map Prod.fst :=
    map_updateFirst (f := f) (fun _ _ _ => rfl) l
  rw [← List.pairwise_map (f := Prod.fst) (R := r)] at h ⊢
  rwa [hkeys]

theorem find?_updateFirst_self (l : List (κ × β)) :
    (updateFirst p f l).find? (fun e => p e.1) =
      (l.find? fun e => p e.1).map fun e => (e.1, f e.2) := by
  induction l with
  | nil => rfl
  | cons e rest ih =>
      obtain ⟨k, v⟩ := e
      simp only [updateFirst]
      by_cases hk : p k = true
      · simp [hk]
      · simp [hk, ih]

theorem find?_updateFirst_ne {q : κ → Bool} (h : ∀ k, p k = true → q k = false)
    (l : List (κ × β)) :
    (updateFirst p f l).find? (fun e => q e.1) = l.find? fun e => q e.1 := by
  induction l with
  | nil => rfl
  | cons e rest ih =>
      obtain ⟨k, v⟩ := e
      simp only [updateFirst]
      by_cases hk : p k = true
      · simp [hk, h k hk]
      · simp [hk, List.find?_cons, ih]

theorem lookup_updateFirst [DecidableEq κ] {i : κ} (hp : ∀ k, p k = true ↔ k = i) (j : κ)
    (l : List (κ × β)) :
    (updateFirst p f l).lookup j = if j = i then (l.lookup i).map f else l.lookup j := by
  induction l with
  | nil => simp [updateFirst]
  | cons e rest ih =>
      obtain ⟨k, v⟩ := e
      simp only [updateFirst, hp]
      by_cases hk : k = i
      · subst hk
        by_cases hj : j = k
        · simp [hj]
        · simp [hj, SortedMap.lookup_cons_eq]
      · simp only [hk, if_false, SortedMap.lookup_cons_eq, ih]
        by_cases hj : j = i
        · simp [hj, Ne.symm hk]
        · simp [hj]

theorem mem_updateFirst {l : List (κ × β)} {e : κ × β} (h : e ∈ updateFirst p f l) :
    e ∈ l ∨ ∃ v, p e.1 = true ∧ (e.1, v) ∈ l ∧ e.2 = f v := by
  induction l with
  | nil => cases h
  | cons d rest ih =>
      obtain ⟨k, v⟩ := d
      simp only [updateFirst] at h
      split at h
      · rename_i hk
        rcases List.mem_cons.mp h with rfl | h
        · exact .inr ⟨v, hk, by simp, rfl⟩
        · exact .inl (by simp [h])
      · rcases List.mem_cons.mp h with rfl | h
        · exact .inl (by simp)
        · rcases ih h with h | ⟨v', hk, hmem, heq⟩
          · exact .inl (by simp [h])
          · exact .inr ⟨v', hk, by simp [hmem], heq⟩

/-- Where there is a pair whose key is meant, the first one changes and nothing else. -/
theorem updateFirst_split {l : List (κ × β)} {e : κ × β}
    (h : l.find? (fun e => p e.1) = some e) :
    ∃ front back, l = front ++ e :: back ∧ (∀ d ∈ front, p d.1 = false) ∧
      updateFirst p f l = front ++ (e.1, f e.2) :: back := by
  induction l with
  | nil => cases h
  | cons d rest ih =>
      obtain ⟨k, v⟩ := d
      by_cases hk : p k = true
      · simp only [List.find?_cons, hk, Option.some.injEq] at h
        subst h
        exact ⟨[], rest, rfl, by simp, by simp [updateFirst, hk]⟩
      · simp only [List.find?_cons, hk] at h
        obtain ⟨front, back, hl, hfront, hupdate⟩ := ih h
        refine ⟨(k, v) :: front, back, by simp [hl], ?_, by simp [updateFirst, hk, hupdate]⟩
        intro d hd
        rcases List.mem_cons.mp hd with rfl | hd
        · simpa using hk
        · exact hfront d hd

end UpdateFirst

/-! ## Sorted maps -/

namespace SortedMap

variable {α : Type}

/-- Of the values given for one key the last counts. -/
theorem get?_ofList (pairs : List (String × α)) (k : String) :
    (ofList pairs).get? k = pairs.reverse.lookup k := by
  -- the induction needs any map to start from, whose values count last
  have hfold : ∀ m : SortedMap α, (pairs.foldl (fun m p => m.insert p.1 p.2) m).get? k =
      (pairs.reverse.lookup k).or (m.get? k) := by
    induction pairs with
    | nil => exact fun m => rfl
    | cons p rest ih =>
        intro m
        rw [List.foldl_cons, ih, get?_insert, List.reverse_cons, List.lookup_append,
          SortedMap.lookup_cons_eq]
        cases rest.reverse.lookup k with
        | some v => rfl
        | none => by_cases h : k = p.1 <;> simp [h]
  rw [ofList, hfold empty]
  cases pairs.reverse.lookup k <;> rfl

/-- Maps with the same value under every key are the same. -/
theorem ext_get? {m n : SortedMap α} (h : ∀ k, m.get? k = n.get? k) : m = n := by
  have hentries : m.entries = n.entries :=
    eq_of_lookup_eq (r := fun i j => i < j) (fun _ _ => String.lt_asymm) m.sorted n.sorted h
  cases m
  cases n
  simpa using hentries

theorem lookup_ofList {pairs : List (String × α)} (h : (pairs.map Prod.fst).Nodup) (k : String) :
    (ofList pairs).entries.lookup k = pairs.lookup k :=
  (get?_ofList pairs k).trans (lookup_reverse h k)

/-- A map does not depend on the order of the pairs it is made of, if no key is repeated. -/
theorem ofList_perm {pairs pairs' : List (String × α)} (h : pairs.Perm pairs')
    (hpairs : (pairs.map Prod.fst).Nodup) : ofList pairs = ofList pairs' := by
  refine ext_get? fun k => ?_
  have hpairs' := (h.map Prod.fst).nodup_iff.mp hpairs
  exact (lookup_ofList hpairs k).trans
    ((lookup_perm h hpairs k).trans (lookup_ofList hpairs' k).symm)

theorem mem_ofList {pairs : List (String × α)} {e : String × α}
    (h : e ∈ (ofList pairs).entries) : e ∈ pairs := by
  have hfold : ∀ m : SortedMap α, e ∈ (pairs.foldl (fun m p => m.insert p.1 p.2) m).entries →
      e ∈ m.entries ∨ e ∈ pairs := by
    clear h
    induction pairs with
    | nil => exact fun m h => .inl h
    | cons p rest ih =>
        intro m h
        rcases ih (m.insert p.1 p.2) h with h | h
        · rcases mem_insertEntry h with rfl | h
          · exact .inr (by simp)
          · exact .inl h
        · exact .inr (List.mem_cons_of_mem p h)
  rcases hfold empty h with h | h
  · cases h
  · exact h

end SortedMap

/-! ## Lists that describe a map -/

/-- A list describes a map when under each key it holds something related to what the map has
there, and nothing where the map has nothing. -/
def Describes {κ β γ : Type} [DecidableEq κ] (R : β → γ → Prop) (l : List (κ × β))
    (m : κ → Option γ) : Prop :=
  ∀ k, Option.Rel R (l.lookup k) (m k)

/-- A list of distinct keys that describes a map is a list of its entries, in some order. -/
def Lists {κ β γ : Type} [DecidableEq κ] (R : β → γ → Prop) (l : List (κ × β))
    (m : κ → Option γ) : Prop :=
  (l.map Prod.fst).Nodup ∧ Describes R l m

namespace Describes

variable {κ β β' γ : Type} [DecidableEq κ] {R : β → γ → Prop} {R' : β' → γ → Prop}
  {l l' : List (κ × β)} {m : κ → Option γ}

/-- What the map has under a key stands under it in the list. -/
theorem exists_of_eq_some (h : Describes R l m) {k : κ} {c : γ} (hk : m k = some c) :
    ∃ b, l.lookup k = some b ∧ R b c := by
  have hrel := h k
  rw [hk] at hrel
  cases hl : l.lookup k with
  | none => simp [hl] at hrel
  | some b =>
      rw [hl, Option.rel_some_some] at hrel
      exact ⟨b, rfl, hrel⟩

theorem map_snd (h : Describes R l m) {g : β → β'}
    (hg : ∀ k b c, (k, b) ∈ l → m k = some c → R b c → R' (g b) c) :
    Describes R' (l.map fun e => (e.1, g e.2)) m := by
  intro k
  have hk := h k
  rw [lookup_map_snd fun _ b => g b]
  cases hl : l.lookup k with
  | none =>
      cases hm : m k with
      | none => exact .none
      | some c =>
          rw [hl, hm] at hk
          cases hk
  | some b =>
      cases hm : m k with
      | none =>
          rw [hl, hm] at hk
          cases hk
      | some c =>
          rw [hl, hm] at hk
          exact .some (hg k b c (mem_of_lookup hl) hm (Option.rel_some_some.mp hk))

/-- A map is described by one list in strictly ascending order at most, if what stands for a value
does so uniquely. -/
theorem unique {r : κ → κ → Prop} (hr : ∀ a b, r a b → ¬ r b a)
    (hl : l.Pairwise fun a b => r a.1 b.1) (hl' : l'.Pairwise fun a b => r a.1 b.1)
    (h : Describes R l m) (h' : Describes R l' m)
    (huniq : ∀ k b b' c, (k, b) ∈ l → (k, b') ∈ l' → R b c → R b' c → b = b') : l = l' := by
  refine eq_of_lookup_eq hr hl hl' fun k => ?_
  have hk := h k
  have hk' := h' k
  cases hm : m k with
  | none =>
      rw [hm] at hk hk'
      cases hlk : l.lookup k <;> cases hlk' : l'.lookup k <;> simp_all
  | some c =>
      rw [hm] at hk hk'
      cases hlk : l.lookup k with
      | none => simp [hlk] at hk
      | some b =>
          cases hlk' : l'.lookup k with
          | none => simp [hlk'] at hk'
          | some b' =>
              rw [hlk, Option.rel_some_some] at hk
              rw [hlk', Option.rel_some_some] at hk'
              rw [huniq k b b' c (mem_of_lookup hlk) (mem_of_lookup hlk') hk hk']

/-- Changing what is under one key. -/
theorem update (h : Describes R l m) {p : κ → Bool} {i : κ} (hp : ∀ k, p k = true ↔ k = i)
    {f : β → β} {g : γ → γ} (hfg : ∀ b c, R b c → R (f b) (g c)) :
    Describes R (updateFirst p f l) (Function.update m i ((m i).map g)) := by
  intro j
  rw [lookup_updateFirst hp, Function.update_apply]
  by_cases hj : j = i
  · subst hj
    rw [if_pos rfl, if_pos rfl]
    have hj := h j
    cases hl : l.lookup j <;> cases hm : m j <;> simp_all
  · rw [if_neg hj, if_neg hj]
    exact h j

end Describes

theorem Lists.of_mem {κ β γ : Type} [DecidableEq κ] {R : β → γ → Prop} {l : List (κ × β)}
    {m : κ → Option γ} (h : Lists R l m) {e : κ × β} (he : e ∈ l) :
    ∃ c, m e.1 = some c ∧ R e.2 c := by
  have hk := h.2 e.1
  rw [lookup_of_mem h.1 he] at hk
  cases hm : m e.1 with
  | none => simp [hm] at hk
  | some c =>
      rw [hm, Option.rel_some_some] at hk
      exact ⟨c, rfl, hk⟩

/-- Two lists of one map have the same entries up to their order: with other values for its keys,
the one is the other. -/
theorem Lists.exists_perm {κ β γ : Type} [DecidableEq κ] {R : β → γ → Prop}
    {l l' : List (κ × β)} {m : κ → Option γ} (h : Lists R l m) (h' : Lists R l' m) :
    ∃ f : κ × β → β, (l.map fun e => (e.1, f e)).Perm l' ∧
      ∀ e ∈ l, ∃ c, R e.2 c ∧ R (f e) c := by
  have hfound : ∀ e ∈ l, ∃ b c, l'.lookup e.1 = some b ∧ R e.2 c ∧ R b c := by
    intro e he
    obtain ⟨c, hc, hec⟩ := h.of_mem he
    obtain ⟨b, hb, hbc⟩ := h'.2.exists_of_eq_some hc
    exact ⟨b, c, hb, hec, hbc⟩
  refine ⟨fun e => (l'.lookup e.1).getD e.2, ?_, fun e he => ?_⟩
  · have hkeys : ((l.map fun e => (e.1, (l'.lookup e.1).getD e.2)).map Prod.fst).Nodup := by
      rw [List.map_map]
      exact h.1
    refine (List.perm_ext_iff_of_nodup (.of_map _ hkeys) (.of_map _ h'.1)).mpr fun e => ⟨?_, ?_⟩
    · intro he
      obtain ⟨a, ha, rfl⟩ := List.mem_map.mp he
      obtain ⟨b, c, hb, -⟩ := hfound a ha
      rw [hb]
      exact mem_of_lookup hb
    · intro he
      obtain ⟨c, hc, -⟩ := h'.of_mem he
      obtain ⟨a, ha, -⟩ := h.2.exists_of_eq_some hc
      refine List.mem_map.mpr ⟨(e.1, a), mem_of_lookup ha, ?_⟩
      rw [lookup_of_mem h'.1 he]
      rfl
  · obtain ⟨b, c, hb, hec, hbc⟩ := hfound e he
    refine ⟨c, hec, ?_⟩
    show R ((l'.lookup e.1).getD e.2) c
    rwa [hb]

theorem Lists.map_snd {κ β β' γ : Type} [DecidableEq κ] {R : β → γ → Prop} {R' : β' → γ → Prop}
    {l : List (κ × β)} {m : κ → Option γ} (h : Lists R l m) {g : β → β'}
    (hg : ∀ k b c, (k, b) ∈ l → m k = some c → R b c → R' (g b) c) :
    Lists R' (l.map fun e => (e.1, g e.2)) m := by
  refine ⟨?_, h.2.map_snd hg⟩
  rw [List.map_map]
  exact h.1

/-- Sorting does not change what a list of distinct keys describes. -/
theorem Lists.ofList {β γ : Type} {R : β → γ → Prop} {pairs : List (String × β)}
    {m : String → Option γ} (h : Lists R pairs m) :
    Describes R (SortedMap.ofList pairs).entries m := by
  intro k
  rw [SortedMap.lookup_ofList h.1]
  exact h.2 k

/-- The entries of a sorted map list it. -/
theorem SortedMap.lists_entries {α : Type} (m : SortedMap α) : Lists Eq m.entries m.get? := by
  refine ⟨?_, fun k => ?_⟩
  · rw [List.nodup_iff_pairwise_ne, List.pairwise_map]
    refine m.sorted.imp fun {a b} hlt heq => ?_
    rw [heq] at hlt
    exact String.lt_irrefl _ hlt
  · show Option.Rel Eq (m.get? k) (m.get? k)
    cases m.get? k <;> simp

theorem SortedMap.get?_eq_none_iff {α : Type} {m : SortedMap α} {key : String} :
    m.get? key = none ↔ key ∉ m.entries.map Prod.fst := by
  rw [get?]
  exact lookup_eq_none_iff_notMem

/-- A map has the keys of the pairs that it is made of. -/
theorem SortedMap.mem_keys_ofList_iff {α : Type} {pairs : List (String × α)} {key : String} :
    key ∈ (ofList pairs).entries.map Prod.fst ↔ key ∈ pairs.map Prod.fst := by
  have hnone : (ofList pairs).get? key = none ↔ key ∉ pairs.map Prod.fst := by
    rw [get?_ofList]
    exact lastUnder?_eq_none_iff
  rw [← not_iff_not, ← get?_eq_none_iff, hnone]

/-! ## Reading all of a list -/

section ReadAll

variable {α β γ : Type}

/-- All of a list is read, or nothing. -/
theorem mapM_eq_ite (f : α → Option β) (l : List α) :
    l.mapM f = if l.all (fun a => (f a).isSome) then some (l.filterMap f) else none := by
  induction l with
  | nil => rfl
  | cons a rest ih =>
      rw [List.mapM_cons, ih, List.all_cons, List.filterMap_cons]
      cases f a with
      | none => rfl
      | some b => cases rest.all fun a => (f a).isSome <;> rfl

theorem mapM_map_eq_some {f : α → β} {g : β → Option γ} {h : α → γ} {l : List α}
    (hl : ∀ a ∈ l, g (f a) = some (h a)) : (l.map f).mapM g = some (l.map h) := by
  induction l with
  | nil => rfl
  | cons a rest ih =>
      have hrest := ih fun b hb => hl b (List.mem_cons_of_mem a hb)
      simp only [List.map_cons, List.mapM_cons, hl a (by simp), hrest]
      rfl

end ReadAll

end BluetoothDirectory
