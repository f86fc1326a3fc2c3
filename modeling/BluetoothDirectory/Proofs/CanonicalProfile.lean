import BluetoothDirectory.Proofs.MethodTable

/-!
# The form of profiles

A profile is given as an identifier in one of four ways to write it, `Uuid.Spelled`, and sent in
one form. Reading takes off what is written around the groups (`Uuid.unwrap_cases`), then the
hyphens between them (`Uuid.joinGroups?_eq_some_iff`) and leaves the digits, which are sent as small
letters in the same groups. So what is sent depends on the digits alone, and tells them.
-/

namespace BluetoothDirectory

namespace Uuid

/-! ## Ways to write an identifier -/

/-- The small digits. -/
def IsSmallHex (c : Char) : Prop :=
  ('0' ≤ c ∧ c ≤ '9') ∨ ('a' ≤ c ∧ c ≤ 'f')

/-- The hexadecimal digits of either case. -/
def IsHex (c : Char) : Prop :=
  IsSmallHex c ∨ ('A' ≤ c ∧ c ≤ 'F')

instance (c : Char) : Decidable (IsSmallHex c) := inferInstanceAs (Decidable (_ ∨ _))

instance (c : Char) : Decidable (IsHex c) := inferInstanceAs (Decidable (_ ∨ _))

/-- Characters in groups of some lengths, and the groups with a hyphen between each two. -/
inductive Grouped : List Nat → List Char → List Char → Prop
  | last {group : List Char} : Grouped [group.length] group group
  | next {group hex written : List Char} {n : Nat} {lengths : List Nat}
      (rest : Grouped (n :: lengths) hex written) :
      Grouped (group.length :: n :: lengths) (group ++ hex) (group ++ '-' :: written)

/-- The ways to write digits: on their own, in groups, and in groups between braces or after a
marker in letters of either case. -/
inductive Spelled (hex : List Char) : List Char → Prop
  | plain : Spelled hex hex
  | grouped {written : List Char} (groups : Grouped [8, 4, 4, 4, 12] hex written) :
      Spelled hex written
  | braced {written : List Char} (groups : Grouped [8, 4, 4, 4, 12] hex written) :
      Spelled hex ('\x7b' :: (written ++ ['\x7d']))
  | marked {mark written : List Char} (letters : mark.map Char.toLower = "urn:uuid:".toList)
      (groups : Grouped [8, 4, 4, 4, 12] hex written) : Spelled hex (mark ++ written)

/-- A text writes an identifier with 32 digits. -/
structure Writes (text : String) (hex : List Char) : Prop where
  digits : ∀ c ∈ hex, IsHex c
  length_eq : hex.length = 32
  spelled : Spelled hex text.toList

/-- The form in which digits are sent: small, in the same order, with hyphens at four places. -/
structure SentForm (hex : List Char) (sent : String) : Prop where
  length_eq : sent.length = 36
  hyphen_iff : ∀ i, sent.toList[i]? = some '-' ↔ i ∈ [8, 13, 18, 23]
  small : ∀ c ∈ sent.toList, c ≠ '-' → IsSmallHex c
  digits : sent.toList.filter (fun c => c ≠ '-') = hex.map Char.toLower

/-! ## Digits -/

/-- What is the case for the digits among the first characters is the case for all digits. -/
theorem forall_isHex {P : Char → Prop}
    (h : ∀ n < 128, IsHex (Char.ofNat n) → P (Char.ofNat n)) (c : Char) (hc : IsHex c) : P c := by
  have hle : c ≤ 'f' := by
    rcases hc with (⟨-, hc⟩ | ⟨-, hc⟩) | ⟨-, hc⟩
    · exact Char.le_trans hc (by decide)
    · exact hc
    · exact Char.le_trans hc (by decide)
  have hlt : c.toNat < 128 := by
    have hf : c.toNat ≤ 'f'.toNat := hle
    exact Nat.lt_of_le_of_lt hf (by decide)
  have hofNat := h c.toNat hlt
  rw [Char.ofNat_toNat] at hofNat
  exact hofNat hc

theorem exists_digit : ∀ c, IsHex c → ∃ d, digit? c = some d ∧ digitChar d = c.toLower :=
  forall_isHex (by decide)

theorem isHex_of_digit? {c : Char} {d : Fin 16} (h : digit? c = some d) : IsHex c := by
  unfold digit? Text.hexValue? at h
  split at h
  · rename_i hc
    exact .inl (.inl hc)
  · split at h
    · rename_i hc
      exact .inl (.inr hc)
    · split at h
      · rename_i hc
        exact .inr hc
      · cases h

theorem digit?_eq_some_iff {c : Char} {d : Fin 16} :
    digit? c = some d ↔ IsHex c ∧ digitChar d = c.toLower := by
  have hinj : ∀ d e, digitChar d = digitChar e → d = e := by decide
  constructor
  · intro h
    have hhex := isHex_of_digit? h
    obtain ⟨e, he, hlower⟩ := exists_digit c hhex
    rw [h, Option.some.injEq] at he
    rw [he]
    exact ⟨hhex, hlower⟩
  · rintro ⟨hhex, hlower⟩
    obtain ⟨e, he, hsame⟩ := exists_digit c hhex
    rw [he, hinj d e (hlower.trans hsame.symm)]

/-- Digits are read one by one. -/
theorem mapM_digit?_eq_some_iff {cs : List Char} {ds : List (Fin 16)} :
    cs.mapM digit? = some ds ↔
      (∀ c ∈ cs, IsHex c) ∧ ds.map digitChar = cs.map Char.toLower := by
  induction cs generalizing ds with
  | nil =>
      constructor
      · intro h
        cases h
        exact ⟨List.forall_mem_nil _, rfl⟩
      · rintro ⟨-, hds⟩
        rw [List.map_eq_nil_iff.mp hds]
        rfl
  | cons c cs ih =>
      simp only [List.mapM_cons, Option.bind_eq_bind, Option.bind_eq_some_iff, Option.pure_def,
        Option.some.injEq, digit?_eq_some_iff, ih, List.forall_mem_cons, List.map_cons]
      constructor
      · rintro ⟨d, ⟨hc, hd⟩, rest, ⟨hcs, hrest⟩, rfl⟩
        exact ⟨⟨hc, hcs⟩, by rw [List.map_cons, hd, hrest]⟩
      · rintro ⟨⟨hc, hcs⟩, hds⟩
        obtain ⟨d, rest, rfl, hd, hrest⟩ := List.map_eq_cons_iff.mp hds
        exact ⟨d, ⟨hc, hd⟩, rest, ⟨hcs, hrest⟩, rfl⟩

theorem ofDigits?_eq_some_iff {cs : List Char} {u : Uuid} :
    ofDigits? cs = some u ↔
      (∀ c ∈ cs, IsHex c) ∧ cs.length = 32 ∧ u.digits.map digitChar = cs.map Char.toLower := by
  unfold ofDigits?
  rw [Option.bind_eq_some_iff]
  constructor
  · rintro ⟨ds, hds, hu⟩
    obtain ⟨hhex, hsame⟩ := mapM_digit?_eq_some_iff.mp hds
    split at hu
    · rename_i hlength
      cases hu
      have hlengths := congrArg List.length hsame
      rw [List.length_map, List.length_map] at hlengths
      exact ⟨hhex, hlengths ▸ hlength, hsame⟩
    · cases hu
  · rintro ⟨hhex, -, hsame⟩
    refine ⟨u.digits, mapM_digit?_eq_some_iff.mpr ⟨hhex, hsame⟩, ?_⟩
    rw [dif_pos u.length_eq]

theorem exists_ofDigits? {cs : List Char} (hhex : ∀ c ∈ cs, IsHex c) (hlength : cs.length = 32) :
    ∃ u, ofDigits? cs = some u := by
  have hall : cs.all (fun c => (digit? c).isSome) = true := by
    refine List.all_eq_true.mpr fun c hc => ?_
    obtain ⟨d, hd, -⟩ := exists_digit c (hhex c hc)
    rw [hd, Option.isSome_some]
  have hds : cs.mapM digit? = some (cs.filterMap digit?) := by rw [mapM_eq_ite, if_pos hall]
  have hlengths := congrArg List.length (mapM_digit?_eq_some_iff.mp hds).2
  rw [List.length_map, List.length_map, hlength] at hlengths
  refine ⟨⟨cs.filterMap digit?, hlengths⟩, ?_⟩
  rw [ofDigits?, hds, Option.bind_some, dif_pos hlengths]

/-! ## Groups -/

theorem joinGroups?_eq_some_iff {n : Nat} {lengths : List Nat} {hex written : List Char} :
    joinGroups? (n :: lengths) written = some hex ↔ Grouped (n :: lengths) hex written := by
  induction lengths generalizing n hex written with
  | nil =>
      simp only [joinGroups?]
      constructor
      · intro h
        split at h
        · rename_i hlength
          cases h
          subst hlength
          exact .last
        · cases h
      · intro h
        cases h
        simp
  | cons m lengths ih =>
      constructor
      · intro h
        simp only [joinGroups?] at h
        split at h
        · rename_i hle
          split at h
          · rename_i c rest hdrop
            split at h
            · rename_i hc
              subst hc
              obtain ⟨tail, htail, rfl⟩ := Option.map_eq_some_iff.mp h
              have hwritten : written = written.take n ++ '-' :: rest := by
                rw [← hdrop, List.take_append_drop]
              have hlength : (written.take n).length = n := by
                rw [List.length_take, Nat.min_eq_left hle]
              have hnext : Grouped ((written.take n).length :: m :: lengths)
                  (written.take n ++ tail) (written.take n ++ '-' :: rest) := .next (ih.mp htail)
              rwa [hlength, ← hwritten] at hnext
            · cases h
          · cases h
        · cases h
      · intro h
        cases h with
        | next rest => simp [joinGroups?, ih.mpr rest]

/-- Groups can be made of any characters of their lengths. -/
theorem grouped_splitGroups {n : Nat} {lengths : List Nat} {hex : List Char}
    (h : hex.length = (n :: lengths).foldr (· + ·) 0) :
    Grouped (n :: lengths) hex (splitGroups (n :: lengths) hex) := by
  induction lengths generalizing n hex with
  | nil =>
      obtain rfl : hex.length = n := h
      exact .last
  | cons m lengths ih =>
      rw [List.foldr_cons] at h
      have hlength : (hex.take n).length = n := by
        rw [List.length_take]
        omega
      have hrest : (hex.drop n).length = (m :: lengths).foldr (· + ·) 0 := by
        rw [List.length_drop]
        omega
      have hnext : Grouped ((hex.take n).length :: m :: lengths) (hex.take n ++ hex.drop n)
          (splitGroups (n :: m :: lengths) hex) := .next (ih hrest)
      rwa [hlength, List.take_append_drop] at hnext

namespace Grouped

variable {lengths : List Nat} {hex written : List Char}

/-- The places of the hyphens between groups. -/
def hyphens : List Nat → List Nat
  | [] => []
  | [_] => []
  | n :: m :: lengths => n :: (hyphens (m :: lengths)).map (n + 1 + ·)

theorem getElem?_eq_hyphen_iff (h : Grouped lengths hex written) (hhex : '-' ∉ hex) (i : Nat) :
    written[i]? = some '-' ↔ i ∈ hyphens lengths := by
  have hnot {group : List Char} (hgroup : '-' ∉ group) (k : Nat) : group[k]? ≠ some '-' :=
    fun hk => hgroup (List.mem_of_getElem? hk)
  induction h generalizing i with
  | last => simp [hyphens, hnot hhex]
  | @next group hex written n lengths rest ih =>
      rw [List.mem_append, not_or] at hhex
      simp only [hyphens, List.mem_cons, List.mem_map]
      -- before the first hyphen, at it, and behind it
      rcases Nat.lt_trichotomy i group.length with hlt | rfl | hgt
      · rw [List.getElem?_append_left hlt]
        refine iff_of_false (hnot hhex.1 i) ?_
        rintro (rfl | ⟨k, -, rfl⟩) <;> omega
      · rw [List.getElem?_append_right (Nat.le_refl _)]
        simp
      · obtain ⟨k, rfl⟩ := Nat.exists_eq_add_of_lt hgt
        rw [List.getElem?_append_right (by omega),
          show group.length + k + 1 - group.length = k + 1 by omega, List.getElem?_cons_succ]
        refine (ih hhex.2 k).trans ?_
        constructor
        · exact fun hk => .inr ⟨k, hk, by omega⟩
        · rintro (heq | ⟨j, hj, heq⟩)
          · omega
          · obtain rfl : j = k := by omega
            exact hj

theorem filter_eq (h : Grouped lengths hex written) (hhex : '-' ∉ hex) :
    written.filter (fun c => c ≠ '-') = hex := by
  have hkeep {group : List Char} (hgroup : '-' ∉ group) :
      group.filter (fun c => c ≠ '-') = group := by
    refine List.filter_eq_self.mpr fun c hc => decide_eq_true ?_
    rintro rfl
    exact hgroup hc
  induction h with
  | last => exact hkeep hhex
  | next rest ih =>
      rw [List.mem_append, not_or] at hhex
      rw [List.filter_append, hkeep hhex.1, List.filter_cons_of_neg (by simp), ih hhex.2]

theorem length_eq (h : Grouped lengths hex written) :
    written.length = hex.length + (hyphens lengths).length := by
  induction h with
  | last => rfl
  | next rest ih =>
      simp only [hyphens, List.length_append, List.length_cons, List.length_map, ih]
      omega

/-- A group that is not empty is in front. -/
theorem exists_head {n : Nat} (h : Grouped (n :: lengths) hex written) (hn : n ≠ 0) :
    ∃ c rest, written = c :: rest ∧ c ∈ hex := by
  have hcons {group : List Char} (hgroup : group.length ≠ 0) : ∃ c rest, group = c :: rest :=
    List.exists_cons_of_ne_nil (mt List.length_eq_zero_iff.mpr hgroup)
  cases h with
  | last =>
      obtain ⟨c, rest, rfl⟩ := hcons hn
      exact ⟨c, rest, rfl, by simp⟩
  | next rest =>
      obtain ⟨c, group, rfl⟩ := hcons hn
      exact ⟨c, _, rfl, by simp⟩

end Grouped

/-! ## What is written around the groups -/

/-- What is taken off the characters stood around the others. -/
theorem unwrap_cases (cs : List Char) :
    cs = unwrap cs ∨ cs = '\x7b' :: (unwrap cs ++ ['\x7d']) ∨
      ∃ mark, mark.map Char.toLower = marker ∧ cs = mark ++ unwrap cs := by
  unfold unwrap
  split
  · rename_i rest
    split
    · rename_i hlast
      refine .inr (.inl (congrArg (List.cons _) ?_))
      exact (List.dropLast_append_getLast? _ hlast).symm
    · exact .inl rfl
  · split
    · rename_i hmarked
      refine .inr (.inr ⟨cs.take marker.length, ?_, (List.take_append_drop _ _).symm⟩)
      obtain ⟨rest, hrest⟩ := List.isPrefixOf_iff_prefix.mp hmarked
      rw [List.map_take, ← hrest, List.take_left]
    · exact .inl rfl

/-- Characters that begin with a digit stand neither between braces nor after the marker. -/
theorem unwrap_of_isHex {c : Char} (hc : IsHex c) (rest : List Char) :
    unwrap (c :: rest) = c :: rest := by
  have hnot : ∀ c, IsHex c → c ≠ '\x7b' ∧ c.toLower ≠ 'u' := forall_isHex (by decide)
  have hmarked : isMarked (c :: rest) ≠ true := by
    intro h
    obtain ⟨tail, htail⟩ := List.isPrefixOf_iff_prefix.mp h
    exact (hnot c hc).2 (List.cons.inj htail).1.symm
  unfold unwrap
  split
  · rename_i heq
    exact absurd (List.cons.inj heq).1 (hnot c hc).1
  · exact if_neg hmarked

theorem unwrap_braced (written : List Char) :
    unwrap ('\x7b' :: (written ++ ['\x7d'])) = written := by
  rw [unwrap, List.getLast?_concat, if_pos rfl, List.dropLast_concat]

theorem unwrap_marked {mark : List Char} (hmark : mark.map Char.toLower = marker)
    (written : List Char) : unwrap (mark ++ written) = written := by
  have hlength : marker.length = mark.length := by rw [← hmark, List.length_map]
  have hmarked : isMarked (mark ++ written) = true := by
    refine List.isPrefixOf_iff_prefix.mpr ⟨written.map Char.toLower, ?_⟩
    rw [List.map_append, hmark]
  unfold unwrap
  split
  · rename_i rest heq
    -- the marker does not begin with a brace
    obtain ⟨c, letters, rfl, hc, -⟩ := List.map_eq_cons_iff.mp hmark
    obtain rfl : c = '\x7b' := (List.cons.inj heq).1
    exact absurd hc (by decide)
  · rw [if_pos hmarked, hlength, List.drop_left]

/-! ## Reading and writing -/

/-- Only what writes an identifier is read. -/
theorem exists_writes {text : String} {u : Uuid} (h : ofString? text = some u) :
    ∃ hex, Writes text hex := by
  unfold ofString? at h
  dsimp only at h
  split at h
  · obtain ⟨hhex, hlength, -⟩ := ofDigits?_eq_some_iff.mp h
    exact ⟨text.toList, hhex, hlength, .plain⟩
  · obtain ⟨hex, hgroups, hdigits⟩ := Option.bind_eq_some_iff.mp h
    obtain ⟨hhex, hlength, -⟩ := ofDigits?_eq_some_iff.mp hdigits
    have hgrouped : Grouped groupLengths hex (unwrap text.toList) :=
      joinGroups?_eq_some_iff.mp hgroups
    refine ⟨hex, hhex, hlength, ?_⟩
    rcases unwrap_cases text.toList with hcs | hcs | ⟨mark, hmark, hcs⟩
    · rw [hcs]
      exact .grouped hgrouped
    · rw [hcs]
      exact .braced hgrouped
    · rw [hcs]
      exact .marked hmark hgrouped

/-- What is around groups of digits does not matter to what is read. -/
theorem ofString?_of_grouped {text : String} {hex : List Char} (hlength : text.toList.length ≠ 32)
    (h : Grouped groupLengths hex (unwrap text.toList)) : ofString? text = ofDigits? hex := by
  have hjoin : joinGroups? groupLengths (unwrap text.toList) = some hex :=
    joinGroups?_eq_some_iff.mpr h
  rw [ofString?, if_neg hlength, hjoin, Option.bind_some]

/-- All that writes the same digits is read as these digits. -/
theorem Writes.ofString?_eq {text : String} {hex : List Char} (h : Writes text hex) :
    ofString? text = ofDigits? hex := by
  obtain ⟨hhex, hlength, hspelled⟩ := h
  have hwritten {written : List Char} (hgroups : Grouped groupLengths hex written) :
      written.length = 36 := by
    rw [hgroups.length_eq, hlength]
    rfl
  generalize hcs : text.toList = cs at hspelled
  cases hspelled with
  | plain =>
      rw [ofString?, hcs, if_pos hlength]
  | grouped groups =>
      obtain ⟨c, rest, rfl, hc⟩ := groups.exists_head (by decide)
      refine ofString?_of_grouped ?_ ?_
      · rw [hcs, hwritten groups]
        decide
      · rwa [hcs, unwrap_of_isHex (hhex c hc)]
  | braced groups =>
      refine ofString?_of_grouped ?_ ?_
      · rw [hcs, List.length_cons, List.length_append, hwritten groups]
        decide
      · rwa [hcs, unwrap_braced]
  | marked letters groups =>
      refine ofString?_of_grouped ?_ ?_
      · have hmark := congrArg List.length letters
        rw [List.length_map] at hmark
        rw [hcs, List.length_append, hwritten groups, hmark]
        decide
      · rwa [hcs, unwrap_marked letters]

/-- The digits of an identifier are small, and none is a hyphen. -/
theorem isSmallHex_digitChar : ∀ d, IsSmallHex (digitChar d) ∧ digitChar d ≠ '-' := by
  decide

theorem hyphen_notMem (u : Uuid) : '-' ∉ u.digits.map digitChar := by
  intro h
  obtain ⟨d, -, hd⟩ := List.mem_map.mp h
  exact (isSmallHex_digitChar d).2 hd

theorem grouped_text (u : Uuid) :
    Grouped groupLengths (u.digits.map digitChar) u.text.toList := by
  rw [text, String.toList_ofList]
  exact grouped_splitGroups (by rw [List.length_map, u.length_eq]; rfl)

/-- An identifier is sent in the form of any digits that are read as it. -/
theorem sentForm_text {u : Uuid} {hex : List Char}
    (h : u.digits.map digitChar = hex.map Char.toLower) : SentForm hex u.text where
  length_eq := by
    rw [← String.length_toList, u.grouped_text.length_eq, List.length_map, u.length_eq]
    rfl
  hyphen_iff := u.grouped_text.getElem?_eq_hyphen_iff u.hyphen_notMem
  small c hc hne := by
    have hdigit : c ∈ u.text.toList.filter (fun c => c ≠ '-') :=
      List.mem_filter.mpr ⟨hc, decide_eq_true hne⟩
    rw [u.grouped_text.filter_eq u.hyphen_notMem] at hdigit
    obtain ⟨d, -, rfl⟩ := List.mem_map.mp hdigit
    exact (isSmallHex_digitChar d).1
  digits := by
    rw [u.grouped_text.filter_eq u.hyphen_notMem, h]

/-- What is sent is an identifier in one of the ways to write it. -/
theorem writes_text (u : Uuid) : Writes u.text (u.digits.map digitChar) where
  digits c hc := by
    obtain ⟨d, -, rfl⟩ := List.mem_map.mp hc
    exact .inl (isSmallHex_digitChar d).1
  length_eq := by rw [List.length_map, u.length_eq]
  spelled := .grouped u.grouped_text

/-- What is sent is read as the identifier that it is sent for. -/
theorem ofString?_text (u : Uuid) : ofString? u.text = some u := by
  have hsmall : ∀ d, (digitChar d).toLower = digitChar d := by decide
  refine u.writes_text.ofString?_eq.trans (ofDigits?_eq_some_iff.mpr ⟨u.writes_text.digits, ?_, ?_⟩)
  · exact u.writes_text.length_eq
  · rw [List.map_map]
    exact List.map_congr_left fun d _ => (hsmall d).symm

end Uuid

/-! ## Profiles -/

open Uuid (Writes SentForm)

/-- What writes an identifier is sent as its digits in small letters. -/
theorem Uuid.Writes.exists_profile {text : String} {hex : List Char} (h : Writes text hex) :
    ∃ u : Uuid, u.digits.map digitChar = hex.map Char.toLower ∧
      Device.profile text = .ok u.text := by
  obtain ⟨u, hu⟩ := exists_ofDigits? h.digits h.length_eq
  refine ⟨u, (ofDigits?_eq_some_iff.mp hu).2.2, ?_⟩
  rw [Device.profile, h.ofString?_eq, hu]

theorem Device.profile_text (u : Uuid) : Device.profile u.text = .ok u.text := by
  rw [profile, u.ofString?_text]

theorem Device.profile_of_not_writes {text : String} (h : ∀ hex, ¬ Writes text hex) :
    Device.profile text = .error (.invalidUuid text) := by
  unfold profile
  cases hu : Uuid.ofString? text with
  | none => rfl
  | some u =>
      obtain ⟨hex, hhex⟩ := Uuid.exists_writes hu
      exact absurd hhex (h hex)

namespace Device

/-- What connects and disconnects a profile, with the member that each invokes. -/
def profileOperations (v : Device) (text : String) : List (String × Operation Unit) :=
  [("ConnectProfile", v.connectProfile text), ("DisconnectProfile", v.disconnectProfile text)]

/-- Whatever the device and the remote are, connecting and disconnecting a profile asks one call,
with one argument. -/
def ProfileSent (text sent : String) : Prop :=
  ∀ v : Device, ∀ e ∈ v.profileOperations text, ∀ {σ : Type} (remote : Remote σ) (s : σ),
    e.2.callsOn remote s =
      [⟨v.properties.service, v.properties.timeout,
        .method v.path.text Interface.device e.1 [.text sent]⟩]

/-- Whatever the device and the remote are, connecting and disconnecting a profile asks nothing and
is refused with the text that was given. -/
def ProfileRefused (text : String) : Prop :=
  ∀ v : Device, ∀ e ∈ v.profileOperations text, ∀ {σ : Type} (remote : Remote σ) (s : σ),
    e.2.callsOn remote s = [] ∧ e.2.runOn remote s = (.error (.invalidUuid text), s)

theorem act_eq_once (v : Device) (member : String) (arguments : List Variant) :
    v.act member arguments =
      Operation.once ⟨v.properties.service, v.properties.timeout,
        .method v.path.text Interface.device member arguments⟩ fun _ => .ok () := by
  show (Operation.ask _ >>= fun _ => Operation.ofExcept (.ok ())) = _
  rw [Operation.ask_eq_once, Operation.once_bind_ofExcept]
  rfl

theorem profileSent_of_profile {text sent : String} (h : profile text = .ok sent) :
    ProfileSent text sent := by
  intro v
  simp only [profileOperations, connectProfile, disconnectProfile, Operation.ofExcept_bind, h,
    act_eq_once, List.forall_mem_cons, Operation.callsOn_once, List.not_mem_nil, false_implies,
    implies_true, and_self]

theorem profileRefused_of_profile {text : String}
    (h : profile text = .error (.invalidUuid text)) : ProfileRefused text := by
  intro v
  simp only [profileOperations, connectProfile, disconnectProfile, Operation.ofExcept_bind, h,
    List.forall_mem_cons, Operation.callsOn_ofExcept, Operation.runOn_ofExcept, List.not_mem_nil,
    false_implies, implies_true, and_self]

/-- What is sent for a profile is one text. -/
theorem ProfileSent.unique {text sent sent' : String} (h : ProfileSent text sent)
    (h' : ProfileSent text sent') : sent = sent' := by
  have hcalls {sent : String} (h : ProfileSent text sent) :=
    h ⟨default⟩ ("ConnectProfile", connectProfile ⟨default⟩ text) (by simp [profileOperations])
      ⟨fun _ s => (.error (.invalidUuid ""), s)⟩ ()
  have heq := (hcalls h).symm.trans (hcalls h')
  simpa using heq

/-- **Profiles are sent in one form.** A text that writes an identifier is sent as its digits in
small letters, in groups with hyphens between them, which is sent as it is when it is given itself;
any other text is refused without a call. What is sent depends on the digits alone, without their
case, and differs where these differ. -/
theorem profiles_sent_in_one_form :
    (∀ text : String,
      (∃ sent, ProfileSent text sent ∧ ProfileSent sent sent ∧ (∃ hex, Writes text hex) ∧
        ∀ hex, Writes text hex → SentForm hex sent) ∨
      (∀ hex, ¬ Writes text hex) ∧ ProfileRefused text) ∧
    ∀ (text text' sent sent' : String) (hex hex' : List Char),
      Writes text hex → Writes text' hex' → ProfileSent text sent → ProfileSent text' sent' →
        (sent = sent' ↔ hex.map Char.toLower = hex'.map Char.toLower) := by
  have hsent {text : String} {hex : List Char} (h : Writes text hex) :
      ∃ u : Uuid, u.digits.map Uuid.digitChar = hex.map Char.toLower ∧
        ProfileSent text u.text := by
    obtain ⟨u, hu, hprofile⟩ := h.exists_profile
    exact ⟨u, hu, profileSent_of_profile hprofile⟩
  constructor
  · intro text
    by_cases hwrites : ∃ hex, Writes text hex
    · obtain ⟨hex, hhex⟩ := hwrites
      obtain ⟨u, -, hu⟩ := hsent hhex
      refine .inl ⟨u.text, hu, profileSent_of_profile (profile_text u), ⟨hex, hhex⟩, ?_⟩
      intro hex' hhex'
      obtain ⟨u', hlower, hu'⟩ := hsent hhex'
      rw [hu.unique hu']
      exact Uuid.sentForm_text hlower
    · have hnot := not_exists.mp hwrites
      exact .inr ⟨hnot, profileRefused_of_profile (profile_of_not_writes hnot)⟩
  · intro text text' sent sent' hex hex' hhex hhex' hs hs'
    obtain ⟨u, hu, husent⟩ := hsent hhex
    obtain ⟨u', hu', husent'⟩ := hsent hhex'
    rw [hs.unique husent, hs'.unique husent']
    constructor
    · intro heq
      rw [← (Uuid.sentForm_text hu).digits, heq, (Uuid.sentForm_text hu').digits]
    · intro heq
      rw [Uuid.text, Uuid.text, hu, hu', heq]

/-- The profile of a speaker is sent alike when it is given in capitals between braces and when it is
given as digits alone. -/
theorem speaker_sent_alike :
    ∃ sent, ProfileSent "\x7b0000110B-0000-1000-8000-00805F9B34FB\x7d" sent ∧
      ProfileSent "0000110b00001000800000805f9b34fb" sent := by
  have hbraced : Writes "\x7b0000110B-0000-1000-8000-00805F9B34FB\x7d"
      "0000110B00001000800000805F9B34FB".toList := by
    refine ⟨List.forall_iff_forall_mem.mp (by decide), by decide, ?_⟩
    show Uuid.Spelled _ ('\x7b' :: ("0000110B-0000-1000-8000-00805F9B34FB".toList ++ ['\x7d']))
    exact .braced (Uuid.joinGroups?_eq_some_iff.mp (by decide))
  have hplain : Writes "0000110b00001000800000805f9b34fb"
      "0000110b00001000800000805f9b34fb".toList :=
    ⟨List.forall_iff_forall_mem.mp (by decide), by decide, .plain⟩
  obtain ⟨sent, hsent, -⟩ :=
    (profiles_sent_in_one_form.1 _).resolve_right fun h => h.1 _ hbraced
  obtain ⟨sent', hsent', -⟩ :=
    (profiles_sent_in_one_form.1 _).resolve_right fun h => h.1 _ hplain
  have hsame : sent = sent' :=
    (profiles_sent_in_one_form.2 _ _ _ _ _ _ hbraced hplain hsent hsent').mpr (by decide)
  exact ⟨sent, hsent, hsame ▸ hsent'⟩

end Device

end BluetoothDirectory
