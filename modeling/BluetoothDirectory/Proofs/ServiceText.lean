import BluetoothDirectory.ClassOfDevice.Document
import BluetoothDirectory.Proofs.KeyedList
import Mathlib.Data.List.DropRight

/-!
# Texts of service classes

A set of service classes is written as the names of its members and one number for the bits that
have no name. Reading goes by the words of the text, which are its parts without the blanks around
them (`ofText?_eq`), and takes the union of their bits. So what is written is read back, whichever
of the 32 bits are set (`ofText?_text`), and neither blanks nor the order of the words nor their
repetition change what is read (`Respelled.ofText?_eq`).
-/

namespace BluetoothDirectory.ServiceClasses

/-! ## Parts of a text -/

section Parts

variable {cs part rest : List Char}

theorem parts_ne_nil (cs : List Char) : parts cs ≠ [] := by
  cases cs with
  | nil => simp [parts]
  | cons c rest =>
      rw [parts]
      split
      · simp
      · split <;> simp

theorem parts_of_notMem (h : separator ∉ cs) : parts cs = [cs] := by
  induction cs with
  | nil => rfl
  | cons c rest ih =>
      have hc : c ≠ separator := fun hc => h (by simp [hc])
      have hrest : separator ∉ rest := fun hmem => h (by simp [hmem])
      rw [parts, if_neg hc, ih hrest]

theorem parts_append (h : separator ∉ part) :
    parts (part ++ separator :: rest) = part :: parts rest := by
  induction part with
  | nil => simp [parts]
  | cons c part ih =>
      have hc : c ≠ separator := fun hc => h (by simp [hc])
      have hpart : separator ∉ part := fun hmem => h (by simp [hmem])
      rw [List.cons_append, parts, if_neg hc, ih hpart]

/-- Only a text without separators is its own one part. -/
theorem eq_of_parts_eq_singleton (h : parts cs = [part]) : cs = part := by
  by_cases hmem : separator ∈ cs
  · obtain ⟨front, back, rfl, hfront⟩ := List.eq_append_cons_of_mem hmem
    rw [parts_append hfront] at h
    exact absurd (List.cons.inj h).2 (parts_ne_nil back)
  · rw [parts_of_notMem hmem] at h
    exact (List.cons.inj h).1

/-- Parts that are put together with separators are found again. -/
theorem parts_intercalate {pieces : List (List Char)} (hne : pieces ≠ [])
    (h : ∀ p ∈ pieces, separator ∉ p) : parts ([separator].intercalate pieces) = pieces := by
  induction pieces with
  | nil => exact absurd rfl hne
  | cons p rest ih =>
      have hp : separator ∉ p := h p (by simp)
      cases rest with
      | nil => simpa using parts_of_notMem hp
      | cons q rest =>
          have hrest := ih (by simp) fun r hr => h r (by simp [hr])
          rw [List.intercalate_cons_cons, List.append_assoc, List.singleton_append,
            parts_append hp, hrest]

end Parts

/-! ## Blanks around parts -/

section Blanks

variable {cs blanks : List Char}

theorem trim_eq_rdropWhile (cs : List Char) :
    trim cs = (cs.dropWhile Unicode.isBlank).rdropWhile Unicode.isBlank := rfl

theorem trim_blanks_append (h : ∀ c ∈ blanks, Unicode.isBlank c = true) (cs : List Char) :
    trim (blanks ++ cs) = trim cs := by
  rw [trim, trim, List.dropWhile_append_of_pos h]

theorem trim_append_blanks (h : ∀ c ∈ blanks, Unicode.isBlank c = true) (cs : List Char) :
    trim (cs ++ blanks) = trim cs := by
  unfold trim
  rw [List.dropWhile_append]
  split
  · rename_i hempty
    rw [List.dropWhile_eq_nil_iff.mpr h, List.isEmpty_iff.mp hempty]
  · have hreverse : ∀ c ∈ blanks.reverse, Unicode.isBlank c = true :=
      fun c hc => h c (List.mem_reverse.mp hc)
    rw [List.reverse_append, List.dropWhile_append_of_pos hreverse]

theorem trim_eq_nil_iff : trim cs = [] ↔ ∀ c ∈ cs, Unicode.isBlank c = true := by
  rw [trim_eq_rdropWhile, List.rdropWhile_eq_nil_iff]
  constructor
  · intro h c hc
    rw [← List.takeWhile_append_dropWhile (p := Unicode.isBlank) (l := cs)] at hc
    rcases List.mem_append.mp hc with hc | hc
    · exact List.mem_takeWhile_imp hc
    · exact h c hc
  · exact fun h c hc => h c (List.dropWhile_subset _ hc)

theorem trim_of_not_blank (h : ∀ c ∈ cs, Unicode.isBlank c = false) : trim cs = cs := by
  have hfront : cs.dropWhile Unicode.isBlank = cs := by
    rw [List.dropWhile_eq_self_iff]
    intro hl
    simp [h _ (List.getElem_mem hl)]
  rw [trim_eq_rdropWhile, hfront, List.rdropWhile_eq_self_iff]
  intro hne
  simp [h _ (List.getLast_mem hne)]

end Blanks

/-! ## The words of a text -/

/-- The words of a text: its parts, without the blanks around them. -/
def words (cs : List Char) : List (List Char) :=
  (parts cs).map trim

theorem isBlank_separator : Unicode.isBlank separator = false := by
  decide

theorem isBlank_space : Unicode.isBlank ' ' = true := by
  decide

theorem notMem_of_blank {cs : List Char} (h : ∀ c ∈ cs, Unicode.isBlank c = true) :
    separator ∉ cs := by
  intro hmem
  have hblank := h separator hmem
  rw [isBlank_separator] at hblank
  cases hblank

/-- A blank text has one word, which is empty. -/
theorem words_eq_iff {cs : List Char} : words cs = [[]] ↔ trim cs = [] := by
  constructor
  · intro h
    obtain ⟨part, hparts, htrim⟩ := List.map_eq_singleton_iff.mp h
    rwa [eq_of_parts_eq_singleton hparts]
  · intro h
    have hmem : separator ∉ cs := notMem_of_blank (trim_eq_nil_iff.mp h)
    simp [words, parts_of_notMem hmem, h]

/-- A blank before a text belongs to no word. -/
theorem words_blank_cons {c : Char} (hc : Unicode.isBlank c = true) (cs : List Char) :
    words (c :: cs) = words cs := by
  have hall : ∀ d ∈ [c], Unicode.isBlank d = true := by simpa using hc
  have hne : c ≠ separator := fun heq => notMem_of_blank hall (by simp [heq])
  have htrim (p : List Char) : trim (c :: p) = trim p := trim_blanks_append hall p
  rw [words, words, parts, if_neg hne]
  cases hparts : parts cs with
  | nil => exact absurd hparts (parts_ne_nil cs)
  | cons p ps => simp [htrim]

/-- Words that are put together with separators between blanks are found again. -/
theorem words_intercalate {pieces : List (List Char)} (hne : pieces ≠ [])
    (hseparator : ∀ p ∈ pieces, separator ∉ p)
    (hblank : ∀ p ∈ pieces, ∀ c ∈ p, Unicode.isBlank c = false) :
    words ([' ', separator, ' '].intercalate pieces) = pieces := by
  induction pieces with
  | nil => exact absurd rfl hne
  | cons p rest ih =>
      have hp : separator ∉ p := hseparator p (by simp)
      have htrim : trim p = p := trim_of_not_blank (hblank p (by simp))
      cases rest with
      | nil => simp [words, parts_of_notMem hp, htrim]
      | cons q rest =>
          have hrest := ih (by simp) (fun r hr => hseparator r (by simp [hr]))
            fun r hr => hblank r (by simp [hr])
          have hpart : separator ∉ p ++ [' '] := by
            simp [hp, show separator ≠ ' ' by decide]
          have hsplit : [' ', separator, ' '].intercalate (p :: q :: rest) =
              (p ++ [' ']) ++ separator :: ' ' ::
                [' ', separator, ' '].intercalate (q :: rest) := by
            simp [List.intercalate_cons_cons]
          rw [hsplit, words, parts_append hpart, List.map_cons,
            trim_append_blanks (by simp [isBlank_space]), htrim]
          exact congrArg (List.cons p) ((words_blank_cons isBlank_space _).trans hrest)

/-- A text is read by its words. -/
theorem ofText?_eq (s : String) :
    ofText? s =
      if words s.toList = [[]] then some ⟨0⟩
      else ((words s.toList).mapM partBits?).map fun masks => ⟨masks.foldl (· ||| ·) 0⟩ := by
  have hmapM : (parts s.toList).mapM (fun p => partBits? (trim p)) =
      (words s.toList).mapM partBits? := by
    rw [words, List.mapM_map]
    rfl
  rw [ofText?, hmapM]
  simp only [List.isEmpty_iff, words_eq_iff]

/-! ## Bits -/

/-- A bit of a union is a bit of one of the masks. -/
theorem getLsbD_foldl_or (masks : List UInt32) (bits : UInt32) (i : Nat) :
    (masks.foldl (· ||| ·) bits).toBitVec.getLsbD i =
      (bits.toBitVec.getLsbD i || masks.any fun m => m.toBitVec.getLsbD i) := by
  induction masks generalizing bits with
  | nil => simp
  | cons m rest ih =>
      rw [List.foldl_cons, ih, UInt32.toBitVec_or, BitVec.getLsbD_or, List.any_cons,
        Bool.or_assoc]

theorem eq_of_getLsbD_eq {a b : UInt32}
    (h : ∀ i < 32, a.toBitVec.getLsbD i = b.toBitVec.getLsbD i) : a = b :=
  UInt32.eq_of_toBitVec_eq (BitVec.eq_of_getLsbD_eq h)

/-- A union is told by which masks it is of. -/
theorem foldl_or_congr {masks masks' : List UInt32} (h : ∀ m, m ∈ masks ↔ m ∈ masks') :
    masks.foldl (· ||| ·) 0 = masks'.foldl (· ||| ·) 0 := by
  refine eq_of_getLsbD_eq fun i _ => ?_
  rw [getLsbD_foldl_or, getLsbD_foldl_or, Bool.eq_iff_iff]
  simp only [Bool.or_eq_true, List.any_eq_true, h]

theorem bit_lt {f : Flag} (hf : f ∈ flags) : f.bit.toNat < 32 := by
  revert f
  decide

theorem toBitVec_mask {f : Flag} (hf : f ∈ flags) :
    f.mask.toBitVec = BitVec.twoPow 32 f.bit.toNat := by
  have hbit := bit_lt hf
  rw [BitVec.twoPow_eq, Flag.mask, UInt32.toBitVec_shiftLeft]
  simp [Nat.mod_eq_of_lt hbit]

theorem getLsbD_mask {f : Flag} (hf : f ∈ flags) (i : Nat) :
    f.mask.toBitVec.getLsbD i = decide (f.bit.toNat = i) := by
  rw [toBitVec_mask hf, BitVec.getLsbD_twoPow]
  simp [bit_lt hf]

/-- A service class belongs to a set by its bit. -/
theorem contains_eq {f : Flag} (hf : f ∈ flags) (s : ServiceClasses) :
    s.contains f = s.bits.toBitVec.getLsbD f.bit.toNat := by
  rw [contains, Bool.eq_iff_iff, beq_iff_eq, ← UInt32.toBitVec_inj, UInt32.toBitVec_and,
    toBitVec_mask hf, BitVec.and_twoPow]
  split
  · rename_i h
    simp [h]
  · rename_i h
    have hne : (0#32) ≠ BitVec.twoPow 32 f.bit.toNat := by
      intro heq
      have hbit := congrArg (fun v => v.getLsbD f.bit.toNat) heq
      simp [bit_lt hf] at hbit
    simp [h, hne]

theorem getLsbD_knownMask (i : Nat) :
    knownMask.toBitVec.getLsbD i = flags.any fun f => decide (f.bit.toNat = i) := by
  have hmask : knownMask = (flags.map Flag.mask).foldl (· ||| ·) 0 := by
    rw [List.foldl_map]
    rfl
  rw [hmask, getLsbD_foldl_or, List.any_map, Bool.eq_iff_iff]
  simp only [Bool.or_eq_true, List.any_eq_true, Function.comp_apply]
  constructor
  · rintro (h | ⟨f, hf, h⟩)
    · simp at h
    · exact ⟨f, hf, by rwa [getLsbD_mask hf] at h⟩
  · rintro ⟨f, hf, h⟩
    exact .inr ⟨f, hf, by rwa [getLsbD_mask hf]⟩

/-- The masks of what a set is written as: one for each member, and the bits without a name. -/
def writtenMasks (s : ServiceClasses) : List UInt32 :=
  s.members.map Flag.mask ++ if s.unknownBits = 0 then [] else [s.unknownBits]

/-- Nothing is lost between the members and the bits without a name. -/
theorem foldl_or_writtenMasks (s : ServiceClasses) :
    s.writtenMasks.foldl (· ||| ·) 0 = s.bits := by
  refine eq_of_getLsbD_eq fun i hi => ?_
  have hmembers : ((s.members.map Flag.mask).any fun m => m.toBitVec.getLsbD i) =
      (s.bits.toBitVec.getLsbD i && knownMask.toBitVec.getLsbD i) := by
    rw [getLsbD_knownMask, List.any_map, Bool.eq_iff_iff]
    simp only [members, List.any_eq_true, List.mem_filter, Bool.and_eq_true, Function.comp_apply]
    constructor
    · rintro ⟨f, ⟨hf, hcontains⟩, hbit⟩
      rw [getLsbD_mask hf, decide_eq_true_eq] at hbit
      rw [contains_eq hf, hbit] at hcontains
      exact ⟨hcontains, f, hf, decide_eq_true hbit⟩
    · rintro ⟨hbits, f, hf, hbit⟩
      have hi : f.bit.toNat = i := of_decide_eq_true hbit
      refine ⟨f, ⟨hf, ?_⟩, ?_⟩
      · rwa [contains_eq hf, hi]
      · rwa [getLsbD_mask hf]
  have hunknown : ((if s.unknownBits = 0 then [] else [s.unknownBits]).any
      fun m => m.toBitVec.getLsbD i) =
      (s.bits.toBitVec.getLsbD i && !knownMask.toBitVec.getLsbD i) := by
    have hbit : s.unknownBits.toBitVec.getLsbD i =
        (s.bits.toBitVec.getLsbD i && !knownMask.toBitVec.getLsbD i) := by
      rw [unknownBits, UInt32.toBitVec_and, UInt32.toBitVec_not, BitVec.getLsbD_and,
        BitVec.getLsbD_not, decide_eq_true hi, Bool.true_and]
    rw [← hbit]
    split
    · rename_i hzero
      simp [hzero]
    · simp
  rw [getLsbD_foldl_or, writtenMasks, List.any_append, hmembers, hunknown]
  cases s.bits.toBitVec.getLsbD i <;> cases knownMask.toBitVec.getLsbD i <;> simp

/-! ## Writing and reading back -/

/-- The words that a set is written as. -/
def writtenWords (s : ServiceClasses) : List (List Char) :=
  (s.members.map Flag.name ++ s.unknownText).map String.toList

theorem toList_text (s : ServiceClasses) :
    s.text.toList = [' ', separator, ' '].intercalate s.writtenWords :=
  String.toList_intercalate

theorem partBits?_name {f : Flag} (hf : f ∈ flags) : partBits? f.name.toList = some f.mask := by
  revert f
  decide

theorem partBits?_hexDigits (n : UInt32) :
    partBits? ('0' :: 'x' :: Text.hexDigits n.toNat) = some n := by
  have hplus : ∀ rest, Text.hexDigits n.toNat ≠ '+' :: rest := by
    intro rest h
    obtain ⟨d, -, hd⟩ := Text.mem_hexDigits (n := n.toNat) (c := '+') (by simp [h])
    exact Nat.digitChar_ne '+' (by decide) hd.symm
  rw [partBits?, Text.readHex?_hexDigits, Option.bind_some, if_pos n.toNat_lt_size]
  · simp
  · exact hplus

/-- What is written can be told apart: no word holds a blank or a separator. -/
theorem plain_of_mem_writtenWords {s : ServiceClasses} {word : List Char}
    (h : word ∈ s.writtenWords) :
    separator ∉ word ∧ ∀ c ∈ word, Unicode.isBlank c = false := by
  have hplain {cs : List Char}
      (hall : (cs.all fun c => c != separator && !Unicode.isBlank c) = true) :
      ∀ c ∈ cs, c ≠ separator ∧ Unicode.isBlank c = false := by
    simpa using hall
  have hname : ∀ f ∈ flags,
      (f.name.toList.all fun c => c != separator && !Unicode.isBlank c) = true := by
    decide
  have hdigit : ∀ d < 16, Nat.digitChar d ≠ separator ∧ Unicode.isBlank (Nat.digitChar d) = false
    := by decide +kernel
  have hall : ∀ c ∈ word, c ≠ separator ∧ Unicode.isBlank c = false := by
    simp only [writtenWords, List.map_append, List.map_map, List.mem_append, List.mem_map,
      Function.comp_apply] at h
    rcases h with ⟨f, hf, rfl⟩ | ⟨text, htext, rfl⟩
    · exact hplain (hname f (List.mem_of_mem_filter hf))
    · unfold unknownText at htext
      split at htext
      · cases htext
      · obtain rfl := List.mem_singleton.mp htext
        intro c hc
        simp only [String.toList_append, String.toList_ofList, List.mem_append] at hc
        rcases hc with hc | hc
        · exact hplain (by decide) c hc
        · obtain ⟨d, hd, rfl⟩ := Text.mem_hexDigits hc
          exact hdigit d hd
  exact ⟨fun hmem => (hall _ hmem).1 rfl, fun c hc => (hall c hc).2⟩

theorem mapM_writtenWords (s : ServiceClasses) :
    s.writtenWords.mapM partBits? = some s.writtenMasks := by
  have hnames : (s.members.map fun f => f.name.toList).mapM partBits? =
      some (s.members.map Flag.mask) :=
    mapM_map_eq_some fun f hf => partBits?_name (List.mem_of_mem_filter hf)
  have hunknown : (s.unknownText.map String.toList).mapM partBits? =
      some (if s.unknownBits = 0 then [] else [s.unknownBits]) := by
    unfold unknownText
    split
    · rfl
    · have hnumber : ("0x" ++ String.ofList (Text.hexDigits s.unknownBits.toNat)).toList =
          '0' :: 'x' :: Text.hexDigits s.unknownBits.toNat := by
        simp [String.toList_append, String.toList_ofList]
      rw [List.map_singleton, hnumber, List.mapM_cons, partBits?_hexDigits]
      rfl
  rw [writtenWords, List.map_append, List.map_map, List.mapM_append, hunknown]
  refine (congrArg (fun read => read >>= _) hnames).trans ?_
  rfl

/-- A set is read back from its text, whichever of its bits are set. -/
theorem ofText?_text (s : ServiceClasses) : ofText? s.text = some s := by
  rw [ofText?_eq, toList_text]
  by_cases hne : s.writtenWords = []
  · -- nothing is written exactly where no bit is set
    have hmasks := s.mapM_writtenWords
    have hbits := s.foldl_or_writtenMasks
    rw [hne, List.mapM_nil] at hmasks
    rw [← Option.some.inj hmasks] at hbits
    have hempty : s = ⟨0⟩ := congrArg ServiceClasses.mk hbits.symm
    rw [hne, hempty]
    rfl
  · have hwords := words_intercalate hne (fun p hp => (plain_of_mem_writtenWords hp).1)
      fun p hp => (plain_of_mem_writtenWords hp).2
    have hread : ¬ s.writtenWords = [[]] := by
      intro h
      have hmasks := s.mapM_writtenWords
      rw [h] at hmasks
      cases hmasks
    rw [hwords, if_neg hread, mapM_writtenWords, Option.map_some, foldl_or_writtenMasks]

/-! ## Spellings of one set -/

/-- The words alone matter, in any order and however often, if there are any. -/
theorem ofText?_congr {s s' : String}
    (hblank : words s.toList = [[]] ↔ words s'.toList = [[]])
    (hwords : ∀ w, w ∈ words s.toList ↔ w ∈ words s'.toList) : ofText? s = ofText? s' := by
  have hall : (words s.toList).all (fun w => (partBits? w).isSome) =
      (words s'.toList).all fun w => (partBits? w).isSome := by
    rw [Bool.eq_iff_iff]
    simp only [List.all_eq_true, hwords]
  have hunion : ((words s.toList).filterMap partBits?).foldl (· ||| ·) 0 =
      ((words s'.toList).filterMap partBits?).foldl (· ||| ·) 0 :=
    foldl_or_congr fun m => by simp only [List.mem_filterMap, hwords]
  simp only [ofText?_eq, hblank, mapM_eq_ite, hall]
  split
  · rfl
  · split
    · simp only [Option.map_some, hunion]
    · rfl

/-- The text of pieces with separators between them. -/
def joined (pieces : List (List Char)) : String :=
  String.ofList ([separator].intercalate pieces)

/-- The pieces of a text hold no separators themselves. -/
def Separate (pieces : List (List Char)) : Prop :=
  ∀ p ∈ pieces, separator ∉ p

/-- A change of a text that leaves the set it stands for. -/
inductive Respelled : String → String → Prop
  /-- Other blanks around a word. -/
  | blanks (front back : List (List Char)) (word : List Char) {left right left' right' : List Char}
      (separate : Separate (front ++ word :: back))
      (blank : ∀ c ∈ left ++ right ++ left' ++ right', Unicode.isBlank c = true) :
      Respelled (joined (front ++ (left ++ word ++ right) :: back))
        (joined (front ++ (left' ++ word ++ right') :: back))
  /-- Another order of the words. -/
  | order {pieces pieces' : List (List Char)} (separate : Separate pieces)
      (same : pieces.Perm pieces') : Respelled (joined pieces) (joined pieces')
  /-- A word that is there already. -/
  | repetition (front back : List (List Char)) {word : List Char}
      (separate : Separate (front ++ back)) (present : word ∈ front ++ back)
      (visible : ∃ c ∈ word, Unicode.isBlank c = false) :
      Respelled (joined (front ++ back)) (joined (front ++ word :: back))

/-- A piece without separators may stand among others. -/
theorem Separate.insert {front back : List (List Char)} {p : List Char}
    (h : Separate (front ++ back)) (hp : separator ∉ p) :
    Separate (front ++ p :: back) := by
  intro q hq
  rcases List.mem_append.mp hq with hq | hq
  · exact h q (by simp [hq])
  · rcases List.mem_cons.mp hq with rfl | hq
    · exact hp
    · exact h q (by simp [hq])

theorem words_joined {pieces : List (List Char)} (hne : pieces ≠ []) (h : Separate pieces) :
    words (joined pieces).toList = pieces.map trim := by
  rw [joined, String.toList_ofList, words, parts_intercalate hne h]

/-- The words of a text are the same with other blanks around one of them. -/
theorem words_blanks (front back : List (List Char)) {word : List Char} (left right : List Char)
    (separate : Separate (front ++ word :: back))
    (hleft : ∀ c ∈ left, Unicode.isBlank c = true)
    (hright : ∀ c ∈ right, Unicode.isBlank c = true) :
    words (joined (front ++ (left ++ word ++ right) :: back)).toList =
      (front ++ word :: back).map trim := by
  have hword : separator ∉ left ++ word ++ right := by
    simp [separate word (by simp), notMem_of_blank hleft, notMem_of_blank hright]
  have hothers : Separate (front ++ back) := fun p hp =>
    separate p (((List.sublist_cons_self word back).append_left front).mem hp)
  have hpieces := hothers.insert hword
  rw [words_joined (by simp) hpieces]
  simp only [List.map_append, List.map_cons, trim_append_blanks hright, trim_blanks_append hleft]

/-- A text stands for the same set in every spelling. -/
theorem Respelled.ofText?_eq {s s' : String} (h : Respelled s s') : ofText? s = ofText? s' := by
  cases h with
  | @blanks front back word left right left' right' separate blank =>
      simp only [List.mem_append] at blank
      have hwords := words_blanks front back left right separate
        (fun c hc => blank c (by simp [hc])) fun c hc => blank c (by simp [hc])
      have hwords' := words_blanks front back left' right' separate
        (fun c hc => blank c (by simp [hc])) fun c hc => blank c (by simp [hc])
      exact ofText?_congr (by rw [hwords, hwords']) fun w => by rw [hwords, hwords']
  | @order pieces pieces' separate same =>
      by_cases hne : pieces = []
      · subst hne
        rw [List.nil_perm.mp same]
      · have hne' : pieces' ≠ [] := fun h => hne (List.perm_nil.mp (h ▸ same))
        have separate' : Separate pieces' := fun p hp => separate p (same.mem_iff.mpr hp)
        have hwords : (pieces.map trim).Perm (pieces'.map trim) := same.map trim
        refine ofText?_congr ?_ fun w => ?_
        · rw [words_joined hne separate, words_joined hne' separate', ← List.perm_singleton,
            ← List.perm_singleton]
          exact ⟨hwords.symm.trans, hwords.trans⟩
        · rw [words_joined hne separate, words_joined hne' separate']
          exact hwords.mem_iff
  | @repetition front back word separate present visible =>
      have hne : front ++ back ≠ [] := List.ne_nil_of_mem present
      have separate' : Separate (front ++ word :: back) :=
        separate.insert (separate word present)
      have htrim : trim word ≠ [] := by
        intro hnil
        obtain ⟨c, hc, hvisible⟩ := visible
        rw [trim_eq_nil_iff.mp hnil c hc] at hvisible
        cases hvisible
      -- the word is in both lists, so neither of them is the one of a blank text
      have hmem : trim word ∈ (front ++ back).map trim := List.mem_map_of_mem present
      have hmem' : trim word ∈ (front ++ word :: back).map trim :=
        List.mem_map_of_mem (by simp)
      refine ofText?_congr ?_ fun w => ?_
      · rw [words_joined hne separate, words_joined (by simp) separate']
        constructor
        · intro h
          exact absurd (List.mem_singleton.mp (h ▸ hmem)) htrim
        · intro h
          exact absurd (List.mem_singleton.mp (h ▸ hmem')) htrim
      · rw [words_joined hne separate, words_joined (by simp) separate']
        simp only [List.map_append, List.map_cons, List.mem_append, List.mem_cons] at hmem ⊢
        constructor
        · rintro (h | h)
          · exact .inl h
          · exact .inr (.inr h)
        · rintro (h | rfl | h)
          · exact .inl h
          · exact hmem
          · exact .inr h

/-- Blanks, order and repetition do not matter; a bit without a name is kept. -/
example : ofText? " AUDIO|0x8000 |AUDIO" = some ⟨0x208000⟩ ∧
    (ServiceClasses.mk 0x208000).text = "AUDIO | 0x8000" := by
  decide +kernel

end BluetoothDirectory.ServiceClasses
