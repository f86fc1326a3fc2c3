import BluetoothDirectory.Proofs.ServiceText

/-!
# What is kept of a Class of Device

The major class, the minor class and the service classes are decoded from different bits of a
number, and from all of its bits but the reserved ones. Each field put back in its place has the
number's bits there (`DeviceClass.getLsbD_placed`), so two numbers are decoded alike exactly where
they agree on these bits. The names of service classes go by bits in the same way, and the text of a
class begins with the number itself.
-/

namespace BluetoothDirectory

/-! ## Codes of major classes -/

namespace MajorClass

/-- The code that a class is decoded from. -/
def code : MajorClass → UInt8
  | miscellaneous => 0
  | computer => 1
  | phone => 2
  | networkAccessPoint => 3
  | audioVideo => 4
  | peripheral => 5
  | imaging => 6
  | wearable => 7
  | toy => 8
  | health => 9
  | uncategorized => 31
  | other code => code

theorem code_ofCode (code : UInt8) : (ofCode code).code = code := by
  unfold ofCode
  split
  case h_12 => rfl
  all_goals
    rename_i h
    exact UInt8.toNat_inj.mp h.symm

/-- No two codes are taken for one class. -/
theorem ofCode_inj {code code' : UInt8} : ofCode code = ofCode code' ↔ code = code' := by
  constructor
  · intro h
    rw [← code_ofCode code, h, code_ofCode]
  · rintro rfl
    rfl

end MajorClass

/-! ## Fields of a number -/

/-- A field of a number: bits from a place on, as many as are set in a mask. -/
structure BitField where
  low : UInt32
  mask : UInt32
  width : Nat
  low_lt : low.toNat < 32 := by decide
  width_le : width ≤ 8 := by decide
  mask_bits : ∀ j < 8, mask.toBitVec.getLsbD j = decide (j < width) := by decide

namespace BitField

/-- The value of a field in a number. -/
def read (f : BitField) (raw : UInt32) : UInt8 :=
  ((raw >>> f.low) &&& f.mask).toUInt8

/-- A value in the place of a field. -/
def place (f : BitField) (value : UInt8) : UInt32 :=
  value.toUInt32 <<< f.low

variable (f : BitField)

theorem getLsbD_read (raw : UInt32) (j : Nat) :
    (f.read raw).toBitVec.getLsbD j =
      (decide (j < f.width) && raw.toBitVec.getLsbD (f.low.toNat + j)) := by
  have hshift : (raw >>> f.low).toBitVec = raw.toBitVec >>> f.low.toNat := by
    rw [UInt32.toBitVec_shiftRight]
    simp [Nat.mod_eq_of_lt f.low_lt]
  rw [read, UInt32.toBitVec_toUInt8, BitVec.getLsbD_setWidth, UInt32.toBitVec_and,
    BitVec.getLsbD_and, hshift, BitVec.getLsbD_ushiftRight]
  -- a value is a byte, so the mask counts only up to there
  by_cases hj : j < 8
  · rw [f.mask_bits j hj]
    simp [hj, Bool.and_comm]
  · have hwidth : ¬ j < f.width := fun hlt => hj (Nat.lt_of_lt_of_le hlt f.width_le)
    simp [hj, hwidth]

/-- A field put back in its place has the bits of the number there, and no others. -/
theorem getLsbD_place_read (raw : UInt32) (i : Nat) :
    (f.place (f.read raw)).toBitVec.getLsbD i =
      (decide (f.low.toNat ≤ i ∧ i < f.low.toNat + f.width) && raw.toBitVec.getLsbD i) := by
  have hshift (word : UInt32) : (word <<< f.low).toBitVec = word.toBitVec <<< f.low.toNat := by
    rw [UInt32.toBitVec_shiftLeft]
    simp [Nat.mod_eq_of_lt f.low_lt]
  rw [place, hshift, BitVec.getLsbD_shiftLeft, UInt8.toBitVec_toUInt32, BitVec.getLsbD_setWidth,
    getLsbD_read]
  by_cases hi : i < 32
  · by_cases hle : f.low.toNat ≤ i
    · have hplace : f.low.toNat + (i - f.low.toNat) = i := by omega
      have hwithin : i - f.low.toNat < f.width ↔ i < f.low.toNat + f.width := by omega
      have hless : i - f.low.toNat < 32 := by omega
      simp [hi, hle, hplace, hwithin, hless]
    · have hbefore : i < f.low.toNat := by omega
      simp [hle, hbefore]
  · simp [hi, BitVec.getLsbD_of_ge raw.toBitVec i (by omega)]

/-- The value of a field is told by the bits in its place. -/
theorem read_eq_iff {raw raw' : UInt32} :
    f.read raw = f.read raw' ↔
      ∀ i, f.low.toNat ≤ i ∧ i < f.low.toNat + f.width →
        raw.toBitVec.getLsbD i = raw'.toBitVec.getLsbD i := by
  constructor
  · intro h i hi
    have hbit := congrArg (fun value => (f.place value).toBitVec.getLsbD i) h
    simpa [getLsbD_place_read, hi] using hbit
  · intro h
    refine UInt8.eq_of_toBitVec_eq (BitVec.eq_of_getLsbD_eq fun j _ => ?_)
    rw [getLsbD_read, getLsbD_read]
    by_cases hj : j < f.width
    · rw [h (f.low.toNat + j) (by omega)]
    · simp [hj]

end BitField

/-! ## The fields of a class -/

namespace DeviceClass

/-- The field of the major class. -/
def majorField : BitField where
  low := 8
  mask := 0x1f
  width := 5

/-- The field of the minor class. -/
def minorField : BitField where
  low := 2
  mask := 0x3f
  width := 6

/-- Whether a bit is that of a service class. -/
def IsServiceBit (i : Nat) : Prop :=
  i = 13 ∨ i = 14 ∨ 16 ≤ i ∧ i ≤ 23

instance (i : Nat) : Decidable (IsServiceBit i) :=
  inferInstanceAs (Decidable (_ ∨ _))

variable {raw raw' : UInt32}

theorem major_ofRaw (raw : UInt32) :
    (ofRaw raw).major = MajorClass.ofCode (majorField.read raw) := rfl

theorem getLsbD_major (raw : UInt32) (i : Nat) :
    (majorField.place (ofRaw raw).major.code).toBitVec.getLsbD i =
      (decide (8 ≤ i ∧ i < 13) && raw.toBitVec.getLsbD i) := by
  rw [major_ofRaw, MajorClass.code_ofCode]
  exact majorField.getLsbD_place_read raw i

theorem getLsbD_minor (raw : UInt32) (i : Nat) :
    (minorField.place (ofRaw raw).minor).toBitVec.getLsbD i =
      (decide (2 ≤ i ∧ i < 8) && raw.toBitVec.getLsbD i) :=
  minorField.getLsbD_place_read raw i

theorem getLsbD_services (raw : UInt32) (i : Nat) :
    (ofRaw raw).services.bits.toBitVec.getLsbD i =
      (decide (IsServiceBit i) && raw.toBitVec.getLsbD i) := by
  have hknown : ServiceClasses.knownMask.toBitVec.getLsbD i = decide (IsServiceBit i) := by
    rw [ServiceClasses.getLsbD_knownMask, Bool.eq_iff_iff, decide_eq_true_eq]
    simp [ServiceClasses.flags, IsServiceBit]
    omega
  show (raw &&& ServiceClasses.knownMask).toBitVec.getLsbD i = _
  rw [UInt32.toBitVec_and, BitVec.getLsbD_and, hknown, Bool.and_comm]

theorem major_eq_iff :
    (ofRaw raw).major = (ofRaw raw').major ↔
      ∀ i, 8 ≤ i ∧ i < 13 → raw.toBitVec.getLsbD i = raw'.toBitVec.getLsbD i :=
  MajorClass.ofCode_inj.trans majorField.read_eq_iff

theorem minor_eq_iff :
    (ofRaw raw).minor = (ofRaw raw').minor ↔
      ∀ i, 2 ≤ i ∧ i < 8 → raw.toBitVec.getLsbD i = raw'.toBitVec.getLsbD i :=
  minorField.read_eq_iff

theorem services_eq_iff :
    (ofRaw raw).services = (ofRaw raw').services ↔
      ∀ i, IsServiceBit i → raw.toBitVec.getLsbD i = raw'.toBitVec.getLsbD i := by
  constructor
  · intro h i hi
    have hbit := congrArg (fun s : ServiceClasses => s.bits.toBitVec.getLsbD i) h
    simpa [getLsbD_services, hi] using hbit
  · intro h
    refine congrArg ServiceClasses.mk (ServiceClasses.eq_of_getLsbD_eq fun i _ => ?_)
    show (ofRaw raw).services.bits.toBitVec.getLsbD i =
      (ofRaw raw').services.bits.toBitVec.getLsbD i
    rw [getLsbD_services, getLsbD_services]
    by_cases hi : IsServiceBit i
    · rw [h i hi]
    · simp [hi]

/-- The fields of two numbers are the same where no bit but the reserved ones differs. -/
theorem fields_eq_iff :
    (ofRaw raw).major = (ofRaw raw').major ∧ (ofRaw raw).minor = (ofRaw raw').minor ∧
        (ofRaw raw).services = (ofRaw raw').services ↔
      ∀ i, 2 ≤ i ∧ i ≤ 14 ∨ 16 ≤ i ∧ i ≤ 23 →
        raw.toBitVec.getLsbD i = raw'.toBitVec.getLsbD i := by
  rw [major_eq_iff, minor_eq_iff, services_eq_iff]
  constructor
  · rintro ⟨hmajor, hminor, hservices⟩ i hi
    have hplace : 8 ≤ i ∧ i < 13 ∨ 2 ≤ i ∧ i < 8 ∨ IsServiceBit i := by
      unfold IsServiceBit
      omega
    rcases hplace with hi | hi | hi
    · exact hmajor i hi
    · exact hminor i hi
    · exact hservices i hi
  · intro h
    refine ⟨fun i hi => h i (by omega), fun i hi => h i (by omega), fun i hi => h i ?_⟩
    unfold IsServiceBit at hi
    omega

/-- The fields in their places have no bit in common. -/
theorem fields_disjoint (raw : UInt32) :
    majorField.place (ofRaw raw).major.code &&& minorField.place (ofRaw raw).minor = 0 ∧
      majorField.place (ofRaw raw).major.code &&& (ofRaw raw).services.bits = 0 ∧
      minorField.place (ofRaw raw).minor &&& (ofRaw raw).services.bits = 0 := by
  have hdisjoint {a b : UInt32} (h : ∀ i, a.toBitVec.getLsbD i = true →
      ¬ b.toBitVec.getLsbD i = true) : a &&& b = 0 := by
    refine ServiceClasses.eq_of_getLsbD_eq fun i _ => ?_
    rw [UInt32.toBitVec_and, BitVec.getLsbD_and]
    cases ha : a.toBitVec.getLsbD i with
    | false => simp
    | true => simp [h i ha]
  refine ⟨hdisjoint fun i => ?_, hdisjoint fun i => ?_, hdisjoint fun i => ?_⟩
  · simp only [getLsbD_major, getLsbD_minor, Bool.and_eq_true, decide_eq_true_eq]
    omega
  · simp only [getLsbD_major, getLsbD_services, Bool.and_eq_true, decide_eq_true_eq]
    unfold IsServiceBit
    omega
  · simp only [getLsbD_minor, getLsbD_services, Bool.and_eq_true, decide_eq_true_eq]
    unfold IsServiceBit
    omega

/-- Together they are the number without its reserved bits. -/
theorem fields_union (raw : UInt32) :
    majorField.place (ofRaw raw).major.code ||| minorField.place (ofRaw raw).minor |||
      (ofRaw raw).services.bits = raw &&& 0xFF7FFC := by
  have hmask : ∀ i < 32, (0xFF7FFC : UInt32).toBitVec.getLsbD i =
      decide (2 ≤ i ∧ i ≤ 14 ∨ 16 ≤ i ∧ i ≤ 23) := by
    decide
  refine ServiceClasses.eq_of_getLsbD_eq fun i hi => ?_
  rw [UInt32.toBitVec_or, UInt32.toBitVec_or, UInt32.toBitVec_and, BitVec.getLsbD_or,
    BitVec.getLsbD_or, BitVec.getLsbD_and, getLsbD_major, getLsbD_minor, getLsbD_services,
    hmask i hi]
  cases raw.toBitVec.getLsbD i with
  | false => simp
  | true =>
      rw [Bool.eq_iff_iff]
      simp only [Bool.and_true, Bool.true_and, Bool.or_eq_true, decide_eq_true_eq]
      unfold IsServiceBit
      omega

end DeviceClass

/-! ## Names of service classes -/

namespace ServiceClasses

/-- The name for people of the service class with a bit. -/
def nameOfBit? : Nat → Option String
  | 13 => some "limited discoverable"
  | 14 => some "LE audio"
  | 16 => some "positioning"
  | 17 => some "networking"
  | 18 => some "rendering"
  | 19 => some "capturing"
  | 20 => some "object transfer"
  | 21 => some "audio"
  | 22 => some "telephony"
  | 23 => some "information"
  | _ => none

/-- The bits with a name, in ascending order, are those of the service classes. -/
theorem flags_eq_bits :
    flags.map (fun f => (f.bit.toNat, f.description)) =
      (List.range 32).filterMap fun i => (nameOfBit? i).map fun name => (i, name) := by
  decide

theorem filterMap_filter_eq {β : Type} (name? : Nat → Option β) (p : Nat → Bool) (l : List Nat) :
    ((l.filterMap fun i => (name? i).map fun name => (i, name)).filter fun e => p e.1).map
        Prod.snd = (l.filter p).filterMap name? := by
  induction l with
  | nil => rfl
  | cons i l ih =>
      cases hname : name? i with
      | none => cases hp : p i <;> simp [hname, hp, ih]
      | some name => cases hp : p i <;> simp [hname, hp, ih]

/-- The names of a set are those of its bits that have one, lowest bit first. -/
theorem names_eq (s : ServiceClasses) :
    s.names =
      ((List.range 32).filter fun i => s.bits.toBitVec.getLsbD i).filterMap nameOfBit? := by
  have hmembers : s.members = flags.filter fun f => s.bits.toBitVec.getLsbD f.bit.toNat :=
    List.filter_congr fun f hf => contains_eq hf s
  rw [names, hmembers, ← filterMap_filter_eq, ← flags_eq_bits, List.filter_map, List.map_map]
  rfl

theorem isSome_nameOfBit?_iff (i : Nat) :
    (nameOfBit? i).isSome = true ↔ DeviceClass.IsServiceBit i := by
  unfold nameOfBit? DeviceClass.IsServiceBit
  split
  case h_11 =>
    simp only [Option.isSome_none, Bool.false_eq_true, false_iff]
    grind
  all_goals simp

/-- No two bits have one name. -/
theorem nameOfBit?_inj {i j : Nat} {name : String} (hi : nameOfBit? i = some name)
    (hj : nameOfBit? j = some name) : i = j := by
  have hall : ∀ i < 24, ∀ j < 24, nameOfBit? i = nameOfBit? j → (nameOfBit? i).isSome → i = j := by
    decide
  have hlt {i : Nat} (h : nameOfBit? i = some name) : i < 24 := by
    have hbit := (isSome_nameOfBit?_iff i).mp (by simp [h])
    unfold DeviceClass.IsServiceBit at hbit
    omega
  exact hall i (hlt hi) j (hlt hj) (hi.trans hj.symm) (by simp [hi])

end ServiceClasses

/-! ## Texts of classes -/

namespace DeviceClass

/-- A text begins with the number of the class, up to the first space. -/
theorem takeWhile_text (c : DeviceClass) :
    (c.text.toList.drop 2).takeWhile (· ≠ ' ') = Text.paddedHexDigits 6 c.raw.toNat := by
  have hdigits : ∀ d < 16, Nat.digitChar d ≠ ' ' := by decide
  have hplain : ∀ a ∈ Text.paddedHexDigits 6 c.raw.toNat, decide (a ≠ ' ') = true := by
    intro a ha
    obtain ⟨d, hd, rfl⟩ := Text.mem_paddedHexDigits ha
    exact decide_eq_true (hdigits d hd)
  obtain ⟨rest, htext⟩ : ∃ rest, c.text.toList =
      '0' :: 'x' :: (Text.paddedHexDigits 6 c.raw.toNat ++ ' ' :: rest) := by
    simp [text, String.toList_append]
  rw [htext]
  show (Text.paddedHexDigits 6 c.raw.toNat ++ ' ' :: rest).takeWhile _ = _
  rw [List.takeWhile_append_of_pos hplain]
  simp

/-- No two numbers are shown alike. -/
theorem text_ofRaw_eq_iff {raw raw' : UInt32} :
    (ofRaw raw).text = (ofRaw raw').text ↔ raw = raw' := by
  have hread (raw : UInt32) :
      Text.readHexOnto 0 (((ofRaw raw).text.toList.drop 2).takeWhile (· ≠ ' ')) =
        some raw.toNat := by
    rw [takeWhile_text, Text.readHexOnto_paddedHexDigits]
    rfl
  constructor
  · intro h
    have hnumber := hread raw
    rw [h, hread raw'] at hnumber
    exact UInt32.toNat_inj.mp (Option.some.inj hnumber).symm
  · rintro rfl
    rfl

/-- **Decoding a Class of Device loses its reserved bits and nothing else.** The code of the major
class, the minor class and the service classes, each in its place, share no bit, and together they
are the number without its reserved bits. So two numbers are decoded alike if and only if they agree
on bits 2 to 14 and 16 to 23, and no two codes are taken for one major class. The names of a set of
service classes are those of its bits, in ascending order, as far as they have one, and no two bits
have the same. The texts of two classes are the same only where the numbers are. -/
theorem decoded_but_reserved_bits :
    (∀ raw : UInt32,
      let major := (ofRaw raw).major.code.toUInt32 <<< 8
      let minor := (ofRaw raw).minor.toUInt32 <<< 2
      let services := (ofRaw raw).services.bits
      (major &&& minor = 0 ∧ major &&& services = 0 ∧ minor &&& services = 0) ∧
        major ||| minor ||| services = raw &&& 0xFF7FFC) ∧
    (∀ raw raw' : UInt32,
      (ofRaw raw).major = (ofRaw raw').major ∧ (ofRaw raw).minor = (ofRaw raw').minor ∧
          (ofRaw raw).services = (ofRaw raw').services ↔
        ∀ i, 2 ≤ i ∧ i ≤ 14 ∨ 16 ≤ i ∧ i ≤ 23 →
          raw.toBitVec.getLsbD i = raw'.toBitVec.getLsbD i) ∧
    (∀ code : UInt8, (MajorClass.ofCode code).code = code) ∧
    (∀ code code' : UInt8, MajorClass.ofCode code = MajorClass.ofCode code' ↔ code = code') ∧
    (∀ s : ServiceClasses, s.names =
      ((List.range 32).filter fun i => s.bits.toBitVec.getLsbD i).filterMap
        ServiceClasses.nameOfBit?) ∧
    (∀ i, (ServiceClasses.nameOfBit? i).isSome = true ↔ i = 13 ∨ i = 14 ∨ 16 ≤ i ∧ i ≤ 23) ∧
    (∀ i j name, ServiceClasses.nameOfBit? i = some name →
      ServiceClasses.nameOfBit? j = some name → i = j) ∧
    ∀ raw raw' : UInt32, (ofRaw raw).text = (ofRaw raw').text ↔ raw = raw' := by
  refine ⟨fun raw => ⟨fields_disjoint raw, fields_union raw⟩, fun raw raw' => fields_eq_iff,
    MajorClass.code_ofCode, fun code code' => MajorClass.ofCode_inj, ServiceClasses.names_eq,
    ServiceClasses.isSome_nameOfBit?_iff, fun i j name => ServiceClasses.nameOfBit?_inj,
    fun raw raw' => text_ofRaw_eq_iff⟩

/-- Bits 0, 1, 15 and 24 are reserved: only the number and the text are others with them. -/
example :
    let headset := ofRaw 0x240404
    let reserved := ofRaw 0x1248407
    headset.major = reserved.major ∧ headset.minor = reserved.minor ∧
      headset.services = reserved.services ∧ headset ≠ reserved ∧
      headset.services.names = ["rendering", "audio"] := by
  decide

end DeviceClass

end BluetoothDirectory
