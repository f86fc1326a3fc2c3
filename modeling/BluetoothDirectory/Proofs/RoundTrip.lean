import BluetoothDirectory.Proofs.Encoding

/-!
# Encoding and decoding are inverse

A signature stands for one type, and a well-typed value on the bus whose signature is that of a
kind of property values that can be sent is the encoding of the property value that it is decoded
to. With `toVariant_of_ofVariant?`, which goes the other way, these values and the property values
that can be sent correspond one to one.
-/

namespace BluetoothDirectory

namespace Wire

/-! ## Signatures -/

namespace Ty

/-- A signature is not empty, and starts with no bracket that belongs to what surrounds it. -/
theorem code_eq_cons (t : Ty) :
    ∃ c rest, t.code = c :: rest ∧ c ≠ '\x7b' ∧ c ≠ ')' := by
  cases t <;> exact ⟨_, _, rfl, by decide, by decide⟩

mutual

/-- No signature is the beginning of another one, so what follows it can be told apart. -/
theorem code_append_inj (t u : Ty) (r s : List Char) (h : t.code ++ r = u.code ++ s) :
    t = u ∧ r = s := by
  cases t with
  | array t =>
      cases u <;> simp [code] at h
      case array u =>
        obtain ⟨rfl, hrest⟩ := code_append_inj t u r s h
        exact ⟨rfl, hrest⟩
      case dict k v =>
        obtain ⟨c, rest, hcode, hbracket, -⟩ := code_eq_cons t
        simp [hcode, hbracket] at h
  | dict k v =>
      cases u <;> simp [code] at h
      case array u =>
        obtain ⟨c, rest, hcode, hbracket, -⟩ := code_eq_cons u
        simp [hcode, hbracket.symm] at h
      case dict l w =>
        obtain ⟨rfl, hvalue⟩ := code_append_inj k l _ _ h
        obtain ⟨rfl, hrest⟩ := code_append_inj v w _ _ hvalue
        exact ⟨rfl, (List.cons.inj hrest).2⟩
  | struct ts =>
      cases u <;> simp [code] at h
      case struct us =>
        obtain ⟨rfl, hrest⟩ := codes_append_inj ts us r s h
        exact ⟨rfl, hrest⟩
  | _ => cases u <;> simp_all [code]

theorem codes_append_inj (ts us : List Ty) (r s : List Char)
    (h : codes ts ++ ')' :: r = codes us ++ ')' :: s) : ts = us ∧ r = s := by
  match ts, us with
  | [], [] => exact ⟨rfl, (List.cons.inj h).2⟩
  | [], u :: us =>
      obtain ⟨c, rest, hcode, -, hbracket⟩ := code_eq_cons u
      simp [codes, hcode, hbracket.symm] at h
  | t :: ts, [] =>
      obtain ⟨c, rest, hcode, -, hbracket⟩ := code_eq_cons t
      simp [codes, hcode, hbracket] at h
  | t :: ts, u :: us =>
      simp only [codes, List.append_assoc] at h
      obtain ⟨rfl, hfields⟩ := code_append_inj t u _ _ h
      obtain ⟨rfl, hrest⟩ := codes_append_inj ts us r s hfields
      exact ⟨rfl, hrest⟩

end

/-- **A signature stands for one type.** -/
theorem signatureText_inj {t u : Ty} (h : t.signatureText = u.signatureText) : t = u :=
  (code_append_inj t u [] [] (congrArg (· ++ []) (String.ofList_inj.mp h))).1

end Ty

/-- The type on the bus of the values of a kind. -/
def Ty.ofKind? : Variant.Kind → Option Ty
  | .bool => some .bool
  | .byte => some .byte
  | .int16 => some .int16
  | .uint16 => some .uint16
  | .int32 => some .int32
  | .uint32 => some .uint32
  | .int64 => some .int64
  | .uint64 => some .uint64
  | .double => some .double
  | .text => some .text
  | .objectPath => some .objectPath
  | .texts => some (.array .text)
  | .bytes => some (.array .byte)
  | .dict => some (.dict .text .variant)
  | .unsupported => none

theorem Ty.signatureText_of_ofKind? {k : Variant.Kind} {t : Ty} (h : ofKind? k = some t) :
    t.signatureText = k.signature := by
  cases k <;> cases h <;> rfl

/-! ## Well-typed values -/

namespace Value

mutual

/-- The items of arrays and dictionaries have the types that these carry, at any depth. -/
def Typed : Value → Prop
  | variant v => v.Typed
  | array t items => ItemsTyped t items
  | dict k v entries => EntriesTyped k v entries
  | struct fields => AllTyped fields
  | _ => True

/-- Several values have one type and are well typed. -/
def ItemsTyped (t : Ty) : List Value → Prop
  | [] => True
  | v :: vs => v.ty = t ∧ v.Typed ∧ ItemsTyped t vs

/-- The keys and values of a dictionary have their types and are well typed. -/
def EntriesTyped (key value : Ty) : List (Value × Value) → Prop
  | [] => True
  | (k, v) :: rest =>
    (k.ty = key ∧ k.Typed) ∧ (v.ty = value ∧ v.Typed) ∧ EntriesTyped key value rest

/-- Several values are well typed. -/
def AllTyped : List Value → Prop
  | [] => True
  | v :: vs => v.Typed ∧ AllTyped vs

end

theorem itemsTyped_map {α : Type} {t : Ty} {make : α → Value}
    (h : ∀ a, (make a).ty = t ∧ (make a).Typed) (l : List α) : ItemsTyped t (l.map make) := by
  induction l with
  | nil => trivial
  | cons a rest ih => exact ⟨(h a).1, (h a).2, ih⟩

/-- Well-typed texts are made of texts. -/
theorem exists_map_text {items : List Value} (h : ItemsTyped .text items) :
    ∃ l : List String, items = l.map text := by
  induction items with
  | nil => exact ⟨[], rfl⟩
  | cons v rest ih =>
      obtain ⟨hv, -, hrest⟩ := h
      obtain ⟨l, rfl⟩ := ih hrest
      cases v <;> cases hv
      exact ⟨_ :: l, rfl⟩

/-- Well-typed bytes are made of bytes. -/
theorem exists_map_byte {items : List Value} (h : ItemsTyped .byte items) :
    ∃ l : List UInt8, items = l.map byte := by
  induction items with
  | nil => exact ⟨[], rfl⟩
  | cons v rest ih =>
      obtain ⟨hv, -, hrest⟩ := h
      obtain ⟨l, rfl⟩ := ih hrest
      cases v <;> cases hv
      exact ⟨_ :: l, rfl⟩

end Value

/-! ## Encoding and decoding -/

/-- What is sent is well typed, of the type that its kind has on the bus. -/
theorem typed_of_ofVariant? {v : Variant} {w : Value} (h : ofVariant? v = some w) :
    w.Typed ∧ Ty.ofKind? v.kind = some w.ty := by
  have htext : ∀ s, (Value.text s).ty = .text ∧ (Value.text s).Typed := fun _ => ⟨rfl, trivial⟩
  have hbyte : ∀ n, (Value.byte n).ty = .byte ∧ (Value.byte n).Typed := fun _ => ⟨rfl, trivial⟩
  cases v <;> cases h
  case texts l => exact ⟨Value.itemsTyped_map htext l, rfl⟩
  case bytes l => exact ⟨Value.itemsTyped_map hbyte l, rfl⟩
  all_goals exact ⟨trivial, rfl⟩

/-- A well-typed value of the type of a kind that can be sent is the encoding of what it is decoded
to. -/
theorem ofVariant?_toVariant {w : Value} (hw : w.Typed) {k : Variant.Kind}
    (hdict : k ≠ .dict) (hk : Ty.ofKind? k = some w.ty) : ofVariant? w.toVariant = some w := by
  cases w
  case array t items =>
    cases k <;> cases hk
    case texts =>
      obtain ⟨l, rfl⟩ := Value.exists_map_text hw
      rw [Value.toVariant, filterMap_text?, ofVariant?]
    case bytes =>
      obtain ⟨l, rfl⟩ := Value.exists_map_byte hw
      rw [Value.toVariant, filterMap_byte?, ofVariant?]
  case dict key value entries =>
    cases k <;> cases hk
    exact absurd rfl hdict
  case signature | fileDescriptor | variant | struct => cases k <;> cases hk
  all_goals rfl

theorem ofVariant?_isSome_iff {v : Variant} :
    (∃ w, ofVariant? v = some w) ↔ v.kind ≠ .dict ∧ v.kind ≠ .unsupported := by
  refine ⟨?_, fun h => exists_ofVariant? h.1 h.2⟩
  rintro ⟨w, hw⟩
  cases v <;> cases hw <;> simp [Variant.kind]

/-- **Encoding and decoding are inverse.** A property value can be sent if and only if it is neither
a dictionary nor unsupported; what is sent for it is well typed, has the signature of its kind, and
is decoded to the same value. Every well-typed value on the bus with the signature of such a kind,
in turn, is what is sent for the value that it is decoded to. -/
theorem coding_inverse :
    (∀ v : Variant, (∃ w, ofVariant? v = some w) ↔ v.kind ≠ .dict ∧ v.kind ≠ .unsupported) ∧
    (∀ (v : Variant) (w : Value), ofVariant? v = some w →
      w.Typed ∧ w.signatureText = v.kind.signature ∧ w.toVariant = v) ∧
    (∀ (w : Value) (k : Variant.Kind), w.Typed → k ≠ .dict → k ≠ .unsupported →
      w.signatureText = k.signature → ofVariant? w.toVariant = some w) := by
  refine ⟨fun v => ofVariant?_isSome_iff, fun v w h => ?_, fun w k hw hdict hunsupported h => ?_⟩
  · obtain ⟨htyped, hty⟩ := typed_of_ofVariant? h
    exact ⟨htyped, Ty.signatureText_of_ofKind? hty, toVariant_of_ofVariant? h⟩
  · obtain ⟨t, ht⟩ : ∃ t, Ty.ofKind? k = some t := by
      cases k
      case unsupported => exact absurd rfl hunsupported
      all_goals exact ⟨_, rfl⟩
    have hty : t = w.ty := Ty.signatureText_inj ((Ty.signatureText_of_ofKind? ht).trans h.symm)
    exact ofVariant?_toVariant hw hdict (hty ▸ ht)

end Wire

end BluetoothDirectory
