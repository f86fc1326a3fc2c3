import BluetoothDirectory.Bus
import BluetoothDirectory.Wire.Property

/-!
# Encoding property values

Which property values can be sent, and that what is sent is decoded to the same value. Texts on the
bus hold no zero character; what is sent for a value has one only if a text in the value does.
-/

namespace BluetoothDirectory

/-- A text without a zero character. -/
def Text.Plain (s : String) : Prop :=
  '\x00' ∉ s.toList

/-- The texts in a property value that can be sent have no zero character. -/
def Variant.Plain : Variant → Prop
  | .text s => Text.Plain s
  | .texts l => ∀ s ∈ l, Text.Plain s
  | _ => True

namespace Wire

namespace Value

mutual

/-- No text in a value on the bus has a zero character. -/
def Plain : Value → Prop
  | text s => Text.Plain s
  | signature s => Text.Plain s
  | variant v => v.Plain
  | array _ items => AllPlain items
  | dict _ _ entries => EntriesPlain entries
  | struct fields => AllPlain fields
  | _ => True

/-- No text in any of several values has a zero character. -/
def AllPlain : List Value → Prop
  | [] => True
  | v :: vs => v.Plain ∧ AllPlain vs

/-- No text in the keys and values of a dictionary has a zero character. -/
def EntriesPlain : List (Value × Value) → Prop
  | [] => True
  | (k, v) :: rest => k.Plain ∧ v.Plain ∧ EntriesPlain rest

end

theorem allPlain_map {α : Type} {make : α → Value} {l : List α} (h : ∀ a ∈ l, (make a).Plain) :
    AllPlain (l.map make) := by
  induction l with
  | nil => trivial
  | cons a rest ih =>
      obtain ⟨ha, hrest⟩ := List.forall_mem_cons.mp h
      exact ⟨ha, ih hrest⟩

end Value

theorem filterMap_text? (l : List String) : (l.map Value.text).filterMap Value.text? = l := by
  induction l with
  | nil => rfl
  | cons s rest ih =>
      rw [List.map_cons, List.filterMap_cons]
      simp only [Value.text?, ih]

theorem filterMap_byte? (l : List UInt8) : (l.map Value.byte).filterMap Value.byte? = l := by
  induction l with
  | nil => rfl
  | cons n rest ih =>
      rw [List.map_cons, List.filterMap_cons]
      simp only [Value.byte?, ih]

/-- **What is sent is decoded to the same value.** -/
theorem toVariant_of_ofVariant? {v : Variant} {w : Value} (h : ofVariant? v = some w) :
    w.toVariant = v := by
  cases v <;> cases h
  case texts l => rw [Value.toVariant, filterMap_text?]
  case bytes l => rw [Value.toVariant, filterMap_byte?]
  all_goals rfl

/-- All values can be sent but dictionaries and those of an unknown type. -/
theorem exists_ofVariant? {v : Variant} (hdict : v.kind ≠ .dict)
    (hunsupported : v.kind ≠ .unsupported) : ∃ w, ofVariant? v = some w := by
  cases v
  case dict entries => exact absurd rfl hdict
  case unsupported signature => exact absurd rfl hunsupported
  all_goals exact ⟨_, rfl⟩

/-- What is sent for a value without zero characters has none either. -/
theorem plain_of_ofVariant? {v : Variant} {w : Value} (h : ofVariant? v = some w)
    (hplain : v.Plain) : w.Plain := by
  cases v <;> cases h
  case text s => exact hplain
  case texts l => exact Value.allPlain_map hplain
  case bytes l => exact Value.allPlain_map fun _ _ => trivial
  all_goals trivial

end Wire

/-! ## Names -/

namespace BusName

theorem mem_elements {c : Char} {l : List Char} (h : c ∈ l) (hc : c ≠ '.') :
    ∃ e ∈ elements l, c ∈ e := by
  induction l with
  | nil => cases h
  | cons d rest ih =>
      simp only [elements]
      split
      · rename_i hd
        subst hd
        obtain ⟨e, he, hmem⟩ := ih (List.mem_of_ne_of_mem hc h)
        exact ⟨e, List.mem_cons_of_mem _ he, hmem⟩
      · cases hes : elements rest with
        | nil =>
            rcases List.mem_cons.mp h with rfl | h
            · exact ⟨[c], by simp, by simp⟩
            · obtain ⟨e, he, -⟩ := ih h
              rw [hes] at he
              cases he
        | cons first es =>
            rcases List.mem_cons.mp h with rfl | h
            · exact ⟨c :: first, by simp, by simp⟩
            · obtain ⟨e, he, hmem⟩ := ih h
              rw [hes] at he
              rcases List.mem_cons.mp he with rfl | he
              · exact ⟨d :: e, by simp, by simp [hmem]⟩
              · exact ⟨e, by simp [he], hmem⟩

/-- The rule for names of interfaces leaves no room for a zero character. -/
theorem plain_of_isInterface {name : String} (h : isInterface name = true) : Text.Plain name := by
  intro hzero
  obtain ⟨e, he, hmem⟩ := mem_elements hzero (by decide)
  simp only [isInterface, isDotted, Bool.and_eq_true, List.all_eq_true] at h
  have helement := h.2.2 e he
  simp only [isElement, Bool.and_eq_true, List.all_eq_true] at helement
  exact absurd (helement.1 _ hmem) (by decide)

end BusName

end BluetoothDirectory
