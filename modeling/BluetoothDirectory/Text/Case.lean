/-!
# Comparing text without case

Letters of the ASCII alphabet are compared without case, all other characters exactly, and a
text is looked for anywhere inside another.
-/

namespace BluetoothDirectory.Text

/-- The text with its ASCII capitals made small. -/
def lowercase (s : String) : List Char :=
  s.toList.map Char.toLower

/-- Whether the first text occurs in the second as a run of characters. -/
def occursIn {α : Type} [BEq α] (needle : List α) : List α → Bool
  | [] => needle.isEmpty
  | c :: rest => needle.isPrefixOf (c :: rest) || occursIn needle rest

theorem occursIn_iff_infix {α : Type} [BEq α] [LawfulBEq α] {needle l : List α} :
    occursIn needle l = true ↔ needle <:+: l := by
  induction l with
  | nil => rw [occursIn, List.isEmpty_iff, List.infix_nil]
  | cons c rest ih =>
      rw [occursIn, Bool.or_eq_true, List.isPrefixOf_iff_prefix, ih, List.infix_cons_iff]

end BluetoothDirectory.Text
