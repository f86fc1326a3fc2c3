/-!
# Hexadecimal digits

Writing a number with the digits `0` to `f`, and reading digits of either case.
-/

namespace BluetoothDirectory.Text

/-- The digits of a number in base sixteen, lowercase and without leading zeros. -/
def hexDigits (n : Nat) : List Char :=
  Nat.toDigits 16 n

/-- The digits of a number in base sixteen, with zeros in front up to a width. -/
def paddedHexDigits (width n : Nat) : List Char :=
  let digits := hexDigits n
  List.replicate (width - digits.length) '0' ++ digits

/-- The value of a hexadecimal digit of either case. -/
def hexValue? (c : Char) : Option Nat :=
  if '0' ≤ c ∧ c ≤ '9' then some (c.toNat - '0'.toNat)
  else if 'a' ≤ c ∧ c ≤ 'f' then some (c.toNat - 'a'.toNat + 10)
  else if 'A' ≤ c ∧ c ≤ 'F' then some (c.toNat - 'A'.toNat + 10)
  else none

/-- Reads hexadecimal digits on top of the value of those before them. -/
def readHexOnto (value : Nat) : List Char → Option Nat
  | [] => some value
  | c :: rest => (hexValue? c).bind fun d => readHexOnto (16 * value + d) rest

/-- Reads one or more hexadecimal digits. -/
def readHex? (digits : List Char) : Option Nat :=
  if digits.isEmpty then none else readHexOnto 0 digits

theorem hexValue?_digitChar : ∀ d < 16, hexValue? (Nat.digitChar d) = some d := by
  decide

theorem readHexOnto_append (value : Nat) (front back : List Char) :
    readHexOnto value (front ++ back) =
      (readHexOnto value front).bind fun n => readHexOnto n back := by
  induction front generalizing value with
  | nil => rfl
  | cons c rest ih =>
    simp only [List.cons_append, readHexOnto, Option.bind_assoc, ih]

theorem readHexOnto_hexDigits (n : Nat) : readHexOnto 0 (hexDigits n) = some n := by
  induction n using Nat.strongRecOn with
  | ind n ih =>
    rw [hexDigits, Nat.toDigits_eq_if (by decide)]
    split
    · rename_i hn
      simp [readHexOnto, hexValue?_digitChar n hn]
    · rename_i hn
      have hquotient : readHexOnto 0 (Nat.toDigits 16 (n / 16)) = some (n / 16) :=
        ih (n / 16) (by omega)
      rw [readHexOnto_append, hquotient]
      have hdigit := hexValue?_digitChar (n % 16) (by omega)
      simp only [Option.bind_some, readHexOnto, hdigit, Option.some.injEq]
      omega

/-- Reading the digits of a number gives the number back. -/
theorem readHex?_hexDigits (n : Nat) : readHex? (hexDigits n) = some n := by
  have hne : (hexDigits n).isEmpty = false := by
    simp [hexDigits, Nat.toDigits_ne_nil]
  rw [readHex?, hne]
  exact readHexOnto_hexDigits n

theorem mem_hexDigits {n : Nat} {c : Char} (h : c ∈ hexDigits n) :
    ∃ d < 16, c = Nat.digitChar d := by
  induction n using Nat.strongRecOn with
  | ind n ih =>
    rw [hexDigits, Nat.toDigits_eq_if (by decide)] at h
    split at h
    · rename_i hn
      exact ⟨n, hn, List.mem_singleton.mp h⟩
    · rename_i hn
      rcases List.mem_append.mp h with h | h
      · exact ih (n / 16) (by omega) h
      · exact ⟨n % 16, by omega, List.mem_singleton.mp h⟩

/-- Zeros in front are read as nothing. -/
theorem readHexOnto_zeros (count : Nat) (digits : List Char) :
    readHexOnto 0 (List.replicate count '0' ++ digits) = readHexOnto 0 digits := by
  induction count with
  | zero => rfl
  | succ count ih =>
    have hzero : hexValue? '0' = some 0 := by decide
    rw [List.replicate_succ, List.cons_append, readHexOnto, hzero, Option.bind_some]
    exact ih

theorem readHexOnto_paddedHexDigits (width n : Nat) :
    readHexOnto 0 (paddedHexDigits width n) = some n := by
  rw [paddedHexDigits, readHexOnto_zeros, readHexOnto_hexDigits]

theorem mem_paddedHexDigits {width n : Nat} {c : Char} (h : c ∈ paddedHexDigits width n) :
    ∃ d < 16, c = Nat.digitChar d := by
  rcases List.mem_append.mp h with h | h
  · exact ⟨0, by decide, (List.mem_replicate.mp h).2⟩
  · exact mem_hexDigits h

end BluetoothDirectory.Text
