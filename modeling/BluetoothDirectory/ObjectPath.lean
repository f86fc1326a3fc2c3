/-!
# Object paths

An object on the bus is named by a path: the root `/`, or elements of letters, digits and
underscores, each after a slash. A value of `ObjectPath` always obeys that rule.
-/

namespace BluetoothDirectory

namespace ObjectPath

/-- Characters that an element of a path is made of. -/
def isElementChar (c : Char) : Bool :=
  c.isAlphanum || c == '_'

/-- Whether the characters read on as elements; `inside` tells whether the element at hand
already has a character. -/
def readsOn : Bool → List Char → Bool
  | inside, [] => inside
  | inside, c :: rest =>
    if c = '/' then inside && readsOn false rest
    else isElementChar c && readsOn true rest

/-- The rule for object paths. -/
def isValid : List Char → Bool
  | [] => false
  | c :: rest => c == '/' && (rest.isEmpty || readsOn false rest)

end ObjectPath

/-- A text that obeys the rule for object paths. -/
structure ObjectPath where
  text : String
  valid : ObjectPath.isValid text.toList = true
deriving DecidableEq

namespace ObjectPath

/-- Reads a path, refusing a text that breaks the rule. -/
def ofString? (text : String) : Option ObjectPath :=
  if h : isValid text.toList = true then some ⟨text, h⟩ else none

/-- The path `/`. -/
def root : ObjectPath := ⟨"/", by decide⟩

instance : Inhabited ObjectPath := ⟨root⟩

theorem ext_text {p q : ObjectPath} (h : p.text = q.text) : p = q := by
  cases p
  cases q
  simp_all

theorem ofString?_text (p : ObjectPath) : ofString? p.text = some p := by
  simp [ofString?, p.valid]

theorem text_of_ofString? {s : String} {p : ObjectPath} (h : ofString? s = some p) :
    p.text = s := by
  unfold ofString? at h
  split at h
  · cases h
    rfl
  · cases h

end ObjectPath

end BluetoothDirectory
