/-!
# Durations

A span of time in seconds and nanoseconds, and its short text: the largest unit whose whole part
is not zero, then as much of the fraction as is needed.
-/

namespace BluetoothDirectory

/-- A span of time; `nanoseconds` is the part below one second. -/
structure Duration where
  seconds : Nat
  nanoseconds : Nat := 0
deriving DecidableEq, Repr, Inhabited

namespace Duration

/-- No time at all. -/
def zero : Duration := ⟨0, 0⟩

/-- The decimal digits of a number, with zeros in front up to a width. -/
def paddedDigits (width n : Nat) : List Char :=
  let digits := Nat.toDigits 10 n
  List.replicate (width - digits.length) '0' ++ digits

/-- Drops the zeros at the end. -/
def trimZeros (digits : List Char) : List Char :=
  (digits.reverse.dropWhile (· == '0')).reverse

/-- A whole part, and a fraction given as a number of `width` decimal places. -/
def decimal (whole fraction width : Nat) : String :=
  let places := trimZeros (paddedDigits width fraction)
  toString whole ++ if places.isEmpty then "" else "." ++ String.ofList places

/-- The text of a duration, such as `25s`, `1.5ms` or `0ns`. -/
def text (d : Duration) : String :=
  let n := d.nanoseconds
  if 0 < d.seconds then decimal d.seconds n 9 ++ "s"
  else if 1000000 ≤ n then decimal (n / 1000000) (n % 1000000) 6 ++ "ms"
  else if 1000 ≤ n then decimal (n / 1000) (n % 1000) 3 ++ "µs"
  else toString n ++ "ns"

end Duration

end BluetoothDirectory
