/-! Spans of time as text. -/

namespace ConstrainedDecoding.Duration

/-- The largest unit that a number of nanoseconds holds at least once, with its sign and its size
as a power of ten. -/
def unit (nanoseconds : Nat) : String × Nat :=
  if 1000000000 ≤ nanoseconds then ("s", 9)
  else if 1000000 ≤ nanoseconds then ("ms", 6)
  else if 1000 ≤ nanoseconds then ("µs", 3)
  else ("ns", 0)

/-- The digits after the point, without zeros at the end. -/
def fraction (places n : Nat) : List Char :=
  (((toString n).toList.leftpad places '0').reverse.dropWhile (· = '0')).reverse

/-- A span of time in its unit, with all of its digits. -/
def text (nanoseconds : Nat) : String :=
  let (sign, places) := unit nanoseconds
  let size := Nat.pow 10 places
  let rest := nanoseconds % size
  let point := if rest = 0 then [] else '.' :: fraction places rest
  s!"{nanoseconds / size}{String.ofList point}{sign}"

end ConstrainedDecoding.Duration
