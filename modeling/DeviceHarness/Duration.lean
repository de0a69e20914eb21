import DeviceHarness.Text.Integer

/-! Durations in whole nanoseconds. -/

namespace DeviceHarness

/-- A number of nanoseconds. -/
abbrev Duration := Nat

namespace Duration

def seconds (n : Nat) : Duration := n * 1000000000

def milliseconds (n : Nat) : Duration := n * 1000000

/-- The whole milliseconds in a duration. -/
def inMilliseconds (d : Duration) : Nat := d / 1000000

/-- The longest duration: 64 bits of seconds and a fraction. -/
def longest : Duration := seconds 18446744073709551616 - 1

/-- A fraction of `places` digits without the zeros at its end, after a point unless it is zero. -/
def fraction (places part : Nat) : List Char :=
  let digits := Integer.digits part
  let padded := List.replicate (places - digits.length) '0' ++ digits
  match (padded.reverse.dropWhile (· == '0')).reverse with
  | [] => []
  | shown => '.' :: shown

/-- A duration in the largest unit that gives a whole part: seconds, milliseconds, microseconds or
nanoseconds. -/
def text (d : Duration) : String :=
  let inUnit (size places : Nat) (unit : String) : String :=
    String.ofList (Integer.digits (d / size) ++ fraction places (d % size)) ++ unit
  if 1000000000 ≤ d then inUnit 1000000000 9 "s"
  else if 1000000 ≤ d then inUnit 1000000 6 "ms"
  else if 1000 ≤ d then inUnit 1000 3 "µs"
  else inUnit 1 0 "ns"

end Duration
end DeviceHarness
