/-! Classes of characters given by ranges of their numbers. A list in ascending order whose ranges do not
touch has only one way to give a class. -/

namespace DeviceHarness.Text

/-- First and last numbers of ranges. -/
abbrev Ranges := List (Nat × Nat)

namespace Ranges

def covers (ranges : Ranges) (c : Char) : Bool :=
  ranges.any fun (first, last) => first ≤ c.toNat && c.toNat ≤ last

/-- Whether the ranges ascend from a number on, each with a gap before it. -/
def ascendFrom : Nat → Ranges → Bool
  | _, [] => true
  | least, (first, last) :: rest => least ≤ first && first ≤ last && ascendFrom (last + 2) rest

end Ranges
end DeviceHarness.Text
