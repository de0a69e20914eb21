/-! Whole numbers in decimal notation. A written number has an optional sign and at least one
digit; leading zeros are allowed, blanks are not. Readers say how many bits the number must fit. -/

namespace DeviceHarness.Integer

def isDigit (c : Char) : Bool := '0' ≤ c && c ≤ '9'

def digitValue (c : Char) : Nat := c.toNat - '0'.toNat

/-- The value of a digit string, read from the left. -/
def value (digits : List Char) : Nat :=
  digits.foldl (fun total digit => 10 * total + digitValue digit) 0

/-- A non-empty string of digits. -/
def natural? (s : List Char) : Option Nat :=
  if s.isEmpty || !s.all isDigit then none else some (value s)

/-- An optional sign before a natural number. -/
def signed? : List Char → Option Int
  | '-' :: digits => (natural? digits).map fun n => -(n : Int)
  | '+' :: digits => (natural? digits).map Int.ofNat
  | digits => (natural? digits).map Int.ofNat

/-- The numbers that fit a two's complement word of `bits` bits. -/
def fits (bits : Nat) (n : Int) : Bool :=
  -(Nat.pow 2 (bits - 1) : Int) ≤ n && n < (Nat.pow 2 (bits - 1) : Int)

/-- A signed number that fits `bits` bits. -/
def ofChars? (bits : Nat) (s : List Char) : Option Int := (signed? s).filter (fits bits)

/-- A signed number that fits `bits` bits. -/
def ofText? (bits : Nat) (s : String) : Option Int := ofChars? bits s.toList

/-- An unsigned number that fits `bits` bits; only a plus sign is allowed. -/
def unsigned? (bits : Nat) (s : String) : Option Nat :=
  let digits := match s.toList with
    | '+' :: digits => digits
    | digits => digits
  (natural? digits).filter (· < Nat.pow 2 bits)

/-- The decimal digits of a number, without leading zeros. -/
def digits (n : Nat) : List Char :=
  if n < 10 then [Char.ofNat (48 + n)] else digits (n / 10) ++ [Char.ofNat (48 + n % 10)]

/-- The canonical notation: a minus sign for negative numbers, and no leading zeros. -/
def notationOf : Int → List Char
  | .ofNat n => digits n
  | .negSucc n => '-' :: digits (n + 1)

def text (n : Int) : String := String.ofList (notationOf n)

end DeviceHarness.Integer
