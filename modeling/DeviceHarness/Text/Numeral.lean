import DeviceHarness.Text.Integer

/-! Numbers with a fraction or an exponent, and whether a double can hold them. A numeral is kept
as its digits and a power of ten, so its size is compared exactly. -/

namespace DeviceHarness

/-- `digits · 10 ^ exponent`, with a sign. -/
structure Numeral where
  negative : Bool
  digits : Nat
  exponent : Int
  deriving Repr, DecidableEq

namespace Numeral

/-- The power of ten after an `e`; nothing at all means zero. -/
def exponent? : List Char → Option Int
  | [] => some 0
  | e :: written => if e == 'e' || e == 'E' then Integer.signed? written else none

/-- Digits with at most one point among them, at least one digit, and an optional exponent. -/
def magnitude? (s : List Char) : Option (Nat × Int) :=
  let whole := s.takeWhile Integer.isDigit
  let (fraction, tail) := match s.dropWhile Integer.isDigit with
    | '.' :: rest => (rest.takeWhile Integer.isDigit, rest.dropWhile Integer.isDigit)
    | rest => ([], rest)
  if whole.isEmpty && fraction.isEmpty then none
  else (exponent? tail).map fun e => (Integer.value (whole ++ fraction), e - fraction.length)

def ofChars? : List Char → Option Numeral
  | '-' :: s => (magnitude? s).map fun (digits, exponent) => ⟨true, digits, exponent⟩
  | '+' :: s => (magnitude? s).map fun (digits, exponent) => ⟨false, digits, exponent⟩
  | s => (magnitude? s).map fun (digits, exponent) => ⟨false, digits, exponent⟩

/-- The power of ten of the first digit, counted so that `1` has size 1. -/
def size (n : Numeral) : Int := (Integer.digits n.digits).length + n.exponent

/-- Values from here on round to infinity: half a unit above the largest double. -/
def overflowBound : Nat := Nat.pow 2 1024 - Nat.pow 2 970

/-- Whether the number rounds to a finite double. Its size settles all but the numbers close to the
bound, so no huge power is computed. -/
def isFinite (n : Numeral) : Bool :=
  n.digits == 0 || n.size ≤ 308 ||
    (n.size ≤ 309 &&
      if n.exponent < 0 then n.digits < overflowBound * Nat.pow 10 n.exponent.natAbs
      else n.digits * Nat.pow 10 n.exponent.natAbs < overflowBound)

/-- The nearest double. Numbers below every double are zero and keep their sign. -/
def toFloat (n : Numeral) : Float :=
  let unsigned :=
    if n.digits == 0 || n.size < -400 then 0.0
    else if n.size > 400 then 1.0 / 0.0
    else Float.ofScientific n.digits (n.exponent < 0) n.exponent.natAbs
  if n.negative then -unsigned else unsigned

/-- A numeral that a double can hold; infinities and non-numbers are refused. -/
def finite? (s : String) : Option Numeral := (ofChars? s.toList).filter isFinite

end Numeral
end DeviceHarness
