import DeviceHarness.Toml.Moment
import DeviceHarness.Toml.Value

/-! Values that stand alone: numbers, truth values, dates and times. -/

namespace DeviceHarness.Toml

open Reader

private def isDigit : Char → Bool := Integer.isDigit

/-- Digits with single underscores between them. The underscores are left out. -/
def digitGroups (isMember : Char → Bool) : Reader (List Char) := do
  let first ← one isMember
  let more ← many do
    let _ ← optional (char '_')
    one isMember
  -- an underscore has to stand between digits
  if (← peek) == some '_' then fail else return first :: more

private def sign : Reader (List Char) := do
  let sign ← optional (one fun c => c == '+' || c == '-')
  return sign.toList

/-- A whole decimal number, without leading zeros. -/
def wholeNumber : Reader (List Char) := do
  let sign ← sign
  let digits ← fun s => match s with
    | '0' :: rest => some (['0'], rest)
    | _ => digitGroups isDigit s
  return sign ++ digits

private def wordOf (n : Option Int) : Reader Value :=
  match n.filter (Integer.fits 64) with
  | some n => give (.integer n)
  | none => fail

private def letterValue (c : Char) : Nat :=
  if c ≤ '9' then c.toNat - '0'.toNat
  else if 'a' ≤ c then c.toNat - 'a'.toNat + 10
  else c.toNat - 'A'.toNat + 10

private def radixValue (radix : Nat) (digits : List Char) : Nat :=
  digits.foldl (fun total c => radix * total + letterValue c) 0

private def radixInteger (mark : Char) (radix : Nat) (isMember : Char → Bool) : Reader Value := do
  exactly ['0', mark]
  let digits ← digitGroups isMember
  wordOf (some (Int.ofNat (radixValue radix digits)))

private def isHex (c : Char) : Bool :=
  isDigit c || ('a' ≤ c && c ≤ 'f') || ('A' ≤ c && c ≤ 'F')

/-- A whole number: hexadecimal, octal, binary or decimal. It has to fit 64 bits. -/
def integer : Reader Value := fun s =>
  match s with
  | '0' :: 'x' :: _ => radixInteger 'x' 16 isHex s
  | '0' :: 'o' :: _ => radixInteger 'o' 8 (fun c => '0' ≤ c && c ≤ '7') s
  | '0' :: 'b' :: _ => radixInteger 'b' 2 (fun c => c == '0' || c == '1') s
  | _ => (wholeNumber >>= fun digits => wordOf (Integer.signed? digits)) s

private def exponent : Reader (List Char) := do
  let mark ← one fun c => c == 'e' || c == 'E'
  let sign ← sign
  let digits ← digitGroups isDigit
  return mark :: sign ++ digits

private def fraction : Reader (List Char) := do
  char '.'
  let digits ← digitGroups isDigit
  return '.' :: digits

/-- A number with a fraction, an exponent or both. It has to be smaller than infinity. -/
def floatNumber : Reader Value := do
  let whole ← wholeNumber
  let fraction ← optional fraction
  let exponent ← optional exponent
  if fraction.isNone && exponent.isNone then fail
  else match Numeral.ofChars? (whole ++ fraction.getD [] ++ exponent.getD []) with
    | none => fail
    | some n => if n.negative || n.isFinite then return .float (some n) else fail

/-- Infinity, and what is no number. -/
def specialFloat : Reader Value := do
  let _ ← sign
  orElse (exactly "inf".toList) (exactly "nan".toList)
  return .float none

def boolean : Reader Value :=
  orElse ((fun _ => .boolean true) <$> exactly "true".toList)
    ((fun _ => .boolean false) <$> exactly "false".toList)

/-- A value that is neither a string nor made of others. -/
def scalar : Reader Value :=
  orElse boolean (orElse (Value.datetime <$> Moment.written) (orElse floatNumber (orElse specialFloat integer)))

/-! A value that stands alone holds no other values. -/

private theorem wordOf_yields (n : Option Int) : (wordOf n).Yields fun v => v.isLeaf = true := by
  unfold wordOf
  split
  · exact yields_pure rfl
  · exact yields_fail

private theorem radixInteger_yields (mark : Char) (radix : Nat) (isMember : Char → Bool) :
    (radixInteger mark radix isMember).Yields fun v => v.isLeaf = true :=
  yields_bind _ fun _ => yields_bind _ fun _ => wordOf_yields _

theorem integer_yields : integer.Yields fun v => v.isLeaf = true := by
  intro s v rest read
  unfold integer at read
  split at read
  · exact radixInteger_yields _ _ _ _ _ _ read
  · exact radixInteger_yields _ _ _ _ _ _ read
  · exact radixInteger_yields _ _ _ _ _ _ read
  · exact yields_bind wholeNumber (fun digits => wordOf_yields _) _ _ _ read

theorem floatNumber_yields : floatNumber.Yields fun v => v.isLeaf = true := by
  refine yields_bind _ fun whole => yields_bind _ fun fraction => yields_bind _ fun exponent => ?_
  split
  · exact yields_fail
  · split
    · exact yields_fail
    · split
      · exact yields_pure rfl
      · exact yields_fail

theorem boolean_yields : boolean.Yields fun v => v.isLeaf = true := by
  unfold boolean
  exact Yields.orElse (yields_map _ fun _ => rfl) (yields_map _ fun _ => rfl)

theorem specialFloat_yields : specialFloat.Yields fun v => v.isLeaf = true :=
  yields_bind _ fun _ => yields_bind _ fun _ => yields_pure rfl

theorem scalar_yields : scalar.Yields fun v => v.isLeaf = true :=
  boolean_yields.orElse (Yields.orElse (yields_map _ fun _ => rfl)
    (floatNumber_yields.orElse (specialFloat_yields.orElse integer_yields)))

end DeviceHarness.Toml
