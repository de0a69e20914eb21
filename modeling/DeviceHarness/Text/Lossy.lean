/-! Bytes read as UTF-8. What is no character is replaced: each longest start of a character, or
else each single byte, becomes one replacement character. -/

namespace DeviceHarness.Text

def replacement : Char := Char.ofNat 0xFFFD

/-- The bits that the first byte of a longer character contributes, how many bytes follow it, and
the range that the next one must lie in. -/
def leading (byte : UInt8) : Option (Nat × Nat × UInt8 × UInt8) :=
  let n := byte.toNat
  if 0xC2 ≤ n && n ≤ 0xDF then some (n - 0xC0, 1, 0x80, 0xBF)
  else if n == 0xE0 then some (n - 0xE0, 2, 0xA0, 0xBF)
  else if n == 0xED then some (n - 0xE0, 2, 0x80, 0x9F)
  else if 0xE1 ≤ n && n ≤ 0xEF then some (n - 0xE0, 2, 0x80, 0xBF)
  else if n == 0xF0 then some (n - 0xF0, 3, 0x90, 0xBF)
  else if n == 0xF4 then some (n - 0xF0, 3, 0x80, 0x8F)
  else if 0xF1 ≤ n && n ≤ 0xF3 then some (n - 0xF0, 3, 0x80, 0xBF)
  else none

/-- Reads `owed` more bytes of a character, the next of them between `low` and `high`. Answers the
character, or the replacement, and how many bytes were used. -/
def following (bits owed : Nat) (low high : UInt8) : List UInt8 → Char × Nat
  | [] => if owed = 0 then (Char.ofNat bits, 0) else (replacement, 0)
  | byte :: rest =>
    if owed = 0 then (Char.ofNat bits, 0)
    else if low ≤ byte && byte ≤ high then
      let (c, used) := following (bits * 64 + byte.toNat % 64) (owed - 1) 0x80 0xBF rest
      (c, used + 1)
    else (replacement, 0)

/-- The first character of a byte string, and how many bytes after the first it takes. -/
def firstCharacter (byte : UInt8) (rest : List UInt8) : Char × Nat :=
  if byte < 0x80 then (Char.ofNat byte.toNat, 0)
  else match leading byte with
    | none => (replacement, 0)
    | some (bits, owed, low, high) => following bits owed low high rest

def charactersOf : List UInt8 → List Char
  | [] => []
  | byte :: rest =>
    let (c, used) := firstCharacter byte rest
    c :: charactersOf (rest.drop used)
  termination_by bytes => bytes.length
  decreasing_by simp only [List.length_drop, List.length_cons]; omega

def ofBytes (bytes : List UInt8) : String := String.ofList (charactersOf bytes)

end DeviceHarness.Text
