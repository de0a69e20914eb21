import DeviceHarness.Pattern.Reading
import DeviceHarness.Text.Integer
import DeviceHarness.Text.Split

/-! Single characters of a pattern and what a backslash makes of them. -/

namespace DeviceHarness.Pattern

open Reader

def isHexDigit (c : Char) : Bool :=
  ('0' ≤ c && c ≤ '9') || ('a' ≤ c && c ≤ 'f') || ('A' ≤ c && c ≤ 'F')

def hexDigitValue (c : Char) : Nat :=
  if c ≤ '9' then c.toNat - '0'.toNat
  else if 'a' ≤ c then c.toNat - 'a'.toNat + 10
  else c.toNat - 'A'.toNat + 10

/-- The character of a number in hexadecimal digits. -/
def hexCharacter? (digits : List Char) : Option Char :=
  let value := digits.foldl (fun total c => 16 * total + hexDigitValue c) 0
  if value < 0xD800 || (0xE000 ≤ value && value ≤ 0x10FFFF) then some (Char.ofNat value) else none

/-- So many hexadecimal digits. -/
def hexDigits : Nat → Reader (List Char)
  | 0 => return []
  | count + 1 => do
    match ← peek with
    | none => complain .escapeUnfinished (← point)
    | some c =>
      if isHexDigit c then
        let _ ← bumpOn
        let more ← hexDigits count
        return c :: more
      else complain .hexDigit (← ofNext)

/-- Hexadecimal digits up to a closing brace. -/
def hexBraced : Nat → Reader (List Char)
  | 0 => return []
  | rounds + 1 => do
    if ← bumpOn then
      match ← peek with
      | some '\x7d' | none => return []
      | some c =>
        if isHexDigit c then
          let more ← hexBraced rounds
          return c :: more
        else complain .hexDigit (← ofNext)
    else return []

/-- A character given by its number, from the letter after the backslash on. -/
def hexLiteral (start : Mark) (digits : Nat) : Reader Literal := do
  if !(← bumpOn) then complain .escapeUnfinished (← point)
  if (← peek) == some '\x7b' then
    let brace ← here
    let first := (← ofNext).stop
    let written ← hexBraced (← get).rest.length
    if ← atEnd then complain .escapeUnfinished (← since brace)
    let number ← since first
    let _ ← bumpOn
    if written.isEmpty then complain .hexEmpty (← since brace)
    match hexCharacter? written with
    | some c => return ⟨← since start, c, false⟩
    | none => complain .hexNoCharacter number
  else
    let first ← here
    let written ← hexDigits digits
    match hexCharacter? written with
    | some c => return ⟨← since start, c, digits == 2⟩
    | none => complain .hexNoCharacter (← since first)

/-- What stands between braces, blanks aside. -/
def braced : Nat → Reader (List Char)
  | 0 => return []
  | rounds + 1 => do
    if ← bumpOn then
      match ← peek with
      | some '\x7d' | none => return []
      | some c => return c :: (← braced rounds)
    else return []

/-- What stands before and after the first unequal sign. -/
def splitUnequal : List Char → Option (List Char × List Char)
  | '!' :: '=' :: rest => some ([], rest)
  | c :: rest => (splitUnequal rest).map fun (before, after) => (c :: before, after)
  | [] => none

/-- A property as it is written between braces. Of the marks between a name and its value, an unequal
sign counts before a colon, and a colon before an equals sign. -/
def Property.ofText (text : List Char) : Property :=
  let cut (name value : List Char) : Property := .valued (String.ofList name) (String.ofList value)
  match splitUnequal text with
  | some (name, value) => cut name value
  | none =>
    match Text.splitOnce ':' text with
    | some (name, value) => cut name value
    | none =>
      match Text.splitOnce '=' text with
      | some (name, value) => cut name value
      | none => .named (String.ofList text)

/-- A property, from the letter after the backslash on. -/
def property (start : Mark) : Reader Atom := do
  if !(← bumpOn) then complain .escapeUnfinished (← point)
  match ← peek with
  | none => complain .escapeUnfinished (← point)
  | some '\x7b' =>
    let name ← braced (← get).rest.length
    if ← atEnd then complain .escapeUnfinished (← point)
    let _ ← bump
    return .property (← since start) (.ofText name)
  | some '\\' => complain .propertyLetter (← ofNext)
  | some c =>
    let _ ← bumpOn
    return .property (← since start) (.named (String.singleton c))

/-- Characters that a word in braces after a word boundary is made of. -/
def isBoundaryLetter (c : Char) : Bool :=
  ('A' ≤ c && c ≤ 'Z') || ('a' ≤ c && c ≤ 'z') || c == '-'

/-- A word boundary, which may be of a special sort. Braces that hold something else are a repetition and
are left alone. -/
def wordBoundary (start : Mark) : Reader Atom := do
  if (← peek) != some '\x7b' then return .assertion (← since start)
  let before ← get
  let brace ← here
  if !(← bumpOn) then complain .boundaryUnfinished (← since start)
  if !((← peek).any isBoundaryLetter) then
    set before
    return .assertion (← since start)
  let first ← here
  let word ← span isBoundaryLetter bumpOn
  if (← peek) != some '\x7d' then complain .boundaryUnclosed (← since brace)
  let whole ← since first
  let _ ← bump
  if ["start", "end", "start-half", "end-half"].contains (String.ofList word) then
    return .assertion (← since start)
  else complain .boundaryUnknown whole

/-- Characters that stand for themselves after a backslash. -/
def isEscapable (c : Char) : Bool := c.toNat < 0x80 && !c.isAlphanum && c != '<' && c != '>'

/-- Characters that letters after a backslash stand for. -/
def special? : Char → Option Char
  | 'a' => some '\x07'
  | 'f' => some '\x0c'
  | 't' => some '\t'
  | 'n' => some '\n'
  | 'r' => some '\r'
  | 'v' => some '\x0b'
  | _ => none

/-- The class of a letter, whatever its case. -/
def Kind.ofLetter? (c : Char) : Option Kind :=
  match c.toLower with
  | 'd' => some .digit
  | 's' => some .blank
  | 'w' => some .word
  | _ => none

/-- What a backslash and the characters after it stand for. -/
def escape : Reader Atom := do
  let start ← here
  if !(← bump) then complain .escapeUnfinished (← since start)
  match ← peek with
  | none => complain .escapeUnfinished (← since start)
  | some c =>
    if Integer.isDigit c then complain .backreference ⟨start, (← ofNext).stop⟩
    else if c == 'x' then return .literal (← hexLiteral start 2)
    else if c == 'u' then return .literal (← hexLiteral start 4)
    else if c == 'U' then return .literal (← hexLiteral start 8)
    else if c == 'p' || c == 'P' then property start
    else
      let _ ← bump
      match Kind.ofLetter? c with
      | some kind => return .kind (← since start) kind c.isUpper
      | none =>
        if isEscapable c then return .literal ⟨← since start, c, false⟩
        else match special? c with
          | some special => return .literal ⟨← since start, special, false⟩
          | none =>
            if c == 'b' then wordBoundary start
            else if "AzB<>".toList.contains c then return .assertion (← since start)
            else complain .escapeUnknown (← since start)

/-- A character as it is written. -/
def verbatim (c : Char) : Reader Literal := do
  let span ← ofNext
  let _ ← bump
  return ⟨span, c, false⟩

end DeviceHarness.Pattern
