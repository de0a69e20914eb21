import DeviceHarness.Pattern.Fault
import DeviceHarness.Pattern.Syntax
import DeviceHarness.Text.Blank

/-! Reading a pattern from the front. Where blanks are passed over, so are comments, which start with a
number sign and end with their line. -/

namespace DeviceHarness.Pattern

structure Reading where
  mark : Mark
  rest : List Char
  /-- Whether blanks and comments say nothing. -/
  spaced : Bool
  /-- The names of groups so far, with their places. -/
  names : List (String × Span)

namespace Reading

def start (pattern : String) : Reading := ⟨.start, pattern.toList, false, []⟩

/-- Goes on by one character. -/
def next (r : Reading) : Reading :=
  match r.rest with
  | [] => r
  | c :: rest => { r with mark := r.mark.after c, rest := rest }

/-- Passes over blanks and comments. -/
def passBlanks (commented : Bool) (mark : Mark) : List Char → Mark × List Char
  | [] => (mark, [])
  | c :: rest =>
    if commented then passBlanks (c != '\n') (mark.after c) rest
    else if Text.isBlank c then passBlanks false (mark.after c) rest
    else if c == '#' then passBlanks true (mark.after c) rest
    else (mark, c :: rest)

/-- The first character that is neither a blank nor a number sign that comes after blanks only. -/
def pastBlanks (commented : Bool) : List Char → Option Char
  | [] => none
  | c :: rest =>
    if Text.isBlank c then pastBlanks commented rest
    else if !commented && c == '#' then pastBlanks true rest
    else some c

/-- The character after the next one, past blanks. -/
def second? (r : Reading) : Option Char :=
  if r.spaced then (pastBlanks false r.rest.tail).or r.rest.tail.head? else r.rest.tail.head?

end Reading

/-- Reads a part of a pattern, or complains. -/
abbrev Reader (α : Type) := StateT Reading (Except Complaint) α

namespace Reader

variable {α : Type}

def complain (fault : Fault) (span : Span) : Reader α := throw ⟨fault, span, none⟩

def peek : Reader (Option Char) := return (← get).rest.head?

def here : Reader Mark := return (← get).mark

/-- From a place to the next character. -/
def since (start : Mark) : Reader Span := return ⟨start, ← here⟩

/-- The empty stretch before the next character. -/
def point : Reader Span := return .point (← here)

/-- The stretch of the next character. -/
def ofNext : Reader Span := do
  let r ← get
  return ⟨r.mark, r.next.mark⟩

def atEnd : Reader Bool := return (← get).rest.isEmpty

/-- Goes on by one character. Whether there is another one. -/
def bump : Reader Bool := do
  modify Reading.next
  return !(← atEnd)

/-- Passes over blanks and comments, where they say nothing. -/
def passBlanks : Reader Unit :=
  modify fun r =>
    if r.spaced then
      let (mark, rest) := Reading.passBlanks false r.mark r.rest
      { r with mark := mark, rest := rest }
    else r

/-- Goes on by one character and past blanks. Whether there is another character. -/
def bumpOn : Reader Bool := do
  if ← bump then
    passBlanks
    return !(← atEnd)
  else return false

/-- Goes on by so many characters. -/
def skip (count : Nat) : Reader Unit := modify fun r => count.repeat Reading.next r

/-- Takes a word if it comes next. -/
def takeWord (word : String) : Reader Bool := do
  if word.toList.isPrefixOf (← get).rest then
    skip word.length
    return true
  else return false

/-- Characters of a class, as long as they come; `step` goes on from each. -/
def spanUpTo (isMember : Char → Bool) (step : Reader Bool) : Nat → Reader (List Char)
  | 0 => return []
  | rounds + 1 => do
    match ← peek with
    | none => return []
    | some c =>
      if isMember c then
        let _ ← step
        let more ← spanUpTo isMember step rounds
        return c :: more
      else return []

def span (isMember : Char → Bool) (step : Reader Bool) : Reader (List Char) := do
  spanUpTo isMember step (← get).rest.length

end Reader
end DeviceHarness.Pattern
