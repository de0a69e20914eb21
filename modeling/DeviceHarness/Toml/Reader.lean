/-! Readers take something off the front of a text and answer it with the text that is left, or they
answer nothing. Repetition is bounded by the length of the text, since each round has to take
something. -/

namespace DeviceHarness.Toml

abbrev Reader (α : Type) := List Char → Option (α × List Char)

namespace Reader

variable {α β : Type}

def give (value : α) : Reader α := fun s => some (value, s)

def fail : Reader α := fun _ => none

def andThen (first : Reader α) (next : α → Reader β) : Reader β := fun s =>
  match first s with
  | some (value, rest) => next value rest
  | none => none

instance : Monad Reader where
  pure := give
  bind := andThen

/-- The first reader if it succeeds, or else the second one from the same place. -/
def orElse (first second : Reader α) : Reader α := fun s => (first s).or (second s)

/-- One character of a class. -/
def one (isMember : Char → Bool) : Reader Char
  | c :: rest => if isMember c then some (c, rest) else none
  | [] => none

def char (c : Char) : Reader Unit := (fun _ => ()) <$> one (· == c)

/-- Exactly these characters. -/
def exactly : List Char → Reader Unit
  | [] => give ()
  | c :: cs => andThen (char c) fun _ => exactly cs

/-- As many characters of a class as there are. -/
def span (isMember : Char → Bool) : Reader (List Char) := fun s =>
  some (s.takeWhile isMember, s.dropWhile isMember)

/-- At least one character of a class. -/
def span1 (isMember : Char → Bool) : Reader (List Char) := fun s =>
  if (s.takeWhile isMember).isEmpty then none else span isMember s

/-- So many characters of a class. -/
def times (isMember : Char → Bool) : Nat → Reader (List Char)
  | 0 => give []
  | n + 1 => andThen (one isMember) fun c => (c :: ·) <$> times isMember n

def optional (reader : Reader α) : Reader (Option α) := fun s =>
  match reader s with
  | some (value, rest) => some (some value, rest)
  | none => some (none, s)

/-- The next character, which stays in the text. -/
def peek : Reader (Option Char) := fun s => some (s.head?, s)

/-- Repeats a reader as often as it succeeds, at most `rounds` times. -/
def manyUpTo (reader : Reader α) : Nat → Reader (List α)
  | 0 => give []
  | rounds + 1 => fun s =>
    match reader s with
    | none => some ([], s)
    | some (value, rest) =>
      match manyUpTo reader rounds rest with
      | some (values, last) => some (value :: values, last)
      | none => none

def many (reader : Reader α) : Reader (List α) := fun s => manyUpTo reader s.length s

/-- One or more, with separators between them. -/
def separated (separator : Reader β) (reader : Reader α) : Reader (List α) := do
  let first ← reader
  let more ← many do
    let _ ← separator
    reader
  return first :: more

/-! What holds of all that a reader answers. -/

/-- Whatever the reader answers is so. -/
def Yields (reader : Reader α) (holds : α → Prop) : Prop :=
  ∀ s value rest, reader s = some (value, rest) → holds value

section Yields

variable {reader other : Reader α} {next : α → Reader β} {holds : α → Prop} {after : β → Prop}

theorem yields_any (reader : Reader α) : reader.Yields fun _ => True := fun _ _ _ _ => trivial

theorem yields_pure {value : α} (held : holds value) : (pure value : Reader α).Yields holds := by
  rintro s _ _ ⟨⟩
  exact held

theorem yields_fail : (fail : Reader α).Yields holds := nofun

theorem Yields.bind (first : reader.Yields holds) (later : ∀ value, holds value → (next value).Yields after) :
    (reader >>= next).Yields after := by
  intro s value rest read
  change reader.andThen next s = _ at read
  unfold andThen at read
  split at read
  next found => exact later _ (first _ _ _ found) _ _ _ read
  next => cases read

/-- What was read before does not matter. -/
theorem yields_bind (reader : Reader α) (later : ∀ value, (next value).Yields after) : (reader >>= next).Yields after :=
  (yields_any reader).bind fun value _ => later value

theorem Yields.map {change : α → β} (read : reader.Yields holds) (kept : ∀ value, holds value → after (change value)) :
    (change <$> reader).Yields after :=
  read.bind fun value held => yields_pure (kept value held)

theorem yields_map {change : α → β} (reader : Reader α) (kept : ∀ value, after (change value)) :
    (change <$> reader).Yields after :=
  (yields_any reader).map fun value _ => kept value

theorem Yields.orElse (first : reader.Yields holds) (second : other.Yields holds) :
    (reader.orElse other).Yields holds := by
  intro s value rest read
  rcases Option.or_eq_some_iff.mp read with found | ⟨-, found⟩
  · exact first _ _ _ found
  · exact second _ _ _ found

theorem Yields.optional (read : reader.Yields holds) : (optional reader).Yields fun value => ∀ a ∈ value, holds a := by
  intro s value rest found
  unfold Reader.optional at found
  split at found
  next some =>
    cases found
    rintro _ ⟨⟩
    exact read _ _ _ some
  next =>
    cases found
    nofun

theorem Yields.manyUpTo (read : reader.Yields holds) (rounds : Nat) :
    (manyUpTo reader rounds).Yields fun values => ∀ a ∈ values, holds a := by
  induction rounds with
  | zero => exact yields_pure nofun
  | succ rounds ih =>
    intro s values rest found
    unfold Reader.manyUpTo at found
    split at found
    next =>
      cases found
      nofun
    next first =>
      split at found
      next later =>
        cases found
        exact List.forall_mem_cons.mpr ⟨read _ _ _ first, ih _ _ _ later⟩
      next => cases found

theorem Yields.many (read : reader.Yields holds) : (many reader).Yields fun values => ∀ a ∈ values, holds a :=
  fun s => read.manyUpTo s.length s

theorem Yields.separated (separator : Reader β) (read : reader.Yields holds) :
    (separated separator reader).Yields fun values => ∀ a ∈ values, holds a :=
  read.bind fun _ first => (yields_bind separator fun _ => read).many.bind fun _ more =>
    yields_pure (List.forall_mem_cons.mpr ⟨first, more⟩)

end Yields

end Reader

open Reader

def isWhite (c : Char) : Bool := c == ' ' || c == '\t'

def white : Reader Unit := (fun _ => ()) <$> span isWhite

/-- A line feed, perhaps after a carriage return. -/
def newline : Reader Unit := orElse (char '\n') (exactly ['\r', '\n'])

/-- Characters that may stand in comments: all but control characters, tabs excepted. -/
def isPrintable (c : Char) : Bool := c == '\t' || (' ' ≤ c && c ≤ '~') || 0x80 ≤ c.toNat

def comment : Reader Unit := do
  char '#'
  let _ ← span isPrintable

def endOfText : Reader Unit := fun s => if s.isEmpty then some ((), s) else none

/-- The end of a line, after blanks and perhaps a comment. -/
def endOfLine : Reader Unit := do
  white
  let _ ← optional comment
  orElse newline endOfText

/-- Blanks, comments and line ends, which may stand between the items of an array. -/
def gap : Reader Unit := do
  white
  let _ ← many do
    orElse newline comment
    white

end DeviceHarness.Toml
