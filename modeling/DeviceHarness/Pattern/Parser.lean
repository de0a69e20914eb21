import DeviceHarness.Pattern.Bracket
import DeviceHarness.Text.Letters

/-! Groups, repetitions, and patterns as a whole. -/

namespace DeviceHarness.Pattern

open Reader

/-- Whether a character may be part of the name of a group. -/
def isNameCharacter (first : Bool) (c : Char) : Bool :=
  c == '_' ||
    if first then Text.isLetter c
    else c == '.' || c == '[' || c == ']' || Text.isLetterOrDigit c

/-- The characters of a name, up to the bracket that ends it. -/
def nameUpTo (first : Bool) : Nat → Reader (List Char)
  | 0 => return []
  | rounds + 1 => do
    match ← peek with
    | none => complain .nameUnclosed (← point)
    | some '>' => return []
    | some c =>
      if isNameCharacter first c then
        let _ ← bump
        let more ← nameUpTo false rounds
        return c :: more
      else complain .nameCharacter (← ofNext)

/-- The name of a group, which no earlier group has. -/
def groupName : Reader Unit := do
  let start ← here
  let name := String.ofList (← nameUpTo true ((← get).rest.length + 1))
  let span ← since start
  let _ ← bump
  if name.isEmpty then complain .nameEmpty (.point start)
  match (← get).names.lookup name with
  | some earlier => throw ⟨.nameTwice, span, some earlier⟩
  | none => modify fun r => { r with names := (name, span) :: r.names }

def Flag.ofLetter? : Char → Option Flag
  | 'i' => some .ignoreCase
  | 'm' => some .multiLine
  | 's' => some .dotMatchesAll
  | 'U' => some .swapGreed
  | 'u' => some .unicode
  | 'R' => some .crlf
  | 'x' => some .spaced
  | _ => none

/-- Flags up to a colon or a closing parenthesis, with their places, in order. -/
def flagsUpTo : Nat → List (FlagItem × Span) → Reader (List (FlagItem × Span))
  | 0, flags => return flags
  | rounds + 1, flags => do
    let span ← ofNext
    let goOn (item : FlagItem) (twice : Fault) : Reader (List (FlagItem × Span)) := do
      match flags.lookup item with
      | some earlier => throw ⟨twice, span, some earlier⟩
      | none =>
        if ← bump then flagsUpTo rounds (flags ++ [(item, span)])
        else complain .flagsUnfinished (← point)
    match ← peek with
    | none | some ':' | some ')' =>
      match flags.getLast? with
      | some (.negation, last) => complain .flagNegationDangling last
      | _ => return flags
    | some '-' => goOn .negation .flagNegationTwice
    | some c =>
      match Flag.ofLetter? c with
      | some f => goOn (.flag f) .flagTwice
      | none => complain .flagUnknown span

/-- What an opening parenthesis starts. -/
inductive Opened where
  /-- Nothing but flags for what follows. -/
  | directive (changes : Flags)
  | group (changes : Option Flags)

/-- What stands after a parenthesis and a question mark. -/
def openFlags (parenthesis : Span) (inner : Mark) : Reader Opened := do
  if ← atEnd then complain .groupUnclosed parenthesis
  let flags := (← flagsUpTo ((← get).rest.length + 1) []).map Prod.fst
  let last ← peek
  let _ ← bump
  if last == some ')' then
    if flags.isEmpty then complain .nothingToRepeat (.point inner)
    else return .directive flags
  else return .group (some flags)

/-- An opening parenthesis and what belongs to it. -/
def openGroup : Reader Opened := do
  let parenthesis ← ofNext
  let _ ← bump
  passBlanks
  for sign in ["?=", "?!", "?<=", "?<!"] do
    if ← takeWord sign then complain .lookAround (← since parenthesis.start)
  let inner ← here
  if ← takeWord "?P<" then
    groupName
    return .group none
  else if ← takeWord "?<" then
    groupName
    return .group none
  else if ← takeWord "?" then openFlags parenthesis inner
  else return .group none

/-- A number of repetitions, or what is wrong with it. Blanks around it say nothing. -/
def decimal : Reader (Except Complaint Nat) := do
  let _ ← span Text.isBlank bump
  let start ← here
  let digits ← span Integer.isDigit bumpOn
  let place ← since start
  let _ ← span Text.isBlank bumpOn
  if digits.isEmpty then return .error ⟨.countEmpty, place, none⟩
  else if 0xFFFFFFFF < Integer.value digits then return .error ⟨.numberTooLarge, place, none⟩
  else return .ok (Integer.value digits)

/-- A repetition in braces: the least and the greatest number. -/
def counts : Reader (Nat × Option Nat) := do
  let start ← here
  if !(← bumpOn) then complain .countUnclosed (← since start)
  let least ← decimal
  let unclosed : Reader Unit := do
    if ← atEnd then complain .countUnclosed (← since start)
  unclosed
  let (least, most) ←
    if (← peek) == some ',' then
      let _ ← bumpOn
      unclosed
      let least ← MonadExcept.ofExcept least
      if (← peek) == some '\x7d' then pure (least, none)
      else
        let most ← MonadExcept.ofExcept (← decimal)
        pure (least, some most)
    else
      let least ← MonadExcept.ofExcept least
      pure (least, some least)
  if (← peek) != some '\x7d' then complain .countUnclosed (← since start)
  if ← bumpOn then
    if (← peek) == some '?' then
      let _ ← bump
  if most.any (· < least) then complain .countOrder (← since start)
  return (least, most)

/-- A repetition by a single sign, perhaps a lazy one. -/
def repeatSign (least : Nat) (most : Option Nat) : Reader (Nat × Option Nat) := do
  if ← bump then
    if (← peek) == some '?' then
      let _ ← bump
  return (least, most)

/-- Parts that follow each other, as far as they have come: each with its start, the last one first. -/
structure Parts where
  start : Mark
  reversed : List (Mark × Pattern)

namespace Parts

def push (parts : Parts) (start : Mark) (part : Pattern) : Parts :=
  { parts with reversed := (start, part) :: parts.reversed }

/-- The parts as one pattern. -/
def together (parts : Parts) : Reader Pattern := do
  match parts.reversed.reverse with
  | [] => return .empty
  | [(_, part)] => return part
  | several => return .sequence (← since parts.start) (several.map Prod.snd)

/-- Repeats the last part. Flags cannot be repeated. -/
def repeated (parts : Parts) (times : Reader (Nat × Option Nat)) : Reader Parts := do
  match parts.reversed with
  | [] | (_, .empty) :: _ | (_, .directive _) :: _ => complain .nothingToRepeat (← point)
  | (start, part) :: earlier =>
    let (least, most) ← times
    let whole := Pattern.repetition (← since start) least most part
    return { parts with reversed := (start, whole) :: earlier }

end Parts

/-- Alternatives before the one that is being read, the last one first. -/
structure Branches where
  start : Mark
  reversed : List Pattern

/-- All alternatives as one pattern. -/
def Branches.together (branches : Branches) (last : Pattern) : Reader Pattern := do
  if branches.reversed.isEmpty then return last
  else return .alternation (← since branches.start) (branches.reversed.reverse ++ [last])

/-- A single character, a dot, an assertion or an escape. -/
def atom (c : Char) : Reader Atom := do
  if c == '\\' then escape
  else
    let l ← verbatim c
    if c == '.' then return .dot l.span
    else if c == '^' || c == '$' then return .assertion l.span
    else return .literal l

/-- Reads to the end of a group or of the pattern. The closing parenthesis is left for the group that
was opened by `parenthesis`. -/
def restUpTo : Nat → (parenthesis : Option Span) → Branches → Parts → Reader Pattern
  | 0, _, _, _ => return .empty
  | rounds + 1, parenthesis, branches, parts => do
    let finish : Reader Pattern := do branches.together (← parts.together)
    let goOn : Parts → Reader Pattern := restUpTo rounds parenthesis branches
    passBlanks
    let start ← here
    match ← peek with
    | none =>
      match parenthesis with
      | some span => complain .groupUnclosed span
      | none => finish
    | some ')' => if parenthesis.isSome then finish else complain .groupUnopened (← ofNext)
    | some '|' =>
      let branch ← parts.together
      let _ ← bump
      restUpTo rounds parenthesis { branches with reversed := branch :: branches.reversed }
        ⟨← here, []⟩
    | some '(' =>
      let span ← ofNext
      let outside := (← get).spaced
      match ← openGroup with
      | .directive changes =>
        modify fun r => { r with spaced := (changes.state? .spaced).getD outside }
        goOn (parts.push start (.directive changes))
      | .group changes =>
        modify fun r => { r with spaced := (changes.bind (·.state? .spaced)).getD outside }
        let body ← restUpTo rounds (some span) ⟨← here, []⟩ ⟨← here, []⟩
        modify fun r => { r with spaced := outside }
        let _ ← bump
        goOn (parts.push start (.group (← since start) changes body))
    | some '[' =>
      let (span, negated, inner) ← bracketClass
      goOn (parts.push start (.bracketed span negated inner))
    | some '?' => goOn (← parts.repeated (repeatSign 0 (some 1)))
    | some '*' => goOn (← parts.repeated (repeatSign 0 none))
    | some '+' => goOn (← parts.repeated (repeatSign 1 none))
    | some '\x7b' => goOn (← parts.repeated counts)
    | some c => goOn (parts.push start (.single (← atom c)))

/-- The pattern that a text writes. Every round takes a character. -/
def parse (text : String) : Except Complaint Pattern :=
  ((restUpTo (text.length + 1) none ⟨.start, []⟩ ⟨.start, []⟩).run (.start text)).map Prod.fst

end DeviceHarness.Pattern
