import DeviceHarness.Pattern.Escape

/-! Classes between brackets: characters, ranges, other classes, and sets made of sets. A bracket that is
never closed is blamed on the innermost one that is open. -/

namespace DeviceHarness.Pattern

open Reader

/-- Items that are taken together, as far as they have come, the last one first. -/
structure Items where
  /-- Where the first item would begin. -/
  start : Mark
  reversed : List ClassItem

namespace Items

def push (items : Items) (item : ClassItem) : Items := { items with reversed := item :: items.reversed }

/-- The items as one. -/
def together (items : Items) : ClassItem :=
  match items.reversed.reverse with
  | [] => .empty (.point items.start)
  | [item] => item
  | first :: rest =>
    .union ⟨first.span.start, (rest.getLast?.getD first).span.stop⟩ (first :: rest)

/-- The items as one, combined with the set on their left, if there is one. -/
def combined (left : Option ClassItem) (items : Items) : ClassItem :=
  match left with
  | none => items.together
  | some left => .combined ⟨left.span.start, items.together.span.stop⟩ left items.together

end Items

/-- The classes that are named between colons. -/
def asciiClasses : List String :=
  ["alnum", "alpha", "ascii", "blank", "cntrl", "digit", "graph", "lower", "print", "punct", "space",
    "upper", "word", "xdigit"]

/-- A class named between colons: whether it is negated, and how many characters it takes. -/
def asciiClass? (s : List Char) : Option (Bool × Nat) :=
  match s with
  | '[' :: ':' :: rest =>
    let negated := rest.head? == some '^'
    let rest := if negated then rest.tail else rest
    let name := rest.takeWhile (· != ':')
    if asciiClasses.contains (String.ofList name) &&
        [':', ']'].isPrefixOf (rest.dropWhile (· != ':')) then
      some (negated, name.length + 4 + negated.toNat)
    else none
  | _ => none

/-- A single character or an escape between brackets. -/
def classAtom : Reader Atom := do
  match ← peek with
  | some '\\' => escape
  | some c => return .literal (← verbatim c)
  | none => complain .classUnclosed (← point)

/-- An atom as an item. Dots and assertions are none. -/
def Atom.item : Atom → Reader ClassItem
  | .literal l => return .literal l
  | .kind span which negated => return .kind span which negated
  | .property span asked => return .property span asked
  | .dot span | .assertion span => complain .classEscape span

/-- An atom as an end of a range. -/
def Atom.bound : Atom → Reader Literal
  | .literal l => return l
  | other => complain .classRangeEnd other.span

/-- A character, a class or a range. A hyphen makes no range before a closing bracket or another
hyphen. -/
def classRange (opening : Span) : Reader ClassItem := do
  let first ← classAtom
  passBlanks
  let next ← peek
  if next.isNone then complain .classUnclosed opening
  let second := (← get).second?
  if next != some '-' || second == some ']' || second == some '-' then first.item
  else
    if !(← bumpOn) then complain .classUnclosed opening
    let last ← classAtom
    let low ← first.bound
    let high ← last.bound
    let span : Span := ⟨low.span.start, high.span.stop⟩
    if high.char < low.char then complain .classRangeOrder span
    else return .range span low high

/-- Hyphens at the start of a class, which stand for themselves. -/
def leadingHyphens (opening : Mark) : Nat → Items → Reader Items
  | 0, items => return items
  | rounds + 1, items => do
    if (← peek) == some '-' then
      let hyphen : Literal := ⟨← ofNext, '-', false⟩
      if !(← bumpOn) then complain .classUnclosed (.point opening)
      leadingHyphens opening rounds (items.push (.literal hyphen))
    else return items

/-- The start of a class: its bracket, whether it is negated, and what stands for itself only here. -/
def openClass : Reader (Span × Bool × Items) := do
  let opening ← here
  if !(← bumpOn) then complain .classUnclosed (← since opening)
  let negated := (← peek) == some '^'
  if negated then
    if !(← bumpOn) then complain .classUnclosed (← since opening)
  let items ← leadingHyphens opening (← get).rest.length ⟨← here, []⟩
  if items.reversed.isEmpty && (← peek) == some ']' then
    let bracket : Literal := ⟨← ofNext, ']', false⟩
    if !(← bumpOn) then complain .classUnclosed (← since opening)
    return (← since opening, negated, items.push (.literal bracket))
  else return (← since opening, negated, items)

/-- Whether two equal characters come next that combine sets. -/
def takeOperator : Reader Bool := do
  match ← peek, (← get).rest.tail.head? with
  | some a, some b =>
    if a == b && (a == '&' || a == '-' || a == '~') then
      skip 2
      return true
    else return false
  | _, _ => return false

mutual

/-- A class, from its opening bracket on. -/
def classUpTo : Nat → Reader (Span × Bool × ClassItem)
  | 0 => do complain .classUnclosed (← point)
  | rounds + 1 => do
    let (opening, negated, items) ← openClass
    let inner ← classRestUpTo rounds opening none items
    return (← since opening.start, negated, inner)

/-- The items up to the closing bracket, with those before the last operator at the left. -/
def classRestUpTo : Nat → Span → Option ClassItem → Items → Reader ClassItem
  | 0, opening, _, _ => complain .classUnclosed opening
  | rounds + 1, opening, left, items => do
    passBlanks
    match ← peek with
    | none => complain .classUnclosed opening
    | some ']' =>
      let _ ← bump
      return items.combined left
    | some '[' =>
      match asciiClass? (← get).rest with
      | some (negated, count) =>
        let start ← here
        skip count
        classRestUpTo rounds opening left (items.push (.ascii (← since start) negated))
      | none =>
        let (span, negated, inner) ← classUpTo rounds
        classRestUpTo rounds opening left (items.push (.bracketed span negated inner))
    | some _ =>
      if ← takeOperator then
        classRestUpTo rounds opening (some (items.combined left)) ⟨← here, []⟩
      else
        let item ← classRange opening
        classRestUpTo rounds opening left (items.push item)

end

/-- A class between brackets: where it stands, whether it is negated, and what is in it. Every round
takes a character, so there are no more rounds than characters. -/
def bracketClass : Reader (Span × Bool × ClassItem) := do
  classUpTo ((← get).rest.length + 1)

end DeviceHarness.Pattern
