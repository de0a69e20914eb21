import DeviceHarness.Toml.Scalar
import DeviceHarness.Toml.Strings
import DeviceHarness.Toml.Tree

/-! TOML documents: lines that give keys their values, and headings that say in which table. -/

namespace DeviceHarness.Toml

open Reader

/-- Arrays, inline tables and dotted keys may be this deep. -/
def deepest : Nat := 79

def isBareKey (c : Char) : Bool :=
  ('a' ≤ c && c ≤ 'z') || ('A' ≤ c && c ≤ 'Z') || ('0' ≤ c && c ≤ '9') || c == '-' || c == '_'

def simpleKey : Reader String :=
  orElse (String.ofList <$> span1 isBareKey) (orElse basicString literalString)

/-- The parts of a key: the tables that it goes through, and the last part. -/
def key : Reader (List String × String) := do
  let parts ← separated (char '.') do
    white
    let part ← simpleKey
    white
    return part
  if deepest < parts.length then fail
  else match parts.getLast? with
    | some last => return (parts.dropLast, last)
    | none => fail

/-- A key with its value. -/
def definition (value : Reader Value) : Reader (List String × String × Value) := do
  let (path, last) ← key
  char '='
  white
  let value ← value
  return (path, last, value)

def array (value : Reader Value) : Reader Value := do
  char '['
  let items ← optional (separated (char ',') do
    gap
    let item ← value
    gap
    return item)
  let _ ← if items.isSome then optional (char ',') else give none
  gap
  char ']'
  return .array (items.getD [])

/-- Defines the keys of an inline table in order. -/
def defineAll : List (List String × String × Value) → OpenTable → Option OpenTable
  | [], t => some t
  | (path, key, value) :: rest, t => (t.define path key value).bind (defineAll rest)

def inlineTable (value : Reader Value) : Reader Value := do
  char '\x7b'
  let pairs ← optional (separated (char ',') do
    let pair ← definition value
    white
    return pair)
  white
  char '\x7d'
  match defineAll (pairs.getD []) (.empty .stated) with
  | some t =>
    match (finishEntries? t.entries).bind tableValue? with
    | some table => return table
    | none => fail
  | none => fail

/-- A value that may be made of others, nested so deep at most. -/
def value : Nat → Reader Value
  | 0 => orElse (Value.string <$> string) scalar
  | depth + 1 =>
    orElse (Value.string <$> string)
      (orElse (array (value depth)) (orElse (inlineTable (value depth)) scalar))

/-- What a line of a document says. -/
inductive Statement where
  | nothing
  | define (path : List String) (key : String) (value : Value)
  | heading (path : List String) (key : String)
  | doubledHeading (path : List String) (key : String)

def statement : Reader Statement := do
  white
  match ← peek with
  | none => return .nothing
  | some '#' =>
    comment
    orElse newline endOfText
    return .nothing
  | some '\n' | some '\r' =>
    newline
    return .nothing
  | some '[' =>
    char '['
    if (← peek) == some '[' then
      char '['
      let (path, key) ← key
      exactly [']', ']']
      endOfLine
      return .doubledHeading path key
    else
      let (path, key) ← key
      char ']'
      endOfLine
      return .heading path key
  | some _ =>
    let (path, key, value) ← definition (value deepest)
    endOfLine
    return .define path key value

/-- A document as far as it has been read: its tables, and the path of the one that is open. -/
structure Draft where
  root : OpenTable
  current : List String

/-- Carries out a statement, unless it contradicts the ones before it. -/
def Draft.accept (d : Draft) : Statement → Option Draft
  | .nothing => some d
  | .define path key value =>
    (OpenTable.changeAt false (OpenTable.define path key value) d.current d.root).map fun root =>
      { d with root := root }
  | .heading path key => (d.root.openTable path key).map fun root => ⟨root, path ++ [key]⟩
  | .doubledHeading path key => (d.root.openNext path key).map fun root => ⟨root, path ++ [key]⟩

/-- Reads statements to the end of the text, or answers the text where it had to stop. -/
def statements : (rounds : Nat) → Draft → List Char → Except (List Char) Draft
  | 0, d, s => if s.isEmpty then .ok d else .error s
  | rounds + 1, d, s =>
    if s.isEmpty then .ok d
    else match statement s with
      | none => .error s
      | some (said, rest) =>
        match d.accept said with
        | none => .error s
        | some next => statements rounds next rest

/-- A document, or the number of the line that cannot be read; where a table as a whole is at fault, that
of the first line. A mark of the byte order at the very start is no part of the document. -/
def document (text : String) : Except Nat Table :=
  let all := text.toList
  let s := match all with
    | '\ufeff' :: rest => rest
    | s => s
  match statements (s.length + 1) ⟨.empty .stated, []⟩ s with
  | .ok d =>
    match finishEntries? d.root.entries with
    | some entries => .ok (Dictionary.ofList entries)
    | none => .error 1
  | .error rest => .error (1 + (s.take (s.length - rest.length)).count '\n')

/-- The complaint about a line. -/
def complaint (line : Nat) : String := "TOML parse error at line " ++ Integer.text line

end DeviceHarness.Toml
