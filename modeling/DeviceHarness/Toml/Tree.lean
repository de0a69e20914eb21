import DeviceHarness.Toml.Moment
import DeviceHarness.Toml.Value

/-! A document while it is being read. Each table remembers how it came to be, because that decides
what may still be added to it: a table may be defined by one heading only, and dotted keys may not
reach into tables that have a heading. -/

namespace DeviceHarness.Toml

/-- How a table came to be. -/
inductive Origin where
  /-- It lies on the way to a table that has a heading. -/
  | implied
  /-- Dotted keys made it. -/
  | dotted
  /-- It has a heading of its own. -/
  | stated
  deriving Repr, DecidableEq

inductive Tree where
  | value (v : Value)
  | table (origin : Origin) (entries : List (String × Tree))
  /-- Tables under a doubled heading. Only the last one is still open. -/
  | tables (earlier : List (List (String × Tree))) (last : List (String × Tree))

/-- An open table. Its entries are in the order in which they came. -/
structure OpenTable where
  origin : Origin
  entries : List (String × Tree)

namespace OpenTable

def empty (origin : Origin) : OpenTable := ⟨origin, []⟩

def get? (t : OpenTable) (key : String) : Option Tree := t.entries.lookup key

/-- A new entry is the last one; another value for an old one leaves it where it is. -/
def put (t : OpenTable) (key : String) (tree : Tree) : OpenTable :=
  if (t.get? key).isSome then
    ⟨t.origin, t.entries.map fun (other, old) => (other, if other = key then tree else old)⟩
  else ⟨t.origin, t.entries ++ [(key, tree)]⟩

/-- An entry that becomes the last one. -/
def putLast (t : OpenTable) (key : String) (tree : Tree) : OpenTable :=
  ⟨t.origin, t.entries.filter (fun (other, _) => other != key) ++ [(key, tree)]⟩

/-- Changes the table that a path leads to, and makes the tables on the way. -/
def changeAt (byDots : Bool) (change : OpenTable → Option OpenTable) :
    List String → OpenTable → Option OpenTable
  | [], t => change t
  | key :: path, t =>
    match t.get? key with
    | none => do
      let child ← changeAt byDots change path (empty (if byDots then .dotted else .implied))
      return t.put key (.table child.origin child.entries)
    | some (.value _) => none
    | some (.tables earlier last) => do
      let child ← changeAt byDots change path ⟨.stated, last⟩
      return t.put key (.tables earlier child.entries)
    | some (.table origin entries) =>
      if byDots && origin == .stated then none
      else do
        let child ← changeAt byDots change path ⟨origin, entries⟩
        return t.put key (.table child.origin child.entries)

/-- Gives a key its value. Dotted keys define tables of their own kind only, and no key is given
twice. -/
def define (path : List String) (key : String) (value : Value) : OpenTable → Option OpenTable :=
  changeAt true (fun t =>
    if (t.origin == .dotted) == path.isEmpty || (t.get? key).isSome then none
    else some (t.put key (.value value))) path

/-- A heading opens a table, which must be new or only implied; an implied one moves to the end. -/
def openTable (path : List String) (key : String) : OpenTable → Option OpenTable :=
  changeAt false (fun t =>
    match t.get? key with
    | none => some (t.put key (.table .stated []))
    | some (.table .implied entries) => some (t.putLast key (.table .stated entries))
    | _ => none) path

/-- A doubled heading opens one more table of its kind. -/
def openNext (path : List String) (key : String) : OpenTable → Option OpenTable :=
  changeAt false (fun t =>
    match t.get? key with
    | none => some (t.put key (.tables [] []))
    | some (.tables earlier last) => some (t.put key (.tables (earlier ++ [last]) []))
    | _ => none) path

end OpenTable

/-- The key of a table that stands for a moment. -/
def momentKey : String := "$__toml_private_datetime"

/-- The value of a table inside a document. A table whose first key is the one of moments is no table but
the moment that this entry holds, which has to be a string that stands for one. -/
def tableValue? (entries : List (String × Value)) : Option Value :=
  match entries with
  | (key, value) :: _ =>
    if key = momentKey then
      match value with
      | .string text => (Moment.ofString? text).map Value.datetime
      | _ => none
    else some (.table (Dictionary.ofList entries))
  | [] => some (.table [])

mutual

/-- The value that was read. -/
def Tree.finish? : Tree → Option Value
  | .value v => some v
  | .table _ entries => do tableValue? (← finishEntries? entries)
  | .tables earlier last => do
    let earlier ← finishTables? earlier
    let last ← tableValue? (← finishEntries? last)
    return .array (earlier ++ [last])

def finishEntries? : List (String × Tree) → Option (List (String × Value))
  | [] => some []
  | (key, tree) :: rest => do
    let value ← tree.finish?
    let others ← finishEntries? rest
    return (key, value) :: others

def finishTables? : List (List (String × Tree)) → Option (List Value)
  | [] => some []
  | entries :: rest => do
    let table ← tableValue? (← finishEntries? entries)
    let others ← finishTables? rest
    return table :: others

end

end DeviceHarness.Toml
