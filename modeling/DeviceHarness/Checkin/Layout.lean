import DeviceHarness.Checkin.Record
import DeviceHarness.Checkin.StateCode
import DeviceHarness.Text.Search
import DeviceHarness.Text.Split

/-! Layouts: which fields the records of a tag have. A layout fixes the number of fields, the types
of the fields directly after the tag, and a rule for all that follow. Tables give the layout of each
tag, which may depend on the version of the dump. -/

namespace DeviceHarness.Checkin

/-- Versions from `min` on and below `max`. A dump without a version lies below every version, so
it matches only ranges without `min`. -/
structure VersionRange where
  min : Option Int
  max : Option Int
  deriving Repr, DecidableEq

namespace VersionRange

def any : VersionRange := ⟨none, none⟩
def below (max : Int) : VersionRange := ⟨none, some max⟩
def atLeast (min : Int) : VersionRange := ⟨some min, none⟩

def contains (range : VersionRange) : Option Int → Bool
  | none => range.min.isNone
  | some version => range.min.all (· ≤ version) && range.max.all (version < ·)

end VersionRange

/-- The number of fields of a whole line, those before the tag included. -/
inductive Arity where
  | exactly (n : Nat)
  | atLeast (n : Nat)
  deriving Repr, DecidableEq

def Arity.check : Arity → Nat → Check
  | exactly n, found => Check.require (found == n) (.fieldCount n found)
  | atLeast n, found => Check.require (n ≤ found) (.tooFewFields n found)

inductive Field where
  /-- Anything; only its presence is checked. -/
  | text
  | int
  | double
  | literal (expected : String)
  /-- An integer, or the placeholder where the value is unknown. -/
  | intOr (placeholder : String)
  /-- So many integers between colons. -/
  | ints (n : Nat)
  deriving Repr, DecidableEq

def checkInteger (value : String) : Check := (integer? value).map fun _ => ()

/-- The values of a field between colons; empty values at the end do not count. -/
def valuesOf (field : String) : List String := Text.splitDropping ':' field

def Field.check : Field → String → Check
  | text, _ => .ok ()
  | int, value => checkInteger value
  | double, value => (double? value).map fun _ => ()
  | literal expected, value => Check.require (value == expected) (.notLiteral expected value)
  | intOr placeholder, value => if value == placeholder then .ok () else checkInteger value
  | ints n, value => do
    Check.require ((valuesOf value).length == n) (.valueCount n value)
    Check.all checkInteger (valuesOf value)

/-- The rule for the fields after the typed ones. -/
inductive Rest where
  | unchecked
  /-- Each is a state code and so many integers, between colons. -/
  | states (ofProcess : Bool) (values : Nat)
  /-- Each is a state code without process and an integer, up to the first whose value mentions
  `sysmemusage`: that one and all after it have a form of their own. -/
  | totals
  /-- The last `n` are integers. -/
  | trailingInts (n : Nat)
  deriving Repr, DecidableEq

def checkStateCode (ofProcess : Bool) (code : String) : Check :=
  Check.require (StateCode.ofText? ofProcess code).isSome (.badStateCode code)

/-- A state code and its values. -/
def checkState (ofProcess : Bool) (values : Nat) (field : String) : Check :=
  match valuesOf field with
  | [] => .error (.valueCount (values + 1) field)
  | code :: numbers => do
    Check.require (numbers.length == values) (.valueCount (values + 1) field)
    checkStateCode ofProcess code
    Check.all checkInteger numbers

def checkTotals : List String → Check
  | [] => .ok ()
  | field :: rest =>
    match valuesOf field with
    | code :: value :: _ => do
      checkStateCode false code
      if Text.contains "sysmemusage" value then .ok ()
      else do
        checkInteger value
        checkTotals rest
    | _ => .error (.notTotal field)

/-- Checks the fields after the typed ones. -/
def Rest.check : Rest → List String → Check
  | unchecked, _ => .ok ()
  | states ofProcess values, fields => Check.all (checkState ofProcess values) fields
  | totals, fields => checkTotals fields
  | trailingInts n, fields => Check.all checkInteger (fields.drop (fields.length - n))

structure Layout where
  arity : Arity
  /-- The types of the fields directly after the tag. -/
  fields : List Field
  rest : Rest
  deriving Repr, DecidableEq

namespace Layout

/-- Checks fields against their types, as many as there are types. -/
def checkTyped : List Field → List String → Check
  | type :: types, value :: values => do
    type.check value
    checkTyped types values
  | _, _ => .ok ()

def checkFields (l : Layout) (r : Record) : Check := do
  let found := r.fields.length
  l.arity.check found
  let needed := r.tagIndex + 1 + l.fields.length
  Check.require (needed ≤ found) (.tooFewFields needed found)
  checkTyped l.fields (r.fields.drop (r.tagIndex + 1))
  l.rest.check (r.fields.drop needed)

/-- A record satisfies the layout, or fails with its first mismatch. -/
def check (l : Layout) (r : Record) : Except Error Unit := r.blame (l.checkFields r)

end Layout

/-- The layout of some tags at some versions. -/
structure Entry where
  tags : List String
  versions : VersionRange
  layout : Layout
  deriving Repr, DecidableEq

abbrev Table := List Entry

namespace Table

/-- The layout of a tag at a version. -/
def resolve (table : Table) (tag : String) (version : Option Int) : Option Layout :=
  (table.find? fun e => e.tags.contains tag && e.versions.contains version).map Entry.layout

/-- Whether a tag occurs in the table at any version. -/
def knows (table : Table) (tag : String) : Bool := table.any fun e => e.tags.contains tag

end Table
end DeviceHarness.Checkin
