import DeviceHarness.Error
import DeviceHarness.Text.Numeral

/-! One line of a checkin dump, cut into fields, and what can be wrong with it. The field at
`tagIndex` names the kind of record; fields before it are common to all records of a format. -/

namespace DeviceHarness.Checkin

/-- What is wrong with a record. -/
inductive Mismatch where
  | missingField (index : Nat)
  | notInteger (value : String)
  | notDouble (value : String)
  | notLiteral (expected value : String)
  | fieldCount (expected found : Nat)
  | tooFewFields (least found : Nat)
  /-- A field has the wrong number of values between colons. -/
  | valueCount (expected : Nat) (field : String)
  | badStateCode (code : String)
  | notTotal (field : String)
  | notDuration (field : String)
  | noProcessStates (tag : String)
  | badAggregation (value : String)
  | noLayout (version : Option Int)
  deriving Repr, DecidableEq

namespace Mismatch

private def quoted (s : String) : String := "\"" ++ s ++ "\""

private def count (n : Nat) : String := Integer.text n

def message : Mismatch → String
  | missingField index => "missing field " ++ count index
  | notInteger value => "expected an integer but found " ++ quoted value
  | notDouble value => "expected a double but found " ++ quoted value
  | notLiteral expected value => "expected " ++ quoted expected ++ " but found " ++ quoted value
  | fieldCount expected found => "expected " ++ count expected ++ " fields, found " ++ count found
  | tooFewFields least found =>
    "expected at least " ++ count least ++ " fields, found " ++ count found
  | valueCount expected field =>
    "expected " ++ count expected ++ " colon separated values in " ++ quoted field
  | badStateCode code => "malformed state code " ++ quoted code
  | notTotal field => "expected <state>:<value> but found " ++ quoted field
  | notDuration field => "expected <state>:<duration> in " ++ quoted field
  | noProcessStates tag =>
    "process states are only found in pkgproc and proc records, not " ++ tag
  | badAggregation value => "malformed stat: " ++ value
  | noLayout version => "no layout for version " ++ match version with
    | none => "None"
    | some n => "Some(" ++ Integer.text n ++ ")"

end Mismatch

/-- The outcome of a check: nothing, or the first mismatch. -/
abbrev Check := Except Mismatch Unit

namespace Check

def require (holds : Bool) (otherwise : Mismatch) : Check :=
  if holds then .ok () else .error otherwise

/-- Checks each element in order, up to the first mismatch. -/
def all {α : Type} (check : α → Check) : List α → Check
  | [] => .ok ()
  | x :: rest => do
    check x
    all check rest

end Check

structure Record where
  /-- The position of the line in the text, counted from one. -/
  line : Nat
  /-- The version declared before this line, if one was. -/
  version : Option Int
  tagIndex : Nat
  fields : List String
  deriving Repr, DecidableEq

/-- Integers in a dump fit 64 bits. -/
def integer? (value : String) : Except Mismatch Int :=
  match Integer.ofText? 64 value with
  | some n => .ok n
  | none => .error (.notInteger value)

def double? (value : String) : Except Mismatch Numeral :=
  match Numeral.finite? value with
  | some n => .ok n
  | none => .error (.notDouble value)

namespace Record

/-- The tag, empty when the record is too short to have one. -/
def tag (r : Record) : String := (r.fields[r.tagIndex]?).getD ""

def field? (r : Record) (index : Nat) : Except Mismatch String :=
  match r.fields[index]? with
  | some value => .ok value
  | none => .error (.missingField index)

def integerAt? (r : Record) (index : Nat) : Except Mismatch Int := do
  integer? (← r.field? index)

def doubleAt? (r : Record) (index : Nat) : Except Mismatch Numeral := do
  double? (← r.field? index)

/-- A failure that names the record and its line. -/
def complaint (r : Record) (text : String) : Error :=
  .assertion ("`" ++ r.tag ++ "` record on line " ++ Integer.text r.line ++ ": " ++ text)

/-- Fails a check by naming the record beside the mismatch. -/
def blame {α : Type} (r : Record) : Except Mismatch α → Except Error α
  | .ok value => .ok value
  | .error mismatch => .error (r.complaint mismatch.message)

end Record
end DeviceHarness.Checkin
