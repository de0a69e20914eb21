import DeviceHarness.Checkin.Dump
import DeviceHarness.Dictionary

/-! Validation of a dump, record by record. The validator remembers which tags it met, whatever it
thought of their records, so that at the end it can say whether the dump is complete. -/

namespace DeviceHarness.Checkin

/-- What a valid dump contains. -/
structure Report where
  format : Format
  records : Nat
  /-- The version that was declared last. -/
  version : Option Int
  seenTags : NameSet
  /-- Tags without a layout; their records were only counted. -/
  unknownTags : NameSet
  deriving Repr, DecidableEq

structure Validator where
  format : Format
  records : Nat
  version : Option Int
  seenTags : NameSet
  unknownTags : NameSet
  deriving Repr, DecidableEq

namespace Validator

def new (format : Format) : Validator := ⟨format, 0, none, [], []⟩

/-- Counts a record and remembers its tag. -/
def note (v : Validator) (r : Record) : Validator :=
  { v with
    records := v.records + 1
    seenTags := v.seenTags.insert r.tag
    unknownTags := if v.format.table.knows r.tag then v.unknownTags else v.unknownTags.insert r.tag }

/-- Checks a record against the layout of its tag at its version. -/
def checkLayout (format : Format) (r : Record) : Except Error Unit :=
  match format.table.resolve r.tag r.version with
  | some layout => layout.check r
  | none => if format.table.knows r.tag then r.blame (.error (.noLayout r.version)) else .ok ()

/-- A record whose common fields are malformed is not counted. Any other record is counted, and if
it is valid, the version it declares takes effect. -/
def check (v : Validator) (r : Record) : Except Error Unit × Validator :=
  match r.blame (v.format.checkLead r) with
  | .error e => (.error e, v)
  | .ok () =>
    let noted := v.note r
    match checkLayout v.format r with
    | .error e => (.error e, noted)
    | .ok () => (.ok (), { noted with version := (v.format.declaredVersion r).or v.version })

/-- The first required tag that was never seen. -/
def missingTag? (v : Validator) : Option String :=
  v.format.requiredTags.find? fun tag => !v.seenTags.contains tag

/-- Ends the validation: every tag of a healthy dump must have been seen. -/
def finish (v : Validator) : Except Error Report :=
  match v.missingTag? with
  | some tag =>
    .error (.assertion ("no line with the `" ++ tag ++ "` tag in `" ++ v.format.command ++ "` output"))
  | none => .ok ⟨v.format, v.records, v.version, v.seenTags, v.unknownTags⟩

/-- Checks items in order, up to the first that is no valid record. -/
def checkItems (v : Validator) : List Item → Except Error Validator
  | [] => .ok v
  | item :: rest =>
    match item.content with
    | .error e => .error e
    | .ok record =>
      match v.check record with
      | (.error e, _) => .error e
      | (.ok (), next) => next.checkItems rest

end Validator

/-- Validates a complete dump. -/
def verify (format : Format) (text : String) : Except Error Report := do
  let items ← Dump.items format text
  let last ← (Validator.new format).checkItems items
  last.finish

end DeviceHarness.Checkin
