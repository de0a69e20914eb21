import DeviceHarness.Checkin.Format
import DeviceHarness.Text.Lines

/-! A dump as its records. Each non-blank line is one record, read at the version that the last
`vers` record before it declared. A line too short to have a tag is an error, but the lines after
it can still be read. -/

namespace DeviceHarness.Checkin

/-- One non-blank line, and the version that holds for the next. -/
structure Item where
  content : Except Error Record
  versionAfter : Option Int

namespace Dump

def item (format : Format) (number : Nat) (version : Option Int) (line : String) : Item :=
  let fields := format.split line
  if fields.length ≤ format.tagIndex then
    ⟨.error (.assertion ("line " ++ Integer.text number ++ " has no tag: " ++ line)), version⟩
  else
    let record : Record := ⟨number, version, format.tagIndex, fields⟩
    ⟨.ok record, (format.declaredVersion record).or version⟩

/-- The items of the lines from line `number` on, at the given version. -/
def itemsFrom (format : Format) (number : Nat) (version : Option Int) : List String → List Item
  | [] => []
  | line :: rest =>
    if Text.blank line then itemsFrom format (number + 1) version rest
    else
      let first := item format number version line
      first :: itemsFrom format (number + 1) first.versionAfter rest

/-- The records of a dump. A device that printed nothing but blanks has not answered. -/
def items (format : Format) (text : String) : Except Error (List Item) :=
  if Text.blank text then
    .error (.assertion ("`" ++ format.command ++ "` produced no output"))
  else .ok (itemsFrom format 1 none (Text.lines text))

end Dump
end DeviceHarness.Checkin
