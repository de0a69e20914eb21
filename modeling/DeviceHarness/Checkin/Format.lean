import DeviceHarness.Checkin.Tables.Batterystats
import DeviceHarness.Checkin.Tables.Procstats

/-! The two kinds of checkin dumps: how to ask a device for one, how its lines are cut, and which
tables describe its records. -/

namespace DeviceHarness.Checkin

inductive Format where
  | procstats
  | batterystats
  deriving Repr, DecidableEq

namespace Format

def name : Format → String
  | procstats => "procstats"
  | batterystats => "batterystats"

def ofName? (name : String) : Except Error Format :=
  if name == "procstats" then .ok procstats
  else if name == "batterystats" then .ok batterystats
  else .error (.generic ("unknown checkin format: " ++ name))

/-- The shell command that prints a dump. -/
def command : Format → String
  | procstats => "dumpsys procstats -c"
  | batterystats => "dumpsys batterystats --checkin"

def tagIndex : Format → Nat
  | procstats => 0
  | batterystats => Batterystats.leadLength

def table : Format → Table
  | procstats => Procstats.table
  | batterystats => Batterystats.table

def requiredTags : Format → List String
  | procstats => Procstats.requiredTags
  | batterystats => Batterystats.requiredTags

/-- Cuts a line at commas. Empty columns at the end of a procstats line count, those of a
batterystats line do not. -/
def split : Format → String → List String
  | procstats, line => Text.splitKeeping ',' line
  | batterystats, line => Text.splitDropping ',' line

/-- Checks what all records of the format have in common. -/
def checkLead : Format → Record → Check
  | procstats, _ => .ok ()
  | batterystats, r => Batterystats.checkLead r

/-- The version that a `vers` record declares. A procstats record declares one only if it has no
further fields. -/
def declaredVersion (format : Format) (r : Record) : Option Int :=
  if r.tag == "vers" then
    match format with
    | procstats => if r.fields.length == 2 then (r.integerAt? 1).toOption else none
    | batterystats => (r.integerAt? (Batterystats.leadLength + 1)).toOption
  else none

end Format
end DeviceHarness.Checkin
