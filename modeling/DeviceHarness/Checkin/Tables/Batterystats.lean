import DeviceHarness.Checkin.Layout

/-! The records of `dumpsys batterystats --checkin`. Every line starts with an old version, a user
id and the letter of an aggregation; field counts include these three and the tag. -/

namespace DeviceHarness.Checkin.Batterystats

/-- The number of fields before the tag. -/
def leadLength : Nat := 3

/-- Since installation, last, current, since unplugged. -/
def aggregations : List String := ["i", "l", "c", "u"]

private def fixed (tags : List String) (n : Nat) (fields : List Field) : Entry :=
  ⟨tags, .any, ⟨.exactly n, fields, .unchecked⟩⟩

private def atLeast (tags : List String) (n : Nat) (fields : List Field) (rest : Rest) : Entry :=
  ⟨tags, .any, ⟨.atLeast n, fields, rest⟩⟩

private def numbers (n : Nat) : List Field := List.replicate n .int

def table : Table :=
  -- `vers`: checkin version, parcel version, first and last platform version
  [fixed ["vers"] 8 [.int, .int, .text, .text],
   fixed ["uid"] 6 [.int, .text],
   -- wakeups, package, service, start time, starts, launches
   fixed ["apk"] 10 [.int, .text, .text, .int, .int, .int],
   -- process, user time, system time, foreground time, starts
   atLeast ["pr"] 9 [.text, .int, .int, .int, .int] .unchecked,
   fixed ["sr"] 7 (numbers 3),
   fixed ["vib"] 6 (numbers 2),
   fixed ["fg"] 6 (numbers 2),
   fixed ["st"] 7 (numbers 3),
   fixed ["wl"] 14 [.text, .int, .literal "f", .int, .int, .literal "p", .int, .int, .literal "w", .int],
   fixed ["sy"] 7 [.text, .int, .int],
   fixed ["jb"] 7 [.text, .int, .int],
   fixed ["kwl"] 7 [.text, .int, .int],
   -- the parts of a wakeup reason, then its time and count
   atLeast ["wr"] 7 [] (.trailingInts 2),
   fixed ["nt"] 14 (numbers 10),
   fixed ["ua"] 7 (numbers 3),
   fixed ["bt"] 12 (.intOr "N/A" :: numbers 7),
   fixed ["dc"] 8 (numbers 4),
   fixed ["lv"] 6 (numbers 2),
   fixed ["wfl"] 7 (numbers 3),
   -- the twelfth value, a count of input events, is no longer kept
   atLeast ["m"] 20 (numbers 11 ++ .literal "0" :: numbers 4) .unchecked,
   fixed ["gn"] 12 (numbers 8),
   fixed ["br"] 9 (numbers 5),
   fixed ["sgt", "sgc"] 9 (numbers 5),
   fixed ["sst"] 5 (numbers 1),
   fixed ["dct", "dcc"] 21 (numbers 17),
   fixed ["wst", "wsc"] 12 (numbers 8),
   fixed ["wsst", "wssc"] 17 (numbers 13),
   fixed ["wsgt", "wsgc"] 9 (numbers 5),
   fixed ["bst", "bsc"] 8 (numbers 4),
   -- capacity, computed, least and greatest drain
   fixed ["pws"] 8 [.double, .double, .double, .double],
   fixed ["pwi"] 6 [.text, .double],
   -- duration, level, screen, power save
   fixed ["dsd", "csd"] 8 [.int, .intOr "?", .text, .text],
   fixed ["dtr"] 5 (numbers 1),
   fixed ["ctr"] 5 (numbers 1)]

/-- The tags that every healthy dump contains. -/
def requiredTags : List String := ["vers", "bt", "dc", "m"]

/-- Checks the fields before the tag. -/
def checkLead (r : Record) : Check := do
  let _ ← r.integerAt? 0
  let _ ← r.integerAt? 1
  let aggregation ← r.field? 2
  Check.require (aggregations.contains aggregation) (.badAggregation aggregation)

end DeviceHarness.Checkin.Batterystats
