import DeviceHarness.Checkin.Layout

/-! The records of `dumpsys procstats -c`. -/

namespace DeviceHarness.Checkin.Procstats

/-- From this version on the records of packages have a column for the version of the app. -/
def appVersionSince : Int := 4

private def services : List String := ["pkgsvc-bound", "pkgsvc-exec", "pkgsvc-run", "pkgsvc-start"]

/-- Proportional and unique set sizes: the sample size, then least, mean and greatest of both. -/
private def memorySamples : Rest := .states true 7

private def durations (ofProcess : Bool) : Rest := .states ofProcess 1

private def fixed (n : Nat) (fields : List Field) : Layout := ⟨.exactly n, fields, .unchecked⟩

/-- Tags whose records do not depend on the version. -/
private def always (tags : List String) (layout : Layout) : Entry := ⟨tags, .any, layout⟩

/-- The records of packages, before and since the app version column. -/
private def package (tags : List String) (before since : Layout) : List Entry :=
  [⟨tags, .below appVersionSince, before⟩, ⟨tags, .atLeast appVersionSince, since⟩]

def table : Table :=
  [always ["vers"] (fixed 2 [.int]),
   -- date, start, end, status
   always ["period"] (fixed 5 [.text, .int, .int, .text])]
  -- package, uid, (app version,) process
  ++ package ["pkgproc"]
    ⟨.atLeast 4, [.text, .int, .text], durations true⟩
    ⟨.atLeast 5, [.text, .int, .int, .text], durations true⟩
  ++ package ["pkgpss"]
    ⟨.atLeast 4, [.text, .int, .text], memorySamples⟩
    ⟨.atLeast 5, [.text, .int, .int, .text], memorySamples⟩
  -- package, uid, (app version,) service, count
  ++ package services
    ⟨.atLeast 5, [.text, .int, .text, .int], durations false⟩
    ⟨.atLeast 6, [.text, .int, .int, .text, .int], durations false⟩
  -- package, uid, (app version,) process, wakes, cpu, cached, sizes
  ++ package ["pkgkills"]
    (fixed 8 [.text, .int, .text, .int, .int, .int, .ints 3])
    (fixed 9 [.text, .int, .int, .text, .int, .int, .int, .ints 3])
  ++ [always ["proc"] ⟨.atLeast 3, [.text, .int], durations true⟩,
   always ["pss"] ⟨.atLeast 3, [.text, .int], memorySamples⟩,
   always ["kills"] (fixed 7 [.text, .int, .int, .int, .int, .ints 3]),
   always ["total"] ⟨.atLeast 2, [], .totals⟩]

/-- The tags that every healthy dump contains. -/
def requiredTags : List String := ["pkgproc", "proc", "pss", "total"]

end DeviceHarness.Checkin.Procstats
