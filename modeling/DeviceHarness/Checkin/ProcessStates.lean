import DeviceHarness.Checkin.Format

/-! The states of a process and how long it was in each, read from a `pkgproc` or `proc` record. -/

namespace DeviceHarness.Checkin

structure ProcessStates where
  package : String
  uid : Int
  /-- The version of the app; only `pkgproc` records of newer dumps have one. -/
  appVersion : Option Int
  /-- `proc` records name the process in place of the package. -/
  process : Option String
  /-- States and the time spent in them, in milliseconds. -/
  states : List (StateCode × Int)
  deriving Repr, DecidableEq

namespace ProcessStates

/-- The columns between the common ones and the states, and the index of the first state. -/
def identity? (r : Record) : Except Mismatch (Option Int × Option String × Nat) :=
  if r.tag == "pkgproc" then
    if r.version.any (Procstats.appVersionSince ≤ ·) then do
      let appVersion ← r.integerAt? 3
      let process ← r.field? 4
      return (some appVersion, some process, 5)
    else do
      let process ← r.field? 3
      return (none, some process, 4)
  else if r.tag == "proc" then .ok (none, none, 3)
  else .error (.noProcessStates r.tag)

/-- A state and its duration. -/
def state? (field : String) : Except Mismatch (StateCode × Int) :=
  match valuesOf field with
  | [code, duration] =>
    match StateCode.ofText? true code with
    | none => .error (.badStateCode code)
    | some state => (integer? duration).map fun time => (state, time)
  | _ => .error (.notDuration field)

def states? : List String → Except Mismatch (List (StateCode × Int))
  | [] => .ok []
  | field :: rest => do
    let first ← state? field
    let more ← states? rest
    return first :: more

def fields? (r : Record) : Except Mismatch ProcessStates := do
  let (appVersion, process, first) ← identity? r
  let package ← r.field? 1
  let uid ← r.integerAt? 2
  let states ← states? (r.fields.drop first)
  return ⟨package, uid, appVersion, process, states⟩

def ofRecord? (r : Record) : Except Error ProcessStates := r.blame (fields? r)

end ProcessStates
end DeviceHarness.Checkin
