import DeviceHarness.Bench

/-! What a command works with: the bench, and what it has printed. A command ends early when it fails,
with a message for people, or when it has shown a result that is no success. -/

namespace DeviceHarness.CommandLine

structure Console where
  bench : Bench
  printed : String

/-- How a command ends early. -/
inductive Stop where
  /-- It failed; the causes follow the message, the nearest first. -/
  | failed (message : String) (causes : List String)
  /-- What it printed tells of no success. -/
  | unsuccessful
  /-- It met a state that it has no words for, and broke off. -/
  | brokenOff
  deriving Repr, DecidableEq

namespace Stop

/-- A text whose lines, all but the first, are moved to the right. -/
def hanging (blanks : Nat) (text : String) : String :=
  String.intercalate ("\n" ++ String.ofList (List.replicate blanks ' ')) (Text.splitKeeping '\n' text)

/-- A number that ends in the fifth column. -/
def numbered (index : Nat) : String :=
  String.ofList ((Integer.digits index).leftpad 5 ' ') ++ ": "

/-- The causes as they are listed. A single one needs no number. -/
def causeLines : List String → String
  | [] => ""
  | [cause] => "\n\nCaused by:\n    " ++ hanging 4 cause
  | causes => "\n\nCaused by:" ++ String.join (causes.zipIdx.map fun (cause, index) =>
      "\n" ++ numbered index ++ hanging 7 cause)

/-- What is written about it as an error. -/
def complaint : Stop → String
  | failed message causes => "Error: " ++ message ++ causeLines causes ++ "\n"
  | unsuccessful | brokenOff => ""

/-- The status that a program ends with. -/
def status : Stop → Nat
  | failed .. | unsuccessful => 1
  | brokenOff => 101

end Stop

abbrev Task := ExceptT Stop (StateM Console)

namespace Task

variable {α : Type}

def fail (message : String) : Task α := throw (.failed message [])

/-- Adds to what was printed. -/
def print (text : String) : Task Unit :=
  ExceptT.mk fun console => (.ok (), { console with printed := console.printed ++ text })

def printLine (line : String) : Task Unit := print (line ++ "\n")

/-- Work that fails with the message of its error. -/
def ofResult (result : Except Error α) : Task α :=
  match result with
  | .ok a => pure a
  | .error e => fail e.message

def onBench (work : Action Bench α) : Task α :=
  ExceptT.mk fun console =>
    let (result, bench) := work.perform console.bench
    ((ofResult result).run { console with bench := bench })

def onHost (work : Action Host α) : Task α := onBench (Bench.onHost work)

/-- A task goes on from where the one before it left, unless that ended early. -/
theorem run_bind {β : Type} (task : Task α) (next : α → Task β) (console : Console) :
    (task >>= next).run.run console =
      match task.run.run console with
      | (.ok value, left) => (next value).run.run left
      | (.error stop, left) => (.error stop, left) := by
  show (ExceptT.bindCont next (task.run.run console).1) (task.run.run console).2 = _
  obtain ⟨result, left⟩ := task.run.run console
  cases result <;> rfl

/-- A task that goes through has gone through in all its parts. -/
theorem run_bind_eq_ok {β : Type} {task : Task α} {next : α → Task β} {console left : Console} {value : β} :
    (task >>= next).run.run console = (.ok value, left) ↔
      ∃ first between, task.run.run console = (.ok first, between) ∧ (next first).run.run between = (.ok value, left) := by
  rw [run_bind]
  generalize task.run.run console = ran
  obtain ⟨result, mid⟩ := ran
  constructor
  · intro done
    cases result with
    | error stop => cases done
    | ok first => exact ⟨first, mid, rfl, done⟩
  · rintro ⟨first, between, ran, done⟩
    cases ran
    exact done

end Task
end DeviceHarness.CommandLine
