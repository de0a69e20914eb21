import DeviceHarness.Action
import DeviceHarness.Dictionary
import DeviceHarness.Duration
import DeviceHarness.Host.FileTree
import DeviceHarness.Host.Process
import DeviceHarness.Text.Search
import DeviceHarness.Wait

/-! The host: its environment, its files, its clock, and the programs it runs. How a run ends may
depend on all runs before it, which is how a device that remembers what it was told appears here. -/

namespace DeviceHarness

structure Host where
  environment : Dictionary String
  /-- The home folder of the account, for when no variable names one. -/
  accountHome : Option String
  files : FileTree
  workdir : List String
  /-- How a run ends, given all earlier runs in order. -/
  respond : List Invocation → Invocation → Completion
  /-- All runs so far, in order. -/
  history : List Invocation
  /-- The time since 1970. -/
  clock : Duration

namespace Host

/-- The value of a variable. An environment is texts such as `name=value`, and what answers a question is
the rest of a text that begins with it and an equals sign. So a question with an equals sign of its own
reaches into the value. -/
def envValue? (h : Host) (name : String) : Option String :=
  match Text.splitOnce '=' name.toList with
  | none => if name.isEmpty then none else h.environment.get? name
  | some (asked, start) => do
    let value ← h.environment.get? (String.ofList asked)
    let rest ← Text.after? (start ++ ['=']) value.toList
    return String.ofList rest

/-- Sets a variable, or unsets it. -/
def setVariable (h : Host) (name : String) (value : Option String) : Host :=
  { h with environment := match value with
    | some value => Dictionary.insert name value h.environment
    | none => h.environment.erase name }

/-- Puts a file or a program where a path leads to, in folders that are created for it. -/
def place (h : Host) (path : String) (node : Node) : Host :=
  let (_, files) := h.files.createFolders h.workdir (Path.parent path)
  match files.follow [] (Path.parts path) with
  | .ok place => { h with files := files.put place node }
  | .error _ => { h with files := files }

/-- Removes what a path leads to, and all below it. -/
def remove (h : Host) (path : String) : Host :=
  match h.files.find h.workdir path with
  | .ok (place, _) => { h with files := h.files.remove place }
  | .error _ => h

/-- Whether a path leads to anything. -/
def present (h : Host) (path : String) : Bool := h.files.present h.workdir path

/-- The text of a file. -/
def readFile (h : Host) (path : String) : Except Error String :=
  match h.files.read h.workdir path with
  | .ok text => .ok text
  | .error .notFound => .error (.missingFile path)
  | .error fault => .error (.system fault.message)

/-- Creates a folder and those on the way to it. What was created stays when the rest fails. -/
def createFolders (path : String) : Action Host Unit :=
  ExceptT.mk fun h =>
    let (result, files) := h.files.createFolders h.workdir path
    (result.mapError fun fault => .system fault.message, { h with files := files })

/-- Makes sure that a path leads to something: to a new folder, if there is nothing yet. -/
def ensureFolder (path : String) : Action Host Unit := do
  let h ← get
  if h.present path then pure () else createFolders path

def isProgram (h : Host) (path : String) : Bool :=
  match h.files.find h.workdir path with
  | .ok (_, .program) => true
  | _ => false

/-- The home folder that the environment names. -/
def namedHome? (h : Host) : Option String := (h.envValue? "HOME").filter (!·.isEmpty)

/-- The home folder. -/
def home? (h : Host) : Option String := h.namedHome?.or h.accountHome

/-- The working folder as a path. -/
def workPath (h : Host) : String := "/" ++ String.intercalate "/" h.workdir

/-- A folder to look for programs in. One that starts with a tilde is below the home folder. -/
def programFolder (h : Host) (folder : String) : String :=
  match folder.toList.head?, Path.components folder with
  | some '~', "~" :: rest => rest.foldl Path.join (h.namedHome?.getD "")
  | _, _ => folder

/-- Where a program may be: in one of the folders, or where it says, if it is no plain name. -/
def candidates (h : Host) (folders : Option String) (program : String) : List String :=
  if program.toList.contains '/' then [Path.join h.workPath program]
  else (folders.toList.flatMap (Text.splitKeeping ':')).map fun folder =>
    Path.join (h.programFolder folder) program

/-- The path of a program, looked up in folders that are separated by colons. -/
def findProgram (h : Host) (folders : Option String) (program : String) : Option String :=
  if program.isEmpty then none else (h.candidates folders program).find? h.isProgram

/-- The name of the program at a path, or why nothing there can be started. -/
def programAt (h : Host) (path : String) : Except FileFault String := do
  match ← h.files.find h.workdir path with
  | (place, .program) => return place.getLast?.getD ""
  | (_, .file _) | (_, .folder) => throw .denied

/-- The first program that was found in folders that are tried in turn. A folder that has no such program,
or none that may be started, leaves it to the next one; in the end a refusal counts more than a lack. -/
def firstFound (refused : Bool) : List (Except FileFault String) → Except FileFault String
  | [] => .error .notFound
  | .ok name :: _ => .ok name
  | .error fault :: more =>
    let refused := refused || fault == .denied
    if [.denied, .notFound, .notAFolder].contains fault then
      if more.isEmpty then .error (if refused then .denied else fault)
      else firstFound refused more
    else .error fault

/-- Where programs are looked up when the environment does not say. -/
def usualFolders : String := "/bin:/usr/bin"

/-- The name of the program that a run of `program` starts, or why nothing starts. -/
def locate (h : Host) (program : String) : Except FileFault String :=
  if program.isEmpty then .error .notFound
  else if program.toList.contains '/' then h.programAt program
  else if FileTree.longestName < program.utf8ByteSize then .error .nameTooLong
  else
    let folders := Text.splitKeeping ':' ((h.envValue? "PATH").getD usualFolders)
    firstFound false (folders.map fun folder => h.programAt (Path.join folder program))

/-- Whether a text can be handed to a program: what is handed over ends at a null character. -/
def isArgument (s : String) : Bool := !s.toList.contains '\x00'

/-- The most bytes of one argument, or of one variable with its value. -/
def longestArgument : Nat := 131071

/-- Whether arguments and variables are short enough to be handed to a program. -/
def fitsProgram (h : Host) (texts : List String) : Bool :=
  texts.all (·.utf8ByteSize ≤ longestArgument) &&
    h.environment.all fun (name, value) => name.utf8ByteSize + 1 + value.utf8ByteSize ≤ longestArgument

/-- Runs a program to its end. This takes no time: the clock is moved by pauses and readings only. -/
def run (program : String) (args : List String) : Action Host Completion :=
  ExceptT.mk fun h =>
    if !(program :: args).all isArgument then
      (.error (.system "nul byte found in provided data"), h)
    else match h.locate program with
    | .error fault => (.error (.system fault.message), h)
    | .ok name =>
      if !h.fitsProgram (program :: args) then
        (.error (.system "Argument list too long (os error 7)"), h)
      else
      let call : Invocation := ⟨name, args⟩
      (.ok (h.respond h.history call), { h with history := h.history ++ [call] })

/-- Reads the clock. No two readings are the same. -/
def now : Action Host Duration := ExceptT.mk fun h => (.ok h.clock, { h with clock := h.clock + 1 })

def sleep (time : Duration) : Action Host Unit :=
  ExceptT.mk fun h => (.ok (), { h with clock := h.clock + time })

end Host

namespace WaitPolicy

/-- Polling on a host that began at `start`. -/
def watch (start : Duration) (check : Action Host Bool) : Watch (StateM Host) where
  check := check.run
  elapsed := fun h => (h.clock + 1 - start, { h with clock := h.clock + 1 })
  pause time := fun h => ((), { h with clock := h.clock + time })

@[simp] theorem run_check_watch (start : Duration) (check : Action Host Bool) (h : Host) :
    (watch start check).check.run h = check.perform h := rfl

@[simp] theorem run_elapsed_watch (start : Duration) (check : Action Host Bool) (h : Host) :
    (watch start check).elapsed.run h = (h.clock + 1 - start, { h with clock := h.clock + 1 }) := rfl

@[simp] theorem run_pause_watch (start : Duration) (check : Action Host Bool) (time : Duration) (h : Host) :
    ((watch start check).pause time).run h = ((), { h with clock := h.clock + time }) := rfl

/-- Polls until the check answers yes. Since the clock never stands still, there are fewer checks
than nanoseconds until the deadline. -/
def pollUntil (p : WaitPolicy) (what : String) (check : Action Host Bool) : Action Host Unit :=
  ExceptT.mk fun h =>
    let (result, after) := (p.poll what (watch h.clock check) (p.timeout + 1) 1).run h
    (result.getD (.error (gaveUp what p.timeout (p.timeout + 1))), after)

/-- A fixed wait for work that gives no sign of its end, never longer than the timeout. -/
def settle (p : WaitPolicy) (wanted : Duration) : Action Host Unit := Host.sleep (min wanted p.timeout)

end WaitPolicy
end DeviceHarness
