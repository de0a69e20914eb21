import DeviceHarness.Checkin.Format
import DeviceHarness.CommandLine.Grammar
import DeviceHarness.Host.Basic

/-! The commands, as they are given on a command line. -/

namespace DeviceHarness.CommandLine

/-- Where the log goes, and what is logged. -/
structure Logging where
  toStderr : Bool
  file : Option String
  spec : Option String
  level : Nat
  deriving Repr, DecidableEq

structure RunRequest where
  tests : List String
  json : Bool
  skipPreconditions : Bool
  /-- The suites to run, or none for all of them. -/
  suites : List String
  deriving Repr, DecidableEq

structure CheckinRequest where
  format : Checkin.Format
  /-- A saved dump to validate, in place of one from the device. -/
  file : Option String
  json : Bool
  deriving Repr, DecidableEq

structure InstallRequest where
  abi : Option String
  naturalAbi : Bool
  inheritFrom : Option String
  args : List String
  /-- The only user to install for. -/
  user : Option Int
  expectFailure : Bool
  apks : List String
  deriving Repr, DecidableEq

inductive UserRequest where
  | list (json : Bool)
  | create
  | createProfile (parent : Int)
  | start (id : Int)
  | remove (id : Int)
  | removeAll
  | serial (id : Int)
  deriving Repr, DecidableEq

structure InstrumentRequest where
  testClass : Option String
  method : Option String
  user : Option Int
  runner : Option String
  params : List String
  json : Bool
  package : String
  deriving Repr, DecidableEq

inductive Command where
  | version
  | runCheck
  | run (request : RunRequest)
  | listSuites (tests : Bool)
  | checkin (request : CheckinRequest)
  | install (request : InstallRequest)
  | user (request : UserRequest)
  | instrument (request : InstrumentRequest)
  deriving Repr, DecidableEq

structure Request where
  logging : Logging
  command : Command
  deriving Repr, DecidableEq

/-! Values. -/

def anyText (_ : String) : Bool := true

def isId (s : String) : Bool := ((Integer.ofText? 64 s).filter (Integer.fits 32)).isSome

def isLevel (s : String) : Bool := (Integer.ofText? 64 s).any fun n => 0 ≤ n && n < 256

def isFormat (s : String) : Bool := (Checkin.Format.ofName? s).isOk

/-- Whether a word leads to an APK. -/
def isApk (h : Host) (s : String) : Bool :=
  Path.hasExtension s "apk" && h.files.isFile h.workdir s

def id? (s : String) : Option Int := (Integer.ofText? 64 s).filter (Integer.fits 32)

/-! Grammars. -/

def flag (name : String) (letter : Option Char) : OptionSpec := ⟨name, letter, .flag, anyText⟩

def single (name : String) (letter : Option Char) (accepts : String → Bool) : OptionSpec :=
  ⟨name, letter, .single, accepts⟩

def repeated (name : String) (letter : Option Char) (hyphens : Bool) : OptionSpec :=
  ⟨name, letter, .repeated hyphens, anyText⟩

/-- A command that takes options and no operands. -/
def plain (options : List OptionSpec) : Grammar := ⟨options, some 0, anyText, [], false⟩

def userCommands : List String :=
  ["list", "create", "create-profile", "start", "remove", "serial", "help"]

def topCommands : List String :=
  ["version", "run-check", "run", "list-suites", "ls", "checkin", "install", "user", "instrument",
    "help"]

def topGrammar : Grammar where
  options := [flag "log-stderr" (some 'e'), single "log-file" (some 'f') (!·.isEmpty),
    single "log-spec" (some 's') anyText, single "log-level" (some 'l') isLevel]
  most := some 0
  accepts := anyText
  commands := topCommands
  versioned := true

def runGrammar : Grammar where
  options := [repeated "test" (some 't') false, flag "json" (some 'j'),
    flag "skip-preconditions" none]
  most := none
  accepts := anyText
  commands := []
  versioned := false

def listSuitesGrammar : Grammar := plain [flag "tests" (some 't')]

def checkinGrammar : Grammar where
  options := [single "file" (some 'f') (!·.isEmpty), flag "json" (some 'j')]
  most := some 1
  accepts := isFormat
  commands := []
  versioned := false

def installGrammar (h : Host) : Grammar where
  options := [single "abi" (some 'a') anyText, flag "natural-abi" (some 'n'),
    single "inherit-from" (some 'i') anyText, repeated "arg" none true, single "user" (some 'u') isId,
    flag "expect-failure" none]
  most := none
  accepts := isApk h
  commands := []
  versioned := false

def userGrammar : Grammar := ⟨[], some 0, anyText, userCommands, false⟩

def idGrammar (options : List OptionSpec) : Grammar := ⟨options, some 1, isId, [], false⟩

def instrumentGrammar : Grammar where
  options := [single "class" (some 'c') anyText, single "method" (some 'm') anyText,
    single "user" (some 'u') isId, single "runner" (some 'r') anyText,
    repeated "param" (some 'e') true, flag "json" (some 'j')]
  most := some 1
  accepts := anyText
  commands := []
  versioned := false

/-! Commands from what was given. No command means that what was given does not fit together. -/

def Matches.idOf? (m : Matches) (name : String) : Option Int := (m.value? name).bind id?

def runCommand (m : Matches) : Command :=
  .run ⟨m.values "test", m.has "json", m.has "skip-preconditions", m.operands⟩

def checkinCommand? (m : Matches) : Option Command := do
  let word ← m.operands.head?
  let format ← (Checkin.Format.ofName? word).toOption
  return .checkin ⟨format, m.value? "file", m.has "json"⟩

/-- An install for one user says nothing about sessions, and the device cannot both be told the ABI
and pick it. -/
def installCommand? (m : Matches) : Option Command :=
  let ofSession := ["abi", "natural-abi", "inherit-from", "arg"]
  if m.has "abi" && m.has "natural-abi" then none
  else if m.has "user" && ofSession.any m.has then none
  else if m.operands.isEmpty then none
  else some (.install ⟨m.value? "abi", m.has "natural-abi", m.value? "inherit-from", m.values "arg",
    m.idOf? "user", m.has "expect-failure", m.operands⟩)

/-- A method needs its class. -/
def instrumentCommand? (m : Matches) : Option Command := do
  let package ← m.operands.head?
  if m.has "method" && !m.has "class" then none
  else return .instrument ⟨m.value? "class", m.value? "method", m.idOf? "user", m.value? "runner",
    m.values "param", m.has "json", package⟩

def firstId? (m : Matches) : Option Int := m.operands.head?.bind id?

/-- Either all users or a single one. -/
def removeRequest? (m : Matches) : Option UserRequest :=
  match m.has "all", firstId? m with
  | true, none => some .removeAll
  | false, some id => some (.remove id)
  | _, _ => none

/-! Reading. -/

/-- Reads the words of a command that has no commands inside it. -/
def readCommand {α : Type} (g : Grammar) (words : List String) (build : Matches → Option α) :
    Except Halt α := do
  let reading ← g.read words (.ok .nothing)
  match build (← reading.found) with
  | some a => return a
  | none => throw .usage

/-- Whether words lead to a command, from command to command inside it. -/
def leadsToCommand : List String → Bool
  | [] => true
  | ["user"] => true
  | ["user", inner] => userCommands.contains inner
  | [name] => topCommands.contains name
  | _ => false

/-- Help for the command that words lead to. -/
def helpFor {α : Type} (words : List String) : Except Halt α :=
  throw (if leadsToCommand words then .help else .usage)

def readUser (words : List String) : Except Halt Command := do
  let reading ← userGrammar.read words (.ok .nothing)
  match reading.inner with
  | none => throw .usage
  | some (name, rest) =>
    let request ← match name with
      | "list" =>
        readCommand (plain [flag "json" (some 'j')]) rest fun m => some (.list (m.has "json"))
      | "create" => readCommand (plain []) rest fun _ => some .create
      | "create-profile" =>
        readCommand (plain [single "parent" (some 'p') isId]) rest fun m =>
          some (UserRequest.createProfile ((m.idOf? "parent").getD 0))
      | "start" => readCommand (idGrammar []) rest fun m => (firstId? m).map UserRequest.start
      | "remove" => readCommand (idGrammar [flag "all" (some 'a')]) rest removeRequest?
      | "serial" => readCommand (idGrammar []) rest fun m => (firstId? m).map UserRequest.serial
      | _ => helpFor ("user" :: rest)
    return .user request

def readInner (h : Host) (name : String) (words : List String) : Except Halt Command :=
  match name with
  | "version" => readCommand (plain []) words fun _ => some .version
  | "run-check" => readCommand (plain []) words fun _ => some .runCheck
  | "run" => readCommand runGrammar words fun m => some (runCommand m)
  | "list-suites" | "ls" =>
    readCommand listSuitesGrammar words fun m => some (.listSuites (m.has "tests"))
  | "checkin" => readCommand checkinGrammar words checkinCommand?
  | "install" => readCommand (installGrammar h) words installCommand?
  | "user" => readUser words
  | "instrument" => readCommand instrumentGrammar words instrumentCommand?
  | _ => helpFor words

def loggingOf (m : Matches) : Logging where
  toStderr := m.has "log-stderr"
  file := m.value? "log-file"
  spec := m.value? "log-spec"
  level := (((m.value? "log-level").bind (Integer.ofText? 64)).getD 0).toNat

/-- Reads a whole command line. Whether a word names an APK depends on the host. -/
def read (h : Host) (words : List String) : Except Halt Request := do
  let reading ← topGrammar.read words (.ok .nothing)
  match reading.inner with
  | none => throw .usage
  | some (name, rest) => do
    let command ← readInner h name rest
    return ⟨loggingOf (← reading.found), command⟩

end DeviceHarness.CommandLine
