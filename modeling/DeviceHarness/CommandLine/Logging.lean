import DeviceHarness.CommandLine.Command
import DeviceHarness.CommandLine.Console
import DeviceHarness.Pattern.Report

/-! The log of a command. Nothing is logged here; what matters is which demands cannot be met, and that
the folder of the log is created. -/

namespace DeviceHarness.CommandLine.Logging

def levels : List String := ["off", "error", "warn", "info", "debug", "trace"]

def isLevelName (s : List Char) : Bool := levels.contains (String.ofList (s.map Char.toLower))

/-- What is wrong with a part such as `info`, `name` or `name = info`. -/
def partComplaint? (part : List Char) : Option String :=
  let spaced (name : List Char) : Option String :=
    if name.any Text.isBlank then
      some ("ignoring invalid part in log spec '" ++ String.ofList name ++
        "' (contains a whitespace)")
    else none
  match (Text.pieces (· == '=') part).map Text.trimmed with
  | [name] => spaced name
  | [name, level] =>
    match spaced name with
    | some complaint => some complaint
    | none => if level.isEmpty || isLevelName level then none else some "Invalid level filter"
  | _ => some ("invalid part in log spec '" ++ String.ofList part ++ "', ignoring it")

/-- What is wrong with the pattern for messages. -/
def filterComplaint? (filter : List Char) : Option String :=
  (Pattern.complaint? (String.ofList filter)).map ("invalid regex filter - " ++ ·)

/-- What is wrong with a demand for what is logged: parts between commas, and after a slash a pattern
for messages. -/
def complaint? (spec : String) : Option String :=
  let (parts, filters) := match Text.pieces (· == '/') spec.toList with
    | parts :: filters => (parts, filters)
    | [] => ([], [])
  if 1 < filters.length then
    some ("invalid log spec '" ++ spec ++ "' (too many '/'s), ignoring it")
  else
    let parts := ((Text.pieces (· == ',') parts).map Text.trimmed).filter (!·.isEmpty)
    match parts.filterMap partComplaint? ++ filters.filterMap filterComplaint? with
    | [] => none
    | complaints => some (String.intercalate "; " complaints)

/-- A demand that makes sense. -/
def requireSpec (what spec : String) : Task Unit :=
  match complaint? spec with
  | none => pure ()
  | some complaint => throw (.failed what ["Failed to parse log specification: " ++ complaint])

/-- Checks what shall be logged: what was demanded, or what the environment says. -/
def checkSpec (logging : Logging) (h : Host) : Task Unit :=
  match logging.spec with
  | some spec => requireSpec ("parsing log spec " ++ spec) spec
  | none =>
    match h.envValue? "RUST_LOG" with
    | some spec =>
      if logging.level = 0 then requireSpec "getting log spec from env" spec else pure ()
    | none => pure ()

/-- The path of the log, if it goes to a file. -/
def file? (logging : Logging) (h : Host) : Option String :=
  if logging.toStderr then none
  else (logging.file.or (h.outputChild "log").toOption).map (Path.join h.workPath)

/-- Creates the folder of the log. -/
def openFolder (folder : String) : Task Unit := do
  match ← Task.onHost (Host.createFolders folder).outcome with
  | .ok () => pure ()
  | .error e => throw (.failed "starting logger"
      ["Log cannot be written, e.g. because the configured output directory is not accessible",
        e.message])

/-- Prepares the log. A path without a file name, which ends in two points, cannot be told from its
folder. -/
def start (logging : Logging) : Task Unit := do
  let h := (← get).bench.host
  checkSpec logging h
  match file? logging h with
  | none => pure ()
  | some file =>
    if h.files.isFolder h.workdir file then
      throw (.failed "creating filespec"
        ["Log file cannot be written because the specified path is a directory"])
    else if (Path.fileName? file).isNone then throw .brokenOff
    else openFolder (Path.parent file)

end DeviceHarness.CommandLine.Logging
