import DeviceHarness.CommandLine.Tasks

/-! The program: a command line is read and carried out, and what is left is a status, what was
printed, and what was written about errors. -/

namespace DeviceHarness.CommandLine

/-- What a build of the program knows about itself. -/
structure Build where
  version : String
  /-- The kind of machine it is for. -/
  target : String
  revision : String
  deriving Repr, DecidableEq

namespace Build

def describe (build : Build) : String :=
  build.version ++ " (" ++ build.target ++ ")\nrev " ++ build.revision

end Build

def programName : String := "hostcts"

def usageLine : String := "Usage: " ++ programName ++ " [OPTIONS] <COMMAND>"

/-- How a run of the program ended. -/
structure Ended where
  status : Nat
  printed : String
  complaints : String
  deriving Repr, DecidableEq

/-- A command that does something. -/
def taskOf (build : Build) : Command → Task Unit
  | .version => Task.printLine build.describe
  | .runCheck => runCheck
  | .run request => run request
  | .listSuites withTests => listSuites withTests
  | .checkin request => checkin request
  | .install request => install request
  | .user request => user request
  | .instrument request => instrument request

/-- A whole request. Only a command that is carried out has a log. -/
def carryOut (build : Build) (request : Request) : Task Unit := do
  if request.command ≠ .version then request.logging.start
  taskOf build request.command

/-- The end of a line that is not carried out. -/
def Halt.ended (build : Build) : Halt → Ended
  | .usage => ⟨2, "", line usageLine⟩
  | .help => ⟨0, line usageLine, ""⟩
  | .version false => ⟨0, line (programName ++ " " ++ build.version), ""⟩
  | .version true => ⟨0, line (programName ++ " " ++ build.describe), ""⟩

/-- Reads a command line and carries it out, on a bench about which nothing is known yet. -/
def execute (build : Build) (words : List String) (h : Host) : Ended × Host :=
  match read h words with
  | .error halt => (halt.ended build, h)
  | .ok request =>
    let (result, console) := (carryOut build request).run.run ⟨.ofHost h, ""⟩
    let ended : Ended := match result with
      | .ok () => ⟨0, console.printed, ""⟩
      | .error stop => ⟨stop.status, console.printed, stop.complaint⟩
    (ended, console.bench.host)

end DeviceHarness.CommandLine
