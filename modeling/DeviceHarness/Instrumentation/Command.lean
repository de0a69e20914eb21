import DeviceHarness.Text.Integer
import DeviceHarness.Text.Search

/-! The command that runs tests on the device. -/

namespace DeviceHarness.Instrumentation

def defaultRunner : String := "android.test.InstrumentationTestRunner"

/-- Which tests to run, and as whom. -/
structure Command where
  package : String
  testClass : Option String
  method : Option String
  user : Option Int
  /-- Further arguments, such as `-e testUser 12`. -/
  params : List String
  runner : String
  deriving Repr, DecidableEq

namespace Command

def forPackage (package : String) : Command := ⟨package, none, none, none, [], defaultRunner⟩

/-- Selects a class. A name that starts with a point is relative to the package. -/
def withClass (c : Command) (name : String) : Command :=
  { c with testClass := some (if Text.startsWith "." name then c.package ++ name else name) }

def withMethod (c : Command) (name : String) : Command := { c with method := some name }
def withUser (c : Command) (id : Int) : Command := { c with user := some id }
def withParam (c : Command) (param : String) : Command := { c with params := c.params ++ [param] }
def withRunner (c : Command) (runner : String) : Command := { c with runner := runner }

/-- The selected class and method. A method without a class selects nothing. -/
def selection? (c : Command) : Option String :=
  c.testClass.map fun name => match c.method with
    | some method => name ++ "#" ++ method
    | none => name

/-- The shell command. -/
def line (c : Command) : String :=
  let user := match c.user with
    | some id => " --user " ++ Integer.text id
    | none => ""
  let params := String.join (c.params.map (" " ++ ·))
  let selection := match c.selection? with
    | some name => " -e class " ++ name
    | none => ""
  "am instrument" ++ user ++ params ++ " -w -r" ++ selection ++ " " ++ c.package ++ "/" ++ c.runner

/-- What is run, for people: the selection, or else the package. -/
def target (c : Command) : String := c.selection?.getD c.package

end Command
end DeviceHarness.Instrumentation
