import DeviceHarness.Error
import DeviceHarness.Toml.Value

/-! Sections of a configuration: tables that know the file they are from and their own name in it,
so that a bad value can be blamed by its full name. -/

namespace DeviceHarness

structure Section where
  file : String
  /-- The names of the tables around it, from the outside. -/
  path : List String
  table : Toml.Table

/-- What is wrong with a value that was looked up. -/
inductive LookupFault where
  | wrongType
  | missing
  deriving Repr, DecidableEq

namespace LookupFault

def message : LookupFault → String
  | wrongType => "InvalidType"
  | missing => "MissingKey"

end LookupFault

namespace Section

/-- The full name of a key. -/
def fullName (s : Section) (key : String) : String := String.intercalate "." (s.path ++ [key])

def missingKey (s : Section) (key : String) : Error :=
  .invalidConfig s.file ("missing key: " ++ s.fullName key)

def invalidKey (s : Section) (key expected : String) : Error :=
  .invalidConfig s.file
    ("invalid value for key: " ++ s.fullName key ++ " (expected type: " ++ expected ++ ")")

def keys (s : Section) : List String := Dictionary.keys s.table

/-- The value of a key, if it is there; it has to be of the right type. -/
def typed? {α : Type} (s : Section) (read : Toml.Value → Option α) (key : String) :
    Except LookupFault (Option α) :=
  match Dictionary.get? s.table key with
  | none => .ok none
  | some value =>
    match read value with
    | some a => .ok (some a)
    | none => .error .wrongType

def integer? (s : Section) (key : String) : Except LookupFault (Option Int) :=
  s.typed? (fun | .integer n => some n | _ => none) key

def string? (s : Section) (key : String) : Except LookupFault (Option String) :=
  s.typed? (fun | .string text => some text | _ => none) key

/-- A section inside this one. -/
def section? (s : Section) (key : String) : Except LookupFault (Option Section) :=
  s.typed? (fun | .table entries => some ⟨s.file, s.path ++ [key], entries⟩ | _ => none) key

/-- A lookup that must find something. -/
def present {α : Type} (found : Except LookupFault (Option α)) : Except LookupFault α :=
  match found with
  | .ok (some a) => .ok a
  | .ok none => .error .missing
  | .error fault => .error fault

/-- A failed lookup is the fault of the key. -/
def blame {α : Type} (s : Section) (key expected : String) (found : Except LookupFault α) :
    Except Error α :=
  match found with
  | .ok a => .ok a
  | .error .wrongType => .error (s.invalidKey key expected)
  | .error .missing => .error (s.missingKey key)

def optionalInteger (s : Section) (key : String) : Except Error (Option Int) :=
  s.blame key "int" (s.integer? key)

def optionalString (s : Section) (key : String) : Except Error (Option String) :=
  s.blame key "string" (s.string? key)

def optionalSection (s : Section) (key : String) : Except Error (Option Section) :=
  s.blame key "table" (s.section? key)

def requiredString (s : Section) (key : String) : Except Error String :=
  s.blame key "string" (present (s.string? key))

/-- A switch. Anything but a boolean leaves it as it is by default. -/
def switch (s : Section) (key : String) (default : Bool) : Bool :=
  match Dictionary.get? s.table key with
  | some (.boolean b) => b
  | _ => default

end Section
end DeviceHarness
