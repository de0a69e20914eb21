import DeviceHarness.Text.Integer

/-! JSON documents as they are written for people: a line for each element and each member, indented
by two blanks for each level. Only what JSON requires is escaped. -/

namespace DeviceHarness

inductive Json where
  | null
  | boolean (b : Bool)
  | number (n : Int)
  | string (text : String)
  | array (items : List Json)
  /-- The members in the order in which they are written. -/
  | object (members : List (String × Json))

namespace Json

def strings (items : List String) : Json := array (items.map string)

/-- A value that may be missing. -/
def option {α : Type} (write : α → Json) : Option α → Json
  | none => null
  | some a => write a

/-- A member that is left out when it has no value. -/
def member? {α : Type} (name : String) (write : α → Json) (value : Option α) : List (String × Json) :=
  (value.map fun a => (name, write a)).toList

def hexDigit (n : Nat) : Char := Char.ofNat (if n < 10 then 48 + n else 87 + n)

/-- A character inside a string. -/
def escape (c : Char) : List Char :=
  match c with
  | '"' => ['\\', '"']
  | '\\' => ['\\', '\\']
  | '\n' => ['\\', 'n']
  | '\r' => ['\\', 'r']
  | '\t' => ['\\', 't']
  | '\x08' => ['\\', 'b']
  | '\x0c' => ['\\', 'f']
  | c =>
    if c.toNat < 32 then ['\\', 'u', '0', '0', hexDigit (c.toNat / 16), hexDigit (c.toNat % 16)]
    else [c]

def quoted (text : String) : List Char := '"' :: text.toList.flatMap escape ++ ['"']

/-- The start of a line at a level. -/
def indentation (level : Nat) : List Char := '\n' :: List.replicate (2 * level) ' '

mutual

/-- A value whose lines are at a level. -/
def write (level : Nat) : Json → List Char
  | null => "null".toList
  | boolean true => "true".toList
  | boolean false => "false".toList
  | number n => Integer.notationOf n
  | string text => quoted text
  | array [] => ['[', ']']
  | array (item :: rest) =>
    '[' :: indentation (level + 1) ++ write (level + 1) item ++ writeItems (level + 1) rest ++
      indentation level ++ [']']
  | object [] => ['{', '}']
  | object ((name, value) :: rest) =>
    '{' :: indentation (level + 1) ++ quoted name ++ [':', ' '] ++ write (level + 1) value ++
      writeMembers (level + 1) rest ++ indentation level ++ ['}']

/-- The elements after the first. -/
def writeItems (level : Nat) : List Json → List Char
  | [] => []
  | item :: rest => ',' :: indentation level ++ write level item ++ writeItems level rest

/-- The members after the first. -/
def writeMembers (level : Nat) : List (String × Json) → List Char
  | [] => []
  | (name, value) :: rest =>
    ',' :: indentation level ++ quoted name ++ [':', ' '] ++ write level value ++
      writeMembers level rest

end

/-- The document. -/
def pretty (json : Json) : String := String.ofList (write 0 json)

end Json
end DeviceHarness
