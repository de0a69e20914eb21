/-! State codes such as `0n` or `1mt`: the screen, the memory pressure and, in codes that belong to
a process, what the process was doing. Newer devices append further lower case letters to the codes
of processes. These qualifiers are kept beside the code. -/

namespace DeviceHarness.Checkin

inductive Screen where
  | off
  | on
  deriving Repr, DecidableEq

inductive Memory where
  | normal
  | moderate
  | low
  | critical
  deriving Repr, DecidableEq

namespace Screen

def letter : Screen → Char
  | off => '0'
  | on => '1'

def ofLetter? (c : Char) : Option Screen :=
  if c = '0' then some off else if c = '1' then some on else none

end Screen

namespace Memory

def letter : Memory → Char
  | normal => 'n'
  | moderate => 'm'
  | low => 'l'
  | critical => 'c'

def ofLetter? (c : Char) : Option Memory :=
  if c = 'n' then some normal else if c = 'm' then some moderate
  else if c = 'l' then some low else if c = 'c' then some critical else none

end Memory

structure StateCode where
  screen : Screen
  memory : Memory
  /-- The state of the process, in codes that belong to one. -/
  process : Option Char
  /-- Letters that newer devices append to the codes of processes. -/
  qualifier : List Char
  deriving Repr, DecidableEq

namespace StateCode

def isLetter (c : Char) : Bool := 'a' ≤ c && c ≤ 'z'

/-- What follows the first two letters: nothing, or with a process its letter and the qualifiers. -/
def ofTail? (screen : Screen) (memory : Memory) (ofProcess : Bool) : List Char → Option StateCode
  | [] => if ofProcess then none else some ⟨screen, memory, none, []⟩
  | process :: qualifier =>
    if ofProcess && isLetter process && qualifier.all isLetter then
      some ⟨screen, memory, some process, qualifier⟩
    else none

/-- Reads a code that belongs to a process, or one that does not. Neither form is read as the other. -/
def ofChars? (ofProcess : Bool) : List Char → Option StateCode
  | s :: m :: rest => do
    let screen ← Screen.ofLetter? s
    let memory ← Memory.ofLetter? m
    ofTail? screen memory ofProcess rest
  | _ => none

def ofText? (ofProcess : Bool) (s : String) : Option StateCode := ofChars? ofProcess s.toList

/-- The code without qualifiers, two or three characters. -/
def code (c : StateCode) : List Char := c.screen.letter :: c.memory.letter :: c.process.toList

def text (c : StateCode) : String := String.ofList c.code

end StateCode
end DeviceHarness.Checkin
