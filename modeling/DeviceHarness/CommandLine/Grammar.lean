import DeviceHarness.Text.Search
import DeviceHarness.Text.Split

/-! How the words of a command line are told apart. Options start with a hyphen, by a long name after
two hyphens or by single letters after one; a value follows its option, in the same word or in the
next one. A word of two hyphens ends the options. All other words are operands, or they name the
command that the rest of the line is for. -/

namespace DeviceHarness.CommandLine

inductive OptionKind where
  /-- An option without a value. -/
  | flag
  /-- An option with a value, which may be given once. -/
  | single
  /-- An option with a value, which may be given several times. Its values may start with a hyphen
  if `hyphens` is set. -/
  | repeated (hyphens : Bool)
  deriving Repr, DecidableEq

structure OptionSpec where
  /-- The long name, which also stands for the option. -/
  name : String
  letter : Option Char
  kind : OptionKind
  /-- Which values the option takes. -/
  accepts : String → Bool

/-- What a command understands. -/
structure Grammar where
  options : List OptionSpec
  /-- How many operands there may be. -/
  most : Option Nat
  accepts : String → Bool
  /-- The names of the commands inside it. A command with others inside it takes no operands. -/
  commands : List String
  /-- Whether it can tell its version. -/
  versioned : Bool

/-- Why reading stops before the end of the line. -/
inductive Halt where
  /-- The line makes no sense. -/
  | usage
  | help
  | version (long : Bool)
  deriving Repr, DecidableEq

/-- What was given, in order. -/
structure Matches where
  options : List (String × String)
  operands : List String
  deriving Repr, DecidableEq

namespace Matches

def nothing : Matches := ⟨[], []⟩

def has (m : Matches) (name : String) : Bool := m.options.any (·.1 == name)

def value? (m : Matches) (name : String) : Option String := m.options.lookup name

def values (m : Matches) (name : String) : List String :=
  (m.options.filter (·.1 == name)).map Prod.snd

end Matches

/-- What a line is for: the command itself, or a command inside it and the rest of the line. What was found
before the name of the inner command may be at fault, which counts only after the inner command. -/
structure Reading where
  found : Except Halt Matches
  inner : Option (String × List String)

namespace Grammar

variable (g : Grammar)

def long? (name : String) : Option OptionSpec := g.options.find? (·.name == name)

def letter? (c : Char) : Option OptionSpec := g.options.find? (·.letter == some c)

/-- Takes note of an option. One that may be given once must not be given again. -/
def addOption (spec : OptionSpec) (value : String) (m : Matches) : Except Halt Matches :=
  let again := match spec.kind with
    | .repeated _ => false
    | .flag | .single => m.has spec.name
  if again || !spec.accepts value then .error .usage
  else .ok { m with options := m.options ++ [(spec.name, value)] }

/-- Takes note of an operand. -/
def addOperand (value : String) (m : Matches) : Except Halt Matches :=
  if g.most.all (m.operands.length < ·) && g.accepts value then
    .ok { m with operands := m.operands ++ [value] }
  else .error .usage

def addOperands (values : List String) (m : Matches) : Except Halt Matches :=
  match values with
  | [] => .ok m
  | value :: rest => do addOperands rest (← g.addOperand value m)

/-- Whether a word looks like an option. -/
def isOption (word : List Char) : Bool :=
  match word with
  | '-' :: _ :: _ => true
  | _ => false

/-- Whether a word of its own may be the value of an option. -/
def takes (spec : OptionSpec) (word : String) : Bool :=
  spec.kind == .repeated true || !isOption word.toList

/-- What an option stands for that every command understands. -/
def common (short : Bool) (name : String) : Halt :=
  if name == (if short then "h" else "help") then .help
  else if g.versioned && name == (if short then "V" else "version") then .version (!short)
  else .usage

/-- What a word of options leaves open. -/
inductive Open where
  /-- Nothing. -/
  | nothing (found : Matches)
  /-- The value of an option, which is in the next word. -/
  | value (spec : OptionSpec) (found : Matches)

/-- Reads a long option, without its hyphens. -/
def readLong (word : List Char) (m : Matches) : Except Halt Open :=
  let (name, attached) := match Text.splitOnce '=' word with
    | some (name, value) => (String.ofList name, some (String.ofList value))
    | none => (String.ofList word, none)
  match g.long? name with
  | none => .error (if attached.isSome then .usage else g.common false name)
  | some spec =>
    match spec.kind, attached with
    | .flag, none => do return .nothing (← addOption spec "" m)
    | .flag, some _ => .error .usage
    | _, some value => do return .nothing (← addOption spec value m)
    | _, none => .ok (.value spec m)

/-- Reads the letters of short options. What follows the letter of an option with a value is that
value, after an equals sign or without one. -/
def readLetters : List Char → Matches → Except Halt Open
  | [], m => .ok (.nothing m)
  | c :: rest, m =>
    match g.letter? c with
    | none => .error (g.common true (String.ofList [c]))
    | some spec =>
      match spec.kind, rest with
      | .flag, _ => do readLetters rest (← addOption spec "" m)
      | _, [] => .ok (.value spec m)
      | _, '=' :: value => do return .nothing (← addOption spec (String.ofList value) m)
      | _, value => do return .nothing (← addOption spec (String.ofList value) m)

/-- Reads a word of options. -/
def readOption (word : List Char) (m : Matches) : Except Halt Open :=
  match word with
  | '-' :: '-' :: long => g.readLong long m
  | _ => g.readLetters (word.drop 1) m

/-- Reads the words of a line from the left. A value in a word of its own is looked at when the next option
or operand comes, or at the end of the line, so its fault waits until then. -/
def read (words : List String) (found : Except Halt Matches) : Except Halt Reading :=
  match words with
  | [] => .ok ⟨found, none⟩
  | word :: rest =>
    if g.commands.contains word then .ok ⟨found, some (word, rest)⟩
    else
      match found with
      | .error halt => .error halt
      | .ok m =>
        if word == "--" then .ok ⟨g.addOperands rest m, none⟩
        else if isOption word.toList then
          match g.readOption word.toList m with
          | .error halt => .error halt
          | .ok (.nothing m) => read rest (.ok m)
          | .ok (.value spec m) =>
            match rest with
            | value :: rest =>
              if takes spec value then read rest (addOption spec value m) else .error .usage
            | [] => .error .usage
        else
          match g.addOperand word m with
          | .error halt => .error halt
          | .ok m => read rest (.ok m)
termination_by words.length

variable {g}

/-- The rest of the line is for the inner command. -/
theorem read_inner {name : String} (known : g.commands.contains name = true) (rest : List String)
    (found : Except Halt Matches) : g.read (name :: rest) found = .ok ⟨found, some (name, rest)⟩ := by
  unfold Grammar.read
  rw [if_pos known]

/-- A flag in a word of its own. -/
theorem read_flag {word : String} {m noted : Matches} (unknown : g.commands.contains word = false)
    (goesOn : word ≠ "--") (option : isOption word.toList = true)
    (flag : g.readOption word.toList m = .ok (.nothing noted)) (rest : List String) :
    g.read (word :: rest) (.ok m) = g.read rest (.ok noted) := by
  rw [read, if_neg (Bool.eq_false_iff.mp unknown), if_neg (by simpa using goesOn), if_pos option, flag]

/-- Words that are neither commands nor options are operands. -/
theorem read_operands {words : List String} {m : Matches}
    (plain : ∀ word ∈ words, g.commands.contains word = false ∧ isOption word.toList = false) :
    g.read words (.ok m) = (g.addOperands words m).map fun m => ⟨.ok m, none⟩ := by
  induction words generalizing m with
  | nil =>
    rw [read]
    rfl
  | cons word rest ih =>
    obtain ⟨unknown, operand⟩ := plain word (by simp)
    have goesOn : word ≠ "--" := by
      rintro rfl
      exact absurd operand (by decide)
    rw [read, if_neg (Bool.eq_false_iff.mp unknown), if_neg (by simpa using goesOn),
      if_neg (Bool.eq_false_iff.mp operand), addOperands]
    cases g.addOperand word m with
    | error halt => rfl
    | ok noted => exact ih fun other member => plain other (by simp [member])

/-- Where any number of any operands is taken, all of them are. -/
theorem addOperands_free (most : g.most = none) (accepts : ∀ value, g.accepts value = true) (values : List String)
    (m : Matches) : g.addOperands values m = .ok { m with operands := m.operands ++ values } := by
  induction values generalizing m with
  | nil => simp [addOperands]
  | cons value rest ih =>
    have added : g.addOperand value m = .ok { m with operands := m.operands ++ [value] } := by
      simp [addOperand, most, accepts]
    rw [addOperands, added]
    show g.addOperands rest _ = _
    rw [ih]
    simp

end Grammar
end DeviceHarness.CommandLine
