import DeviceHarness.Pattern.Span

/-! Patterns as they are written: alternatives, sequences, repetitions and groups of single characters,
classes and assertions. What each part is about is kept as far as it decides whether the pattern can
be used. -/

namespace DeviceHarness

namespace Pattern

/-- A character. One that was given by two hexadecimal digits may also stand for a byte. -/
structure Literal where
  span : Span
  char : Char
  isByte : Bool
  deriving Repr, DecidableEq

/-- A Unicode property as a pattern asks for it. -/
inductive Property where
  | named (name : String)
  | valued (name value : String)
  deriving Repr, DecidableEq

/-- The classes of digits, blanks and word characters. -/
inductive Kind where
  | digit
  | blank
  | word
  deriving Repr, DecidableEq

/-- What matches one character, or a place between characters. -/
inductive Atom where
  | literal (l : Literal)
  | dot (span : Span)
  | assertion (span : Span)
  | kind (span : Span) (which : Kind) (negated : Bool)
  | property (span : Span) (asked : Property)
  deriving Repr, DecidableEq

def Atom.span : Atom → Span
  | literal l => l.span
  | dot span | assertion span | kind span _ _ | property span _ => span

/-- What stands between brackets. -/
inductive ClassItem where
  | empty (span : Span)
  | literal (l : Literal)
  | range (span : Span) (low high : Literal)
  /-- A class such as `[:alpha:]`. -/
  | ascii (span : Span) (negated : Bool)
  | kind (span : Span) (which : Kind) (negated : Bool)
  | property (span : Span) (asked : Property)
  | bracketed (span : Span) (negated : Bool) (inner : ClassItem)
  | union (span : Span) (items : List ClassItem)
  /-- An intersection or a difference of sets. -/
  | combined (span : Span) (left right : ClassItem)

def ClassItem.span : ClassItem → Span
  | empty span | range span _ _ | ascii span _ | kind span _ _ | property span _ => span
  | bracketed span _ _ | union span _ | combined span _ _ => span
  | literal l => l.span

inductive Flag where
  | ignoreCase
  | multiLine
  | dotMatchesAll
  | swapGreed
  | unicode
  | crlf
  | spaced
  deriving Repr, DecidableEq

/-- A flag among others, or the mark after which flags are taken away. -/
inductive FlagItem where
  | negation
  | flag (f : Flag)
  deriving Repr, DecidableEq

abbrev Flags := List FlagItem

/-- Whether flags give or take away a flag, if they mention it. -/
def Flags.state? (flags : Flags) (f : Flag) : Option Bool :=
  if flags.contains (.flag f) then some (!(flags.takeWhile (· != .flag f)).contains .negation) else none

end Pattern

inductive Pattern where
  | empty
  /-- Flags for what follows in the same group. -/
  | directive (changes : Pattern.Flags)
  | single (a : Pattern.Atom)
  | bracketed (span : Pattern.Span) (negated : Bool) (inner : Pattern.ClassItem)
  /-- At least and at most so many times. -/
  | repetition (span : Pattern.Span) (least : Nat) (most : Option Nat) (body : Pattern)
  /-- A group has flags of its own, or else it is remembered. -/
  | group (span : Pattern.Span) (changes : Option Pattern.Flags) (body : Pattern)
  | alternation (span : Pattern.Span) (branches : List Pattern)
  | sequence (span : Pattern.Span) (parts : List Pattern)

end DeviceHarness
