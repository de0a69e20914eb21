/-! Places in the text of a pattern, and stretches between them. Lines and columns are counted from one. -/

namespace DeviceHarness.Pattern

/-- A place between two characters, and how many characters stand before it. -/
structure Mark where
  offset : Nat
  line : Nat
  column : Nat
  deriving Repr, DecidableEq

def Mark.start : Mark := ⟨0, 1, 1⟩

/-- The place after a character. A line feed ends its line. -/
def Mark.after (m : Mark) (c : Char) : Mark :=
  if c = '\n' then ⟨m.offset + 1, m.line + 1, 1⟩ else ⟨m.offset + 1, m.line, m.column + 1⟩

/-- A stretch of a pattern, which may be empty. -/
structure Span where
  start : Mark
  stop : Mark
  deriving Repr, DecidableEq

namespace Span

/-- The empty stretch at a place. -/
def point (m : Mark) : Span := ⟨m, m⟩

def isOneLine (s : Span) : Bool := s.start.line == s.stop.line

/-- Whether a stretch comes first: it starts earlier, or at the same place and stops earlier. -/
def before (a b : Span) : Bool :=
  a.start.offset < b.start.offset || (a.start.offset == b.start.offset && a.stop.offset ≤ b.stop.offset)

end Span
end DeviceHarness.Pattern
