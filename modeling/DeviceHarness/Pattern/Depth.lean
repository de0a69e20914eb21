import DeviceHarness.Pattern.Fault
import DeviceHarness.Pattern.Syntax

/-! How deep the parts of a pattern lie in each other. All parts count that hold others: groups,
repetitions, brackets, and also sequences and alternatives of several parts. -/

namespace DeviceHarness

namespace Pattern

mutual

/-- The first part that lies deeper than so many levels. -/
def ClassItem.beyond? : Nat → ClassItem → Option Span
  | levels, bracketed span _ inner =>
    match levels with
    | 0 => some span
    | levels + 1 => inner.beyond? levels
  | levels, union span items =>
    match levels with
    | 0 => some span
    | levels + 1 => ClassItem.anyBeyond? levels items
  | levels, combined span left right =>
    match levels with
    | 0 => some span
    | levels + 1 => (left.beyond? levels).or (right.beyond? levels)
  | _, _ => none

def ClassItem.anyBeyond? : Nat → List ClassItem → Option Span
  | _, [] => none
  | levels, item :: rest => (item.beyond? levels).or (ClassItem.anyBeyond? levels rest)

end

mutual

/-- The first part that lies deeper than so many levels. -/
def beyond? : Nat → Pattern → Option Span
  | 0, .bracketed span _ _ | 0, .repetition span _ _ _ | 0, .group span _ _ => some span
  | 0, .alternation span _ | 0, .sequence span _ => some span
  | levels + 1, .bracketed _ _ inner => inner.beyond? levels
  | levels + 1, .repetition _ _ _ body | levels + 1, .group _ _ body => beyond? levels body
  | levels + 1, .alternation _ parts | levels + 1, .sequence _ parts => anyBeyond? levels parts
  | _, .empty | _, .directive _ | _, .single _ => none

def anyBeyond? : Nat → List Pattern → Option Span
  | _, [] => none
  | levels, part :: rest => (beyond? levels part).or (anyBeyond? levels rest)

end

/-- Patterns may be so many levels deep. -/
def deepest : Nat := 250

def checkDepth (pattern : Pattern) : Except Complaint Unit :=
  match beyond? deepest pattern with
  | some span => .error ⟨.tooDeep deepest, span, none⟩
  | none => .ok ()

end Pattern

end DeviceHarness
