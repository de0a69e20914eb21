import DeviceHarness.Pattern.Syntax

/-! How much memory the two automata of a pattern take, the one that reads forward and the one that reads
backward. Counted repetitions are written out, so short patterns may need large automata. Classes of
many characters are counted by what their bytes take, other classes roughly. -/

namespace DeviceHarness

namespace Pattern

/-- The bytes of one state. -/
def stateSize : Nat := 32

/-- The bytes of one way out of a state, and of one choice. -/
def branchSize : Nat := 8

/-- All characters but a few, as the states for their bytes. -/
def nearlyAllSize (backward : Bool) : Nat := if backward then 1000 else 424

def Kind.size (backward negated : Bool) : Kind → Nat
  | digit =>
    if negated then (if backward then 12824 else 2472) else if backward then 5184 else 1592
  | blank => if negated then (if backward then 1924 else 824) else if backward then 680 else 424
  | word =>
    if negated then (if backward then 46900 else 20232) else if backward then 50316 else 20808

/-- A property has some hundreds of ranges. -/
def propertySize (backward : Bool) : Nat := if backward then 25000 else 10000

def Literal.size (l : Literal) : Nat := stateSize * l.char.utf8Size

def Atom.size (backward : Bool) : Atom → Nat
  | literal l => l.size
  | dot _ => nearlyAllSize backward
  | assertion _ => stateSize
  | kind _ which negated => which.size backward negated
  | property _ _ => propertySize backward

mutual

/-- What an item adds to its class. -/
def ClassItem.size (backward : Bool) : ClassItem → Nat
  | empty _ | ascii _ false => branchSize
  | ascii _ true => nearlyAllSize backward
  | literal l => if l.char.toNat < 0x80 then branchSize else l.size + branchSize
  | range _ _ high => if high.char.toNat < 0x80 then branchSize else 4 * high.size + branchSize
  | kind _ which negated => which.size backward negated
  | property _ _ => propertySize backward
  | bracketed _ negated inner =>
    if negated then max (nearlyAllSize backward) (inner.size backward) else inner.size backward
  | union _ items => ClassItem.sizes backward items
  | combined _ left right => max (left.size backward) (right.size backward)

def ClassItem.sizes (backward : Bool) : List ClassItem → Nat
  | [] => 0
  | item :: rest => item.size backward + ClassItem.sizes backward rest

end

mutual

/-- Whether a pattern matches places only, and no characters. -/
def matchesPlaces : Pattern → Bool
  | .empty | .directive _ => true
  | .single (.assertion _) => true
  | .single _ | .bracketed .. => false
  | .repetition _ _ most body => most == some 0 || matchesPlaces body
  | .group _ _ body => matchesPlaces body
  | .alternation _ parts | .sequence _ parts => allMatchPlaces parts

def allMatchPlaces : List Pattern → Bool
  | [] => true
  | part :: rest => matchesPlaces part && allMatchPlaces rest

end

/-- The bytes of a repetition, where its body takes `size`. -/
def repetitionSize (least : Nat) (most : Option Nat) (size : Nat) : Nat :=
  match most with
  | none => max 1 least * size + 3 * stateSize
  | some most =>
    if most == 0 then stateSize
    else if most == least then least * size
    else least * size + stateSize + (most - least) * (size + stateSize + branchSize)

mutual

/-- The bytes of an automaton. Only the one that reads forward remembers groups. Places are the same
however often they are matched. -/
def automatonSize (backward : Bool) : Pattern → Nat
  | .empty | .directive _ => stateSize
  | .single a => a.size backward
  | .bracketed _ negated inner =>
    let size := 2 * stateSize + inner.size backward
    if negated then max (nearlyAllSize backward) size else size
  | .repetition _ least most body =>
    if matchesPlaces body then
      repetitionSize (min least 1) (some (min (most.getD 1) 1)) (automatonSize backward body)
    else repetitionSize least most (automatonSize backward body)
  | .group _ changes body =>
    automatonSize backward body + if changes.isNone && !backward then 2 * stateSize else 0
  | .alternation _ branches =>
    2 * stateSize + branchSize * branches.length + automatonSizes backward branches
  | .sequence _ parts => automatonSizes backward parts

def automatonSizes (backward : Bool) : List Pattern → Nat
  | [] => 0
  | part :: rest => automatonSize backward part + automatonSizes backward rest

end

/-- The most bytes that an automaton may take. -/
def largestAutomaton : Nat := 10485760

/-- Whether both automata are small enough. -/
def fits (pattern : Pattern) : Bool :=
  automatonSize false pattern ≤ largestAutomaton && automatonSize true pattern ≤ largestAutomaton

end Pattern

end DeviceHarness
