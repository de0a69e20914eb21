import DeviceHarness.Pattern.Fault
import DeviceHarness.Pattern.Properties
import DeviceHarness.Pattern.Syntax

/-! Whether a pattern can be used on texts. The properties that it asks for must exist, and where it
matches bytes instead of characters, it may match only those that are characters by themselves. The
first fault in the order of the text counts. -/

namespace DeviceHarness

namespace Pattern

/-- A name of a property as it is looked up. Blanks, hyphens, underscores, the case of letters, all that
is not ASCII, and `is` at the start say nothing. -/
def lookupName (name : String) : String :=
  let plain (s : List Char) : List Char :=
    ((s.filter fun c => c != ' ' && c != '_' && c != '-' && c.toNat < 0x80).map Char.toLower)
  match name.toList with
  | i :: s :: rest =>
    if i.toLower == 'i' && s.toLower == 's' then
      -- the name of a property that is no longer used
      if plain rest == ['c'] then "isc" else String.ofList (plain rest)
    else String.ofList (plain (i :: s :: rest))
  | short => String.ofList (plain short)

open Properties in
/-- Why a property cannot be asked for. -/
def Property.fault? : Property → Option Fault
  | named name =>
    let name := lookupName name
    if (binary ++ categories ++ scripts).contains name then none
    else if (emptyCategories ++ emptyScripts).contains name then some .propertyValueUnknown
    else some .propertyUnknown
  | valued name value =>
    let name := lookupName name
    match Properties.valued.find? fun (names, _) => names.contains name with
    | some (_, values) =>
      if values.contains (lookupName value) then none else some .propertyValueUnknown
    | none =>
      if (binary ++ unsupported).contains name then some .propertyValueUnknown
      else some .propertyUnknown

/-- A complaint unless something holds. -/
def require (holds : Bool) (fault : Fault) (span : Span) : Except Complaint Unit :=
  if holds then .ok () else .error ⟨fault, span, none⟩

/-- Checks a property, which takes Unicode. -/
def Property.check (unicode : Bool) (span : Span) (property : Property) : Except Complaint Unit := do
  require unicode .unicodeOff span
  match property.fault? with
  | some fault => throw ⟨fault, span, none⟩
  | none => return ()

/-- Checks a character outside of brackets. -/
def Literal.check (unicode : Bool) (l : Literal) : Except Complaint Unit :=
  require (unicode || !l.isByte || l.char.toNat < 0x80) .notUtf8 l.span

/-- Checks a character between brackets. -/
def Literal.checkMember (unicode : Bool) (l : Literal) : Except Complaint Unit := do
  l.check unicode
  require (unicode || l.char.toNat < 0x80) .unicodeOff l.span

/-- Checks an atom. A dot, and every negated class, matches bytes that are no characters, unless it
matches characters. -/
def Atom.check (unicode : Bool) : Atom → Except Complaint Unit
  | literal l => l.check unicode
  | dot span => require unicode .notUtf8 span
  | assertion _ => .ok ()
  | kind span _ negated => require (unicode || !negated) .notUtf8 span
  | property span asked => asked.check unicode span

mutual

def ClassItem.check (unicode : Bool) : ClassItem → Except Complaint Unit
  | empty _ => .ok ()
  | literal l => l.checkMember unicode
  | range _ low high => do
    low.checkMember unicode
    high.checkMember unicode
  | ascii span negated => require (unicode || !negated) .notUtf8 span
  | kind span _ negated => require (unicode || !negated) .notUtf8 span
  | property span asked => asked.check unicode span
  | bracketed span negated inner => do
    inner.check unicode
    require (unicode || !negated) .notUtf8 span
  | union _ items => ClassItem.checkAll unicode items
  | combined _ left right => do
    left.check unicode
    right.check unicode

def ClassItem.checkAll (unicode : Bool) : List ClassItem → Except Complaint Unit
  | [] => .ok ()
  | item :: rest => do
    item.check unicode
    ClassItem.checkAll unicode rest

end

/-- Whether characters are matched after flags. -/
def unicodeAfter (unicode : Bool) (changes : Flags) : Bool := (changes.state? .unicode).getD unicode

mutual

/-- Checks a pattern, and answers whether characters are matched after it: flags are in force to the
end of the group they stand in. -/
def checkMeaning (unicode : Bool) : Pattern → Except Complaint Bool
  | .empty => .ok unicode
  | .directive changes => .ok (unicodeAfter unicode changes)
  | .single a => do
    a.check unicode
    return unicode
  | .bracketed span negated inner => do
    inner.check unicode
    require (unicode || !negated) .notUtf8 span
    return unicode
  | .repetition _ _ _ body => checkMeaning unicode body
  | .group _ changes body => do
    let _ ← checkMeaning (unicodeAfter unicode (changes.getD [])) body
    return unicode
  | .alternation _ branches => checkMeanings unicode branches
  | .sequence _ parts => checkMeanings unicode parts

def checkMeanings (unicode : Bool) : List Pattern → Except Complaint Bool
  | [] => .ok unicode
  | part :: rest => do
    let unicode ← checkMeaning unicode part
    checkMeanings unicode rest

end

end Pattern

end DeviceHarness
