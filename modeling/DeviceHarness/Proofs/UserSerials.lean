import DeviceHarness.Proofs.UserListing
import Mathlib.Data.List.Basic

/-! Serial numbers of users, looked up in a dump. A dump has a line for each user among lines about other things, and
the entry of a user is told from all others by the whole id, because a brace stands before the id and a colon after
it. So no user answers for one whose id is only a part of its own, or the other way round. -/

namespace DeviceHarness.Text

/-- Two texts that have a character once each: one is within the other exactly if they match on both sides of it. -/
theorem infix_at_once {front rest before after : List Char} {c : Char} (first : c ∉ before) (last : c ∉ after) :
    front ++ c :: rest <:+: before ++ c :: after ↔ front <:+ before ∧ rest <+: after := by
  constructor
  · intro ⟨lead, trail, same⟩
    have joined : before ++ c :: after = (lead ++ front) ++ c :: (rest ++ trail) := by simp [← same]
    obtain ⟨left, -, right⟩ := (List.append_cons_inj_of_notMem first last).mp joined
    exact ⟨⟨lead, left.symm⟩, ⟨trail, right.symm⟩⟩
  · intro ⟨⟨lead, left⟩, ⟨trail, right⟩⟩
    exact ⟨lead, trail, by simp [← left, ← right]⟩

theorem prefix_through {front before rest : List Char} {c : Char} (absent : c ∉ front) (missing : c ∉ before) :
    front ++ [c] <+: before ++ c :: rest ↔ front = before := by
  constructor
  · intro ⟨more, same⟩
    have first := congrArg (List.takeWhile (· != c)) same
    rwa [List.append_assoc, List.singleton_append, takeWhile_ne absent, takeWhile_ne missing] at first
  · intro same
    exact ⟨rest, by simp [same]⟩

end DeviceHarness.Text

namespace DeviceHarness.Reply

/-- A user as the device dumps it. -/
structure DumpedUser where
  id : Int
  name : String
  flags : String
  serial : Int
  name_whole : '\n' ∉ name.toList
  name_open : '{' ∉ name.toList
  name_plain : Text.contains "serialNo=" name = false
  flags_hexadecimal : flags.toList.all isHexadecimal = true
  serial_fits : Integer.fits 32 serial = true

/-- A line of a dump: that of a user, or one about something else. -/
inductive DumpLine where
  | user (u : DumpedUser)
  | other (text : String) (whole : '\n' ∉ text.toList) (foreign : Text.contains "UserInfo\x7b" text = false)

def DumpedUser.entry (u : DumpedUser) : String :=
  userMark u.id ++ u.name ++ ":" ++ u.flags ++ "\x7d serialNo=" ++ Integer.text u.serial

namespace DumpLine

def text : DumpLine → String
  | user u => "  " ++ u.entry
  | other text _ _ => text

def user? : DumpLine → Option DumpedUser
  | user u => some u
  | other .. => none

end DumpLine

/-- A dump, whose last line may lack its ending. -/
def dump (lines : List DumpLine) (ended : Bool) : String :=
  "\n".intercalate (lines.map DumpLine.text) ++ if ended then "\n" else ""

/-! The entry of a user. -/

namespace DumpedUser

variable (u : DumpedUser)

theorem toList_entry :
    u.entry.toList = "UserInfo".toList ++ '{' :: (Integer.notationOf u.id ++ ':' :: (u.name.toList ++ ':' ::
      (u.flags.toList ++ '}' :: (' ' :: "serialNo=".toList ++ Integer.notationOf u.serial)))) := by
  simp [entry, userMark, Integer.text]

theorem flag_hexadecimal {c : Char} (member : c ∈ u.flags.toList) : isHexadecimal c = true :=
  List.all_eq_true.mp u.flags_hexadecimal c member

theorem label_absent {s : List Char} (missing : '=' ∉ s) : ¬ "serialNo=".toList <:+: s :=
  fun within => missing (within.subset (by decide))

theorem label_absent_number (n : Int) : ¬ "serialNo=".toList <:+: Integer.notationOf n := by
  apply label_absent
  intro member
  rcases Integer.mem_notationOf member with sign | digit
  · cases sign
  · cases digit

theorem pieces_entry : ∃ front, Text.piecesBetween "serialNo=".toList u.entry.toList =
    [front, Integer.notationOf u.serial] := by
  let rest (tail : List Char) := "UserInfo".toList ++ '{' :: (Integer.notationOf u.id ++ ':' :: (u.name.toList ++ ':' ::
    (u.flags.toList ++ '}' :: tail)))
  have shape : u.entry.toList = rest [' '] ++ "serialNo=".toList ++ Integer.notationOf u.serial := by
    simp [toList_entry, rest]
  have before : ¬ "serialNo=".toList <:+: rest [' '] ++ "serialNo=".toList.dropLast := by
    have joined : rest [' '] ++ "serialNo=".toList.dropLast = rest " serialNo".toList := by simp [rest]
    have name : ¬ "serialNo=".toList <:+: u.name.toList := by
      rw [← Text.occurs_iff, Bool.not_eq_true]
      exact u.name_plain
    have flags : ¬ "serialNo=".toList <:+: u.flags.toList :=
      label_absent fun member => by cases u.flag_hexadecimal member
    have start : ¬ "serialNo=".toList <:+: "UserInfo".toList := label_absent (by decide)
    have ending : ¬ "serialNo=".toList <:+: " serialNo".toList := label_absent (by decide)
    -- the label holds none of the marks between the parts, so it would have to be within one of them
    rw [joined, Text.infix_separated (by decide), Text.infix_separated (by decide), Text.infix_separated (by decide),
      Text.infix_separated (by decide)]
    simp only [not_or]
    exact ⟨start, label_absent_number u.id, name, flags, ending⟩
  refine ⟨rest [' '], ?_⟩
  rw [shape]
  exact Text.piecesBetween_once (by decide) before (label_absent_number u.serial)

theorem serialOf_entry : serialOf u.entry = .ok u.serial := by
  obtain ⟨front, cut⟩ := u.pieces_entry
  have read : Integer.ofText? 32 (Text.trim (String.ofList (Integer.notationOf u.serial))) = some u.serial :=
    Integer.ofText?_trim_text u.serial_fits
  simp only [serialOf, cut, read]

theorem brace_absent :
    '{' ∉ Integer.notationOf u.id ++ ':' :: (u.name.toList ++ ':' ::
      (u.flags.toList ++ '}' :: (' ' :: "serialNo=".toList ++ Integer.notationOf u.serial))) := by
  have number (n : Int) : '{' ∉ Integer.notationOf n := fun member => by cases plain_of_notationOf member
  have flags : '{' ∉ u.flags.toList := fun member => by cases u.flag_hexadecimal member
  simp [number, flags, u.name_open]

theorem mentions_iff (id : Int) : Text.contains (userMark id) u.entry = true ↔ u.id = id := by
  have colon (n : Int) : ':' ∉ Integer.notationOf n := fun member => by cases plain_of_notationOf member
  have mark : (userMark id).toList = "UserInfo".toList ++ '{' :: (Integer.notationOf id ++ [':']) := by
    simp [userMark, Integer.text]
  rw [Text.contains, Text.occurs_iff, mark, toList_entry, Text.infix_at_once (by decide) u.brace_absent,
    Text.prefix_through (colon id) (colon u.id), Integer.notationOf_inj]
  constructor
  · rintro ⟨-, same⟩
    exact same.symm
  · intro same
    exact ⟨List.suffix_refl _, same.symm⟩

theorem last_solid (front : List Char) :
    ∀ c ∈ (front ++ Integer.notationOf u.serial).getLast?, Text.isBlank c = false := by
  intro c last
  rw [List.getLast?_append_of_ne_nil _ (Integer.notationOf_ne_nil u.serial)] at last
  exact Integer.not_blank_of_mem_notationOf (List.mem_of_mem_getLast? last)

theorem exists_front (lead : String) : ∃ front, (lead ++ u.entry).toList = front ++ Integer.notationOf u.serial :=
  ⟨(lead ++ userMark u.id ++ u.name ++ ":" ++ u.flags ++ "\x7d serialNo=").toList, by simp [entry, Integer.text]⟩

theorem trim_line : Text.trim ("  " ++ u.entry) = u.entry := by
  have blank : ∀ c ∈ "  ".toList, Text.isBlank c = true := List.all_eq_true.mp rfl
  have first : ∀ c ∈ u.entry.toList.head?, Text.isBlank c = false := by
    intro c head
    rw [toList_entry] at head
    cases Option.some.inj head
    decide
  have last : ∀ c ∈ u.entry.toList.getLast?, Text.isBlank c = false := by
    obtain ⟨front, shape⟩ := u.exists_front ""
    rw [String.empty_append] at shape
    rw [shape]
    exact u.last_solid front
  have padded : Text.trimmed ("  ".toList ++ u.entry.toList ++ []) = u.entry.toList :=
    Text.trimmed_padded blank (by simp) first last
  rw [List.append_nil] at padded
  rw [Text.trim, String.toList_append, padded, String.ofList_toList]

theorem isLine : Text.IsLine ("  " ++ u.entry).toList where
  filled := by simp
  whole := by
    have number (n : Int) : '\n' ∉ Integer.notationOf n :=
      fun member => by cases Integer.not_blank_of_mem_notationOf member
    have flags : '\n' ∉ u.flags.toList := fun member => by cases u.flag_hexadecimal member
    simp [toList_entry, number, flags, u.name_whole]
  clean := by
    obtain ⟨front, shape⟩ := u.exists_front "  "
    rw [shape]
    intro last
    cases u.last_solid front '\r' last

end DumpedUser

/-! The line that mentions a user first. -/

def mention? (id : Int) (s : List Char) : Option String :=
  ((Text.linesOf s).map fun line => Text.trim (String.ofList line)).find? (Text.contains (userMark id))

theorem userSerial_eq (reply : String) (id : Int) :
    userSerial reply id = match mention? id reply.toList with
      | some line => serialOf line
      | none => .error (.assertion ("couldn't find user " ++ Integer.text id)) := by
  rw [userSerial, Text.lines, List.map_map]
  rfl

theorem mention?_append (id : Int) (s rest : List Char) :
    mention? id (s ++ '\n' :: rest) = (mention? id (s ++ ['\n'])).or (mention? id rest) := by
  rw [mention?, Text.linesOf_append_feed, List.map_append, List.find?_append]
  rfl

theorem mention?_foreign {s : List Char} (foreign : ¬ "UserInfo\x7b".toList <:+: s) (id : Int) : mention? id s = none := by
  rw [mention?, List.find?_eq_none]
  intro shown member found
  obtain ⟨line, inside, rfl⟩ := List.mem_map.mp member
  apply foreign
  have start : "UserInfo\x7b".toList <:+: (userMark id).toList := by
    rw [userMark, String.toList_append, String.toList_append, List.append_assoc]
    exact (List.prefix_append _ _).isInfix
  have mark : (userMark id).toList <:+: Text.trimmed line := by
    rw [Text.contains, Text.occurs_iff, Text.trim, String.toList_ofList, String.toList_ofList] at found
    exact found
  exact start.trans (mark.trans ((Text.trimmed_infix line).trans (Text.infix_of_mem_linesOf inside)))

theorem mention?_line (id : Int) (line : DumpLine) (ended : Bool) :
    mention? id (line.text.toList ++ if ended then ['\n'] else []) =
      (line.user?.filter (·.id == id)).map DumpedUser.entry := by
  cases line with
  | other text whole foreign =>
    apply mention?_foreign
    rw [Text.contains, ← Bool.not_eq_true, Text.occurs_iff] at foreign
    cases ended with
    | false => rwa [if_neg Bool.false_ne_true, List.append_nil]
    | true =>
      rw [if_pos rfl, Text.infix_separated (by decide), List.infix_nil]
      exact not_or.mpr ⟨foreign, by decide⟩
  | user u =>
    have one : Text.linesOf (("  " ++ u.entry).toList ++ if ended then ['\n'] else []) = [("  " ++ u.entry).toList] := by
      simpa using Text.linesOf_joined (List.forall_mem_singleton.mpr u.isLine) ended
    rw [DumpLine.text, DumpLine.user?, mention?, one, List.map_singleton, String.ofList_toList, u.trim_line,
      Option.filter_some]
    by_cases same : u.id = id
    · simp [(u.mentions_iff id).mpr same, same]
    · simp [mt (u.mentions_iff id).mp same, same]

theorem toList_dump_one (line : DumpLine) (ended : Bool) :
    (dump [line] ended).toList = line.text.toList ++ if ended then ['\n'] else [] := by
  cases ended <;> simp [dump]

theorem toList_dump_more (line next : DumpLine) (rest : List DumpLine) (ended : Bool) :
    (dump (line :: next :: rest) ended).toList = line.text.toList ++ '\n' :: (dump (next :: rest) ended).toList := by
  simp [dump]

theorem mention?_dump (id : Int) (lines : List DumpLine) (ended : Bool) :
    mention? id (dump lines ended).toList =
      ((lines.filterMap DumpLine.user?).find? (·.id == id)).map DumpedUser.entry := by
  have first (line : DumpLine) (rest : List DumpLine) :
      ((line :: rest).filterMap DumpLine.user?).find? (·.id == id) =
        (line.user?.filter (·.id == id)).or ((rest.filterMap DumpLine.user?).find? (·.id == id)) := by
    cases line with
    | other text whole foreign => rfl
    | user u =>
      have shown : (DumpLine.user u).user? = some u := rfl
      rw [List.filterMap_cons_some shown, List.find?_cons, shown, Option.filter_some]
      cases u.id == id <;> rfl
  induction lines with
  | nil => cases ended <;> exact mention?_foreign (by decide) id
  | cons line rest ih =>
    rw [first]
    -- only the last line may lack its ending
    cases rest with
    | nil => rw [toList_dump_one, mention?_line, List.filterMap_nil, List.find?_nil, Option.or_none]
    | cons next rest =>
      have ending := mention?_line id line true
      rw [if_pos rfl] at ending
      rw [toList_dump_more, mention?_append, ending, ih, Option.map_or]

/-- The user with an id is the first one whose id it is. No other user answers for it, whatever its id has in common
with that one: its line may as well be missing. -/
theorem userSerial_dump (lines : List DumpLine) (ended : Bool) (id : Int) :
    (userSerial (dump lines ended) id =
      match (lines.filterMap DumpLine.user?).find? (·.id == id) with
      | some u => .ok u.serial
      | none => .error (.assertion ("couldn't find user " ++ Integer.text id))) ∧
    ∀ before u after, lines = before ++ .user u :: after → u.id ≠ id →
      userSerial (dump lines ended) id = userSerial (dump (before ++ after) ended) id := by
  have answer (lines : List DumpLine) : userSerial (dump lines ended) id =
      match (lines.filterMap DumpLine.user?).find? (·.id == id) with
      | some u => .ok u.serial
      | none => .error (.assertion ("couldn't find user " ++ Integer.text id)) := by
    rw [userSerial_eq, mention?_dump]
    cases (lines.filterMap DumpLine.user?).find? (·.id == id) with
    | none => rfl
    | some u => exact u.serialOf_entry
  refine ⟨answer lines, ?_⟩
  intro before u after split other
  have skipped : (lines.filterMap DumpLine.user?).find? (·.id == id) =
      ((before ++ after).filterMap DumpLine.user?).find? (·.id == id) := by
    simp [split, DumpLine.user?, other]
  rw [answer, answer, skipped]

/-- A user whose id begins like the one that is asked for, and whose name looks like another entry. -/
theorem userSerial_dump_similar :
    let ten : DumpedUser := ⟨10, "UserInfo:1:\x7d", "c0F", 14, by decide, by decide, by decide, by decide, by decide⟩
    let negative : DumpedUser := ⟨-1, "b", "", 15, by decide, by decide, by decide, by decide, by decide⟩
    let one : DumpedUser := ⟨1, "c", "13", -3, by decide, by decide, by decide, by decide, by decide⟩
    let lines := [.user ten, .other "  serialNo=7 1:" (by decide) (by decide), .user negative, .user one]
    userSerial (dump lines true) 1 = .ok (-3) ∧ ten.id ≠ 1 ∧
      userSerial (dump lines true) 1 = userSerial (dump lines.tail true) 1 := by
  intro ten negative one lines
  have other : ten.id ≠ 1 := by decide
  have found : (lines.filterMap DumpLine.user?).find? (·.id == 1) = some one := rfl
  obtain ⟨answer, immaterial⟩ := userSerial_dump lines true 1
  rw [found] at answer
  exact ⟨answer, other, immaterial [] ten lines.tail rfl other⟩

end DeviceHarness.Reply
