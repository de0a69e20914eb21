import DeviceHarness.Proofs.Numerals
import DeviceHarness.Reply.Users
import Mathlib.Data.List.Forall2
import Mathlib.Data.List.TakeWhile

/-! Listings of users, read back. A name may hold the characters that a line is cut at. One of them in the name
of a user that is not running goes unnoticed, because the line then has as many tokens as that of a running user,
and its flags are no word of the state. Any more make the whole listing unreadable, so no id and no state is ever
that of another user. -/

namespace DeviceHarness.Reply

/-- A character that the line of a user is cut at. -/
def isCut (c : Char) : Bool := c == '{' || c == '}' || c == ':'

def isHexadecimal (c : Char) : Bool := Integer.isDigit c || ('a' ≤ c && c ≤ 'f') || ('A' ≤ c && c ≤ 'F')

/-- A user as the device lists it. -/
structure ListedUser where
  id : Int
  name : String
  flags : String
  running : Bool
  id_fits : Integer.fits 32 id = true
  name_whole : '\n' ∉ name.toList
  flags_some : flags ≠ ""
  flags_hexadecimal : flags.toList.all isHexadecimal = true

namespace ListedUser

def state (u : ListedUser) : String := if u.running then " running" else ""

def line (u : ListedUser) : String := "\t" ++ userMark u.id ++ u.name ++ ":" ++ u.flags ++ "\x7d" ++ u.state

/-- How many of the characters that a line is cut at are part of the name. -/
def cuts (u : ListedUser) : Nat := u.name.toList.countP isCut

/-- A name may hold one of them, or none if the user is running. -/
def Readable (u : ListedUser) : Prop := (u.running = true → u.cuts = 0) ∧ u.cuts ≤ 1

instance (u : ListedUser) : Decidable u.Readable := inferInstanceAs (Decidable (_ ∧ _))

/-- What an entry says about the user that it stands for. The name is cut at the first of them. -/
structure Matches (u : ListedUser) (entry : User) : Prop where
  id : entry.id = u.id
  running : entry.running = u.running
  front : entry.name.toList = u.name.toList.takeWhile (!isCut ·)
  name : u.cuts = 0 → entry.name = u.name

end ListedUser

/-- A listing, whose last line may lack its ending. -/
def listing (users : List ListedUser) (ended : Bool) : String :=
  "Users:" ++ String.join (users.map fun u => "\n" ++ u.line) ++ if ended then "\n" else ""

/-! The tokens of a line. -/

theorem isCut_iff {c : Char} : isCut c = true ↔ c = '{' ∨ c = '}' ∨ c = ':' := by
  simp [isCut, or_assoc]

theorem plain_of_hexadecimal {c : Char} (digit : isHexadecimal c = true) : isCut c = false := by
  apply Bool.eq_false_iff.mpr
  intro cut
  rcases isCut_iff.mp cut with rfl | rfl | rfl <;> cases digit

theorem plain_of_notationOf {n : Int} {c : Char} (member : c ∈ Integer.notationOf n) : isCut c = false := by
  rcases Integer.mem_notationOf member with rfl | digit
  · rfl
  · exact plain_of_hexadecimal (by simp [isHexadecimal, digit])

namespace ListedUser

theorem flag_hexadecimal (u : ListedUser) : ∀ c ∈ u.flags.toList, isHexadecimal c = true :=
  List.all_eq_true.mp u.flags_hexadecimal

theorem flags_plain (u : ListedUser) : ∀ c ∈ u.flags.toList, isCut c = false :=
  fun c member => plain_of_hexadecimal (u.flag_hexadecimal c member)

theorem id_plain (u : ListedUser) : ∀ c ∈ Integer.notationOf u.id, isCut c = false :=
  fun _ member => plain_of_notationOf member

theorem state_plain (u : ListedUser) : ∀ c ∈ u.state.toList, isCut c = false := by
  unfold state
  cases u.running <;> simp [isCut]

theorem toList_line (u : ListedUser) :
    u.line.toList = "\tUserInfo".toList ++ '{' :: (Integer.notationOf u.id ++ ':' :: (u.name.toList ++
      ':' :: (u.flags.toList ++ '}' :: u.state.toList))) := by
  simp [line, userMark, Integer.text]

theorem pieces_line (u : ListedUser) :
    Text.pieces isCut u.line.toList =
      "\tUserInfo".toList :: Integer.notationOf u.id :: (Text.pieces isCut u.name.toList ++
        [u.flags.toList, u.state.toList]) := by
  have label : Text.pieces isCut "\tUserInfo".toList = ["\tUserInfo".toList] := Text.pieces_plain (by simp [isCut])
  have opening : isCut '{' = true := rfl
  have closing : isCut '}' = true := rfl
  have colon : isCut ':' = true := rfl
  rw [toList_line, Text.pieces_separated opening, Text.pieces_separated colon, Text.pieces_separated colon,
    Text.pieces_separated closing, label, Text.pieces_plain u.id_plain, Text.pieces_plain u.flags_plain,
    Text.pieces_plain u.state_plain]
  rfl

theorem userTokens_line (u : ListedUser) :
    userTokens u.line = "\tUserInfo" :: Integer.text u.id ::
      ((Text.pieces isCut u.name.toList).map String.ofList ++ u.flags :: if u.running then [u.state] else []) := by
  have tokens : userTokens u.line = (Text.dropEmptyEnd (Text.pieces isCut u.line.toList)).map String.ofList := rfl
  have front : "\tUserInfo".toList :: Integer.notationOf u.id :: (Text.pieces isCut u.name.toList ++
      [u.flags.toList, u.state.toList]) = ("\tUserInfo".toList :: Integer.notationOf u.id ::
        (Text.pieces isCut u.name.toList ++ [u.flags.toList])) ++ [u.state.toList] := by simp
  rw [tokens, pieces_line, front]
  -- An empty state is a piece at the end, which is dropped; the flags before it are never empty.
  cases running : u.running with
  | true =>
    rw [Text.dropEmptyEnd_concat _ (by simp [state, running])]
    simp [Integer.text]
  | false =>
    have none : u.state.toList = [] := by simp [state, running]
    have some : u.flags.toList ≠ [] := by simpa using u.flags_some
    rw [none, Text.dropEmptyEnd_concat_empty, ← List.cons_append, ← List.cons_append, Text.dropEmptyEnd_concat _ some]
    simp [Integer.text]

/-! The user of a line. -/

/-- How a user shows in the entries of a listing. -/
def entry (u : ListedUser) : User := ⟨u.id, String.ofList (u.name.toList.takeWhile (!isCut ·)), u.running⟩

theorem matches_entry (u : ListedUser) : u.Matches u.entry where
  id := rfl
  running := rfl
  front := String.toList_ofList
  name := by
    intro none
    have plain : ∀ c ∈ u.name.toList, (!isCut c) = true := by
      simpa [cuts, List.countP_eq_zero] using none
    rw [entry, List.takeWhile_eq_self_iff.mpr plain, String.ofList_toList]

theorem pieces_name (u : ListedUser) :
    ∃ more, (Text.pieces isCut u.name.toList).map String.ofList = u.entry.name :: more ∧ more.length = u.cuts := by
  have first := Text.head?_pieces isCut u.name.toList
  have count := Text.length_pieces isCut u.name.toList
  obtain ⟨more, split⟩ := List.head?_eq_some_iff.mp first
  rw [split] at count ⊢
  exact ⟨more.map String.ofList, rfl, by simpa [cuts] using count⟩

theorem id_read (u : ListedUser) : Integer.ofText? 32 (Text.trim (Integer.text u.id)) = some u.id :=
  Integer.ofText?_trim_text u.id_fits

theorem flags_not_running (u : ListedUser) : Text.contains "running" u.flags = false := by
  apply Bool.eq_false_iff.mpr
  intro found
  have letter : 'r' ∈ u.flags.toList := Text.mem_of_occurs (by decide) found
  cases u.flag_hexadecimal 'r' letter

theorem user_readable {u : ListedUser} (readable : u.Readable) : user u.line = .ok u.entry := by
  obtain ⟨more, name, count⟩ := u.pieces_name
  have tokens := u.userTokens_line
  rw [name] at tokens
  cases running : u.running with
  | true =>
    have none : more = [] := List.length_eq_zero_iff.mp (count.trans (readable.1 running))
    have shown : u.state = " running" := if_pos running
    rw [none, running, shown] at tokens
    have told : Text.contains "running" " running" = true := by decide
    simp only [user, tokens, List.cons_append, List.nil_append, if_true, id_read, told]
    rw [← running]
    rfl
  | false =>
    rw [running] at tokens
    have few : more.length ≤ 1 := count ▸ readable.2
    rcases more with _ | ⟨hidden, _ | ⟨_, _⟩⟩
    · have silent : Text.contains "running" "" = false := by decide
      simp only [user, tokens, List.cons_append, List.nil_append, Bool.false_eq_true, if_false, id_read, silent]
      rw [← running]
      rfl
    · simp only [user, tokens, List.cons_append, List.nil_append, Bool.false_eq_true, if_false, id_read,
        flags_not_running]
      rw [← running]
      rfl
    · simp at few

end ListedUser

theorem user_refused {line : String} (wide : 5 < (userTokens line).length) :
    user line = .error (.assertion ("user line `" ++ Text.trim line ++ "` doesn't contain 4 or 5 tokens")) := by
  unfold user
  dsimp only
  split
  next tokens => simp [tokens] at wide
  next tokens => simp [tokens] at wide
  next => rfl

theorem ListedUser.user_unreadable {u : ListedUser} (unreadable : ¬ u.Readable) :
    user u.line = .error (.assertion ("user line `" ++ Text.trim u.line ++ "` doesn't contain 4 or 5 tokens")) := by
  obtain ⟨more, name, count⟩ := u.pieces_name
  have length : (userTokens u.line).length = 4 + u.cuts + if u.running then 1 else 0 := by
    rw [userTokens_line, name, ← count]
    cases u.running <;> simp <;> omega
  apply user_refused
  rw [length]
  cases running : u.running with
  | true =>
    have some : u.cuts ≠ 0 := fun none => unreadable ⟨fun _ => none, by omega⟩
    rw [if_pos rfl]
    omega
  | false =>
    have many : ¬ u.cuts ≤ 1 := fun few => unreadable ⟨by simp [running], few⟩
    omega

/-! The users of a listing. -/

theorem users_readable {us : List ListedUser} (readable : ∀ u ∈ us, u.Readable) :
    users (us.map ListedUser.line) = .ok (us.map ListedUser.entry) := by
  induction us with
  | nil => rfl
  | cons u rest ih =>
    obtain ⟨first, others⟩ := List.forall_mem_cons.mp readable
    rw [List.map_cons, users, ListedUser.user_readable first, ih others]
    rfl

theorem users_unreadable {us : List ListedUser} (unreadable : ¬ ∀ u ∈ us, u.Readable) :
    ∃ text, users (us.map ListedUser.line) = .error (.assertion text) := by
  induction us with
  | nil => exact absurd (by simp) unreadable
  | cons u rest ih =>
    rw [List.map_cons, users]
    by_cases first : u.Readable
    · have others : ¬ ∀ u ∈ rest, u.Readable := fun all => unreadable (List.forall_mem_cons.mpr ⟨first, all⟩)
      obtain ⟨text, refused⟩ := ih others
      rw [ListedUser.user_readable first, refused]
      exact ⟨text, rfl⟩
    · rw [ListedUser.user_unreadable first]
      exact ⟨_, rfl⟩

theorem ListedUser.isLine (u : ListedUser) : Text.IsLine u.line.toList where
  filled := by simp [toList_line]
  whole := by
    have inId : '\n' ∉ Integer.notationOf u.id := fun member => by cases Integer.not_blank_of_mem_notationOf member
    have inFlags : '\n' ∉ u.flags.toList := fun member => by cases u.flag_hexadecimal _ member
    have inState : '\n' ∉ u.state.toList := by
      unfold state
      cases u.running <;> decide
    rw [toList_line]
    simp [inId, inFlags, inState, u.name_whole]
  clean := by
    have shape : u.line.toList =
        ("\t" ++ userMark u.id ++ u.name ++ ":" ++ u.flags).toList ++ '}' :: u.state.toList := by simp [line]
    rw [shape, List.getLast?_append, state]
    cases u.running <;> simp

theorem ListedUser.line_solid (u : ListedUser) : (!Text.blank u.line) = true := by
  rw [Text.blank, toList_line, List.all_append, Bool.not_and]
  rfl

theorem lines_listing (us : List ListedUser) (ended : Bool) :
    Text.lines (listing us ended) = "Users:" :: us.map ListedUser.line := by
  have written : (listing us ended).toList =
      "Users:".toList ++ (us.map (·.line.toList)).flatMap ('\n' :: ·) ++ if ended then ['\n'] else [] := by
    have feed (u : ListedUser) : ("\n" ++ u.line).toList = '\n' :: u.line.toList := by simp
    have ending : (if ended then "\n" else "").toList = if ended then ['\n'] else [] := by cases ended <;> rfl
    simp only [listing, String.toList_append, String.toList_join, List.flatMap_map, feed, ending]
  have each : ∀ line ∈ "Users:".toList :: us.map (·.line.toList), Text.IsLine line := by
    refine List.forall_mem_cons.mpr ⟨⟨by decide, by decide, by decide⟩, ?_⟩
    intro line member
    obtain ⟨u, -, rfl⟩ := List.mem_map.mp member
    exact u.isLine
  rw [Text.lines, written, Text.linesOf_joined each]
  simp [Function.comp_def]

theorem userList_eq (us : List ListedUser) (ended : Bool) :
    userList (listing us ended) = users (us.map ListedUser.line) := by
  have solid : ∀ line ∈ "Users:" :: us.map ListedUser.line, (!Text.blank line) = true := by
    intro line member
    rcases List.mem_cons.mp member with rfl | later
    · decide
    · obtain ⟨u, -, rfl⟩ := List.mem_map.mp later
      exact u.line_solid
  have heading : (Text.trimEnd "Users:".toList == "Users:".toList) = true := by decide
  unfold userList
  rw [lines_listing, List.filter_eq_self.mpr solid]
  exact if_pos heading

/-- A listing is read exactly if each name leaves the tokens of its line where they belong, and then the entries
are the users. Otherwise nothing is read at all. -/
theorem userList_listing (us : List ListedUser) (ended : Bool) :
    ((∃ entries, userList (listing us ended) = .ok entries) ↔ ∀ u ∈ us, u.Readable) ∧
    (∀ entries, userList (listing us ended) = .ok entries → List.Forall₂ ListedUser.Matches us entries) ∧
    ∀ e, userList (listing us ended) = .error e → e.isAssertion = true := by
  rw [userList_eq]
  by_cases readable : ∀ u ∈ us, u.Readable
  · have read := users_readable readable
    have told : List.Forall₂ ListedUser.Matches us (us.map ListedUser.entry) :=
      List.forall₂_map_right_iff.mpr (List.forall₂_same.mpr fun u _ => u.matches_entry)
    rw [read]
    refine ⟨⟨fun _ => readable, fun _ => ⟨_, rfl⟩⟩, ?_, ?_⟩
    · intro entries same
      rwa [← Except.ok.inj same]
    · intro e impossible
      cases impossible
  · obtain ⟨text, refused⟩ := users_unreadable readable
    rw [refused]
    refine ⟨⟨?_, fun all => absurd all readable⟩, ?_, ?_⟩
    · rintro ⟨entries, impossible⟩
      cases impossible
    · intro entries impossible
      cases impossible
    · intro e same
      rw [← Except.error.inj same]
      rfl

example :
    let owner : ListedUser := ⟨0, "Owner", "13", true, by decide, by decide, by decide, by decide⟩
    let guest : ListedUser := ⟨-10, "a:b", "c0F", false, by decide, by decide, by decide, by decide⟩
    userList (listing [owner, guest] true) = .ok [⟨0, "Owner", true⟩, ⟨-10, "a", false⟩] := by decide +kernel

end DeviceHarness.Reply
