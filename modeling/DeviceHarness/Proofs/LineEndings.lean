import DeviceHarness.Checkin.Validator
import DeviceHarness.Install.Apps
import DeviceHarness.Instrumentation.Output
import DeviceHarness.Proofs.HostCalls
import DeviceHarness.Reply.Features
import DeviceHarness.Reply.Users
import Mathlib.Data.List.Basic

/-! Replies of a shell that puts a carriage return before every line feed. They are understood like those of a shell
that does not: lines and words end at the returns as well, and nothing that is looked for has one in it. -/

namespace DeviceHarness.Text

/-- A text with a carriage return before every line feed. -/
def returned : List Char → List Char
  | [] => []
  | c :: rest => if c = '\n' then '\r' :: '\n' :: returned rest else c :: returned rest

def withReturns (s : String) : String := String.ofList (returned s.toList)

section Characters

variable {c : Char} {s rest : List Char}

@[simp] theorem returned_feed (rest : List Char) : returned ('\n' :: rest) = '\r' :: '\n' :: returned rest := by
  simp [returned]

theorem returned_cons (other : c ≠ '\n') (rest : List Char) : returned (c :: rest) = c :: returned rest := by
  simp [returned, other]

@[simp] theorem returned_append (s rest : List Char) : returned (s ++ rest) = returned s ++ returned rest := by
  induction s with
  | nil => rfl
  | cons c s ih => by_cases feed : c = '\n' <;> simp [returned, feed, ih]

@[simp] theorem isEmpty_returned (s : List Char) : (returned s).isEmpty = s.isEmpty := by
  cases s with
  | nil => rfl
  | cons c rest => by_cases feed : c = '\n' <;> simp [returned, feed]

theorem linesOf_plain (noFeed : c ≠ '\n') (noReturn : c ≠ '\r') (same : linesOf s = linesOf rest) :
    linesOf (c :: s) = linesOf (c :: rest) := by
  have other : ∀ after, c = '\r' → s = '\n' :: after → False := fun _ is _ => noReturn is
  have otherwise : ∀ after, c = '\r' → rest = '\n' :: after → False := fun _ is _ => noReturn is
  rw [linesOf.eq_4 c s noFeed other, linesOf.eq_4 c rest noFeed otherwise, same]

theorem linesOf_returned (plain : '\r' ∉ s) : linesOf (returned s) = linesOf s := by
  induction s with
  | nil => rfl
  | cons c rest ih =>
    rw [List.mem_cons, not_or] at plain
    by_cases feed : c = '\n'
    · subst feed
      rw [returned_feed, linesOf, linesOf, ih plain.2]
    · rw [returned_cons feed]
      exact linesOf_plain feed (Ne.symm plain.1) (ih plain.2)

theorem all_blank_returned (s : List Char) : (returned s).all isBlank = s.all isBlank := by
  induction s with
  | nil => rfl
  | cons c rest ih =>
    by_cases feed : c = '\n'
    · subst feed
      have both : isBlank '\r' = true ∧ isBlank '\n' = true := by decide
      simp [both, ih]
    · simp [returned_cons feed, ih]

/-- The first piece is the same, and so are the others as far as they are not empty. -/
theorem pieces_returned (s : List Char) : ∃ first more others, pieces isBlank s = first :: more ∧
    pieces isBlank (returned s) = first :: others ∧ others.filter (!·.isEmpty) = more.filter (!·.isEmpty) := by
  unfold pieces
  induction s with
  | nil => exact ⟨[], [], [], rfl, rfl, rfl⟩
  | cons c rest ih =>
    obtain ⟨first, more, others, split, returned, same⟩ := ih
    by_cases feed : c = '\n'
    · subst feed
      have both : isBlank '\r' = true ∧ isBlank '\n' = true := by decide
      refine ⟨[], first :: more, [] :: first :: others, ?_, ?_, ?_⟩
      · simp [List.splitOnP_cons_eq_if_modifyHead, both, split]
      · simp [List.splitOnP_cons_eq_if_modifyHead, both, returned]
      · simp [List.filter_cons, same]
    · rw [returned_cons feed, List.splitOnP_cons_eq_if_modifyHead, List.splitOnP_cons_eq_if_modifyHead, split, returned]
      split
      · exact ⟨[], first :: more, first :: others, rfl, rfl, by simp [List.filter_cons, same]⟩
      · exact ⟨c :: first, more, others, rfl, rfl, same⟩

/-! Looking for a piece of text that has neither of the two characters. -/

variable {needle : List Char}

theorem after?_returned (noFeed : '\n' ∉ needle) (noReturn : '\r' ∉ needle) (s : List Char) :
    after? needle (returned s) = (after? needle s).map returned := by
  unfold after?
  induction needle generalizing s with
  | nil => simp [List.isPrefixOf?]
  | cons d needle ih =>
    rw [List.mem_cons, not_or] at noFeed noReturn
    cases s with
    | nil => rfl
    | cons c rest =>
      by_cases feed : c = '\n'
      · subst feed
        simp [List.isPrefixOf?, Ne.symm noFeed.1, Ne.symm noReturn.1]
      · rw [returned_cons feed, List.isPrefixOf?, List.isPrefixOf?, ih noFeed.2 noReturn.2]
        split <;> rfl

theorem beginsWith_eq (start s : List Char) : beginsWith start s = (after? start s).isSome :=
  (List.isSome_isPrefixOf?_eq_isPrefixOf start s).symm

theorem beginsWith_returned (noFeed : '\n' ∉ needle) (noReturn : '\r' ∉ needle) (s : List Char) :
    beginsWith needle (returned s) = beginsWith needle s := by
  rw [beginsWith_eq, beginsWith_eq, after?_returned noFeed noReturn, Option.isSome_map]

theorem occurs_returned (filled : needle ≠ []) (noFeed : '\n' ∉ needle) (noReturn : '\r' ∉ needle) (s : List Char) :
    occurs needle (returned s) = occurs needle s := by
  induction s with
  | nil => rfl
  | cons c rest ih =>
    have begins := beginsWith_returned noFeed noReturn (c :: rest)
    by_cases feed : c = '\n'
    · subst feed
      rw [returned_feed] at begins ⊢
      have within : beginsWith needle ('\n' :: returned rest) = false := by
        cases needle with
        | nil => exact absurd rfl filled
        | cons d needle =>
          rw [List.mem_cons, not_or] at noFeed
          simp [beginsWith, List.isPrefixOf, Ne.symm noFeed.1]
      rw [occurs, occurs, occurs, begins, within, ih, Bool.false_or]
    · rw [returned_cons feed] at begins ⊢
      rw [occurs, occurs, begins, ih]

theorem dropWhile_returned {p : Char → Bool} (alike : p '\r' = p '\n') (s : List Char) :
    (returned s).dropWhile p = returned (s.dropWhile p) := by
  induction s with
  | nil => rfl
  | cons c rest ih =>
    by_cases feed : c = '\n'
    · subst feed
      cases inside : p '\n' <;> simp [inside, alike, ih]
    · rw [returned_cons feed]
      cases inside : p c
      · simp [inside, returned_cons feed]
      · simp [inside, ih]

theorem takeWhile_returned {p : Char → Bool} (alike : p '\r' = p '\n') (s : List Char) :
    (returned s).takeWhile p = returned (s.takeWhile p) := by
  induction s with
  | nil => rfl
  | cons c rest ih =>
    by_cases feed : c = '\n'
    · subst feed
      cases inside : p '\n' <;> simp [inside, alike, ih, returned]
    · rw [returned_cons feed]
      cases inside : p c
      · simp [inside, returned]
      · simp [inside, ih, returned_cons feed]

end Characters

section Strings

variable {s needle : String}

@[simp] theorem toList_withReturns (s : String) : (withReturns s).toList = returned s.toList := String.toList_ofList

theorem withReturns_append (s rest : String) : withReturns (s ++ rest) = withReturns s ++ withReturns rest := by
  simp [withReturns]

theorem lines_withReturns (plain : '\r' ∉ s.toList) : lines (withReturns s) = lines s := by
  rw [lines, toList_withReturns, linesOf_returned plain, lines]

theorem blank_withReturns (s : String) : blank (withReturns s) = blank s := by
  rw [blank, toList_withReturns, all_blank_returned, blank]

theorem words_withReturns (s : String) : words (withReturns s) = words s := by
  obtain ⟨first, more, others, split, returned, same⟩ := pieces_returned s.toList
  rw [words, words, fieldsAt, fieldsAt, toList_withReturns, split, returned, List.filter_cons, List.filter_cons, same]

theorem contains_withReturns (filled : needle.toList ≠ []) (noFeed : '\n' ∉ needle.toList)
    (noReturn : '\r' ∉ needle.toList) (s : String) : contains needle (withReturns s) = contains needle s := by
  rw [contains, toList_withReturns, occurs_returned filled noFeed noReturn, contains]

end Strings
end Text

/-- Both have the same cause, though it may be worded differently. -/
def Error.SameKind (e other : Error) : Prop := e.ctorIdx = other.ctorIdx

theorem Error.SameKind.assertion (text other : String) : (Error.assertion text).SameKind (.assertion other) := rfl

/-- Outcomes with the same value, or failures of the same kind. -/
inductive Alike {α : Type} : Except Error α → Except Error α → Prop where
  | ok (value : α) : Alike (.ok value) (.ok value)
  | error {e other : Error} (kind : e.SameKind other) : Alike (.error e) (.error other)

theorem Alike.refl {α : Type} (outcome : Except Error α) : Alike outcome outcome := by
  cases outcome with
  | ok value => exact .ok value
  | error e => exact .error rfl

theorem Alike.toOption_eq {α : Type} {outcome other : Except Error α} (alike : Alike outcome other) :
    outcome.toOption = other.toOption := by
  cases alike <;> rfl

open Text

namespace Adb

/-- A reader after a reader, both of which do not mind the returns in what they leave unread. -/
theorem bind_returned {first next other : List Char → Option (List Char)}
    (reads : ∀ s, first (returned s) = (first s).map returned)
    (continues : ∀ s, other (returned s) = (next s).map returned) (s : List Char) :
    (first (returned s) >>= other) = (first s >>= next).map returned := by
  rw [reads]
  cases first s with
  | none => rfl
  | some left => exact continues left

theorem afterBlanks?_returned (s : List Char) : afterBlanks? (returned s) = (afterBlanks? s).map returned := by
  cases s with
  | nil => rfl
  | cons c rest =>
    have skipped := dropWhile_returned (p := isBlank) (by decide) (c :: rest)
    by_cases feed : c = '\n'
    · subst feed
      rw [returned_feed] at skipped ⊢
      rw [afterBlanks?, afterBlanks?, skipped]
      rfl
    · rw [returned_cons feed] at skipped ⊢
      rw [afterBlanks?, afterBlanks?, skipped]
      split <;> rfl

theorem missingSerialHere?_returned (s : List Char) :
    missingSerialHere? (returned s) = (missingSerialHere? s).map returned := by
  unfold missingSerialHere?
  refine bind_returned (after?_returned (by decide) (by decide)) (fun s => ?_) s
  refine bind_returned afterBlanks?_returned (fun s => ?_) s
  refine bind_returned (after?_returned (by decide) (by decide)) (fun s => ?_) s
  -- The serial is kept aside while the rest is read.
  rw [takeWhile_returned (by decide), dropWhile_returned (by decide)]
  generalize s.takeWhile (· != '\'') = serial
  refine bind_returned (after?_returned (by decide) (by decide)) (fun s => ?_) _
  refine bind_returned afterBlanks?_returned (fun s => ?_) s
  refine bind_returned (after?_returned (by decide) (by decide)) (fun s => ?_) s
  refine bind_returned afterBlanks?_returned (fun s => ?_) s
  refine bind_returned (after?_returned (by decide) (by decide)) (fun s => ?_) s
  rw [isEmpty_returned]
  split <;> rfl

theorem missingSerial?_returned (s : List Char) : missingSerial? (returned s) = (missingSerial? s).map returned := by
  induction s with
  | nil => rfl
  | cons c rest ih =>
    by_cases feed : c = '\n'
    · subst feed
      have elsewhere {d : Char} (other : d ≠ 'd') (rest : List Char) : missingSerialHere? (d :: rest) = none := by
        have start : "device".toList = 'd' :: "evice".toList := by decide
        simp [missingSerialHere?, after?, start, List.isPrefixOf?, Ne.symm other]
      rw [returned_feed, missingSerial?, missingSerial?, missingSerial?, elsewhere (by decide), elsewhere (by decide),
        elsewhere (by decide), ih, Option.none_or, Option.none_or, Option.none_or]
    · have here := missingSerialHere?_returned (c :: rest)
      rw [returned_cons feed] at here ⊢
      rw [missingSerial?, missingSerial?, here, ih, Option.map_or]

/-- The client's report is of the same kind. The serial in it may have a line feed. -/
theorem connectionError?_withReturns {err : String} (plain : '\r' ∉ err.toList) :
    Option.Rel Error.SameKind (connectionError? (withReturns err)) (connectionError? err) := by
  unfold connectionError?
  rw [contains_withReturns (by decide) (by decide) (by decide), toList_withReturns, missingSerial?_returned,
    lines_withReturns plain]
  split
  · exact .some rfl
  · cases missingSerial? err.toList with
    | some serial => exact .some rfl
    | none =>
      dsimp only [Option.map_none]
      generalize ((lines err).map trim).find? _ = report
      cases report with
      | none => exact .none
      | some line => exact .some rfl

end Adb

namespace Completion

/-- What a shell leaves that prints a carriage return before every line feed. -/
def withReturns (c : Completion) : Completion := { c with out := Text.withReturns c.out, err := Text.withReturns c.err }

/-- The answer is what the shell makes of it, or the failure is of the same kind. -/
theorem answer_withReturns {c : Completion} (plain : '\r' ∉ c.err.toList) (command : String) :
    (∃ reply, c.answer command = .ok reply ∧ c.withReturns.answer command = .ok (Text.withReturns reply)) ∨
      ∃ e other, c.withReturns.answer command = .error e ∧ c.answer command = .error other ∧ e.SameKind other := by
  have reports := Adb.connectionError?_withReturns plain
  have silent : (Text.withReturns c.out).isEmpty = c.out.isEmpty := by
    rw [Bool.eq_iff_iff, String.isEmpty_iff, String.isEmpty_iff, ← String.toList_eq_nil_iff, toList_withReturns,
      ← List.isEmpty_iff, isEmpty_returned, List.isEmpty_iff, String.toList_eq_nil_iff]
  unfold answer transportFailure? withReturns succeeded
  dsimp only
  rw [blank_withReturns, silent, ← withReturns_append]
  generalize Adb.connectionError? (Text.withReturns c.err) = report at reports ⊢
  generalize Adb.connectionError? c.err = other at reports ⊢
  cases reports with
  | some kind => exact .inr ⟨_, _, rfl, rfl, kind⟩
  | none =>
    generalize (!(c.ending == .exited 0) && c.out.isEmpty && blank c.err) = quiet
    cases quiet with
    | true => exact .inr ⟨_, _, rfl, rfl, rfl⟩
    | false => exact .inl ⟨_, rfl, rfl⟩

end Completion

namespace Host

/-- The same host, whose programs are run by such a shell. -/
def withReturns (h : Host) : Host := { h with respond := fun past call => (h.respond past call).withReturns }

end Host

theorem Adb.reply_withReturns (adb : Adb) (h : Host) (request : List String) :
    adb.reply h.withReturns request = (adb.reply h request).map Completion.withReturns :=
  adb.reply_map h h.withReturns Completion.withReturns rfl rfl (fun _ => rfl) request

theorem Reply.userList_withReturns {text : String} (plain : '\r' ∉ text.toList) :
    Alike (Reply.userList (withReturns text)) (Reply.userList text) := by
  unfold Reply.userList
  rw [lines_withReturns plain]
  split
  · dsimp only
    split
    · exact .refl _
    · exact .error (.assertion _ _)
  · exact .error (.assertion _ _)

theorem Install.isInstalled_withReturns {adb : Adb} {package : String} {h : Host}
    (plain : ∀ c, adb.reply h ["shell", listCommand package] = .ok c → '\r' ∉ (c.out ++ c.err).toList) :
    Alike ((isInstalled adb package).perform h.withReturns).1 ((isInstalled adb package).perform h).1 := by
  unfold isInstalled
  rw [Action.perform_bind, Action.perform_bind, Adb.perform_shellText, Adb.perform_shellText, Adb.reply_withReturns]
  cases completed : adb.reply h ["shell", listCommand package] with
  | error e => exact .refl _
  | ok c =>
    have clean := plain c completed
    have noReturn : '\r' ∉ c.err.toList := fun member => clean (by simp [member])
    dsimp only [Except.map]
    rcases c.answer_withReturns noReturn (listCommand package) with
      ⟨reply, answered, again⟩ | ⟨e, other, failed, before, kind⟩
    · rw [again, answered]
      obtain ⟨-, -, rfl⟩ := Completion.answer_eq_ok.mp answered
      dsimp only
      rw [Action.perform_pure, Action.perform_pure, lists, lines_withReturns clean, ← lists]
      exact .refl _
    · rw [failed, before]
      exact .error kind

/-- Carriage returns before the line feeds do not matter to what reads a reply. A listing of packages is read in the
same way where it is all that the device has printed. -/
theorem returns_immaterial (text : String) (plain : '\r' ∉ text.toList) :
    (∀ format, Checkin.verify format (withReturns text) = Checkin.verify format text) ∧
    Instrumentation.Run.ofOutput (withReturns text) = .ofOutput text ∧
    Alike (Reply.userList (withReturns text)) (Reply.userList text) ∧
    (∀ id, Reply.userSerial (withReturns text) id = Reply.userSerial text id) ∧
    Reply.features (withReturns text) = Reply.features text ∧
    ∀ (adb : Adb) (package : String) (h : Host),
      (∀ c, adb.reply h ["shell", Install.listCommand package] = .ok c → c.out ++ c.err = text) →
        Alike ((Install.isInstalled adb package).perform h.withReturns).1 ((Install.isInstalled adb package).perform h).1 := by
  have sameLines : lines (withReturns text) = lines text := lines_withReturns plain
  refine ⟨fun format => ?_, ?_, Reply.userList_withReturns plain, fun id => ?_, ?_, fun adb package h printed => ?_⟩
  · rw [Checkin.verify, Checkin.Dump.items, blank_withReturns, sameLines]
    rfl
  · rw [Instrumentation.Run.ofOutput, Instrumentation.outputLines, toList_withReturns, linesOf_returned plain]
    rfl
  · rw [Reply.userSerial, sameLines, Reply.userSerial]
  · rw [Reply.features, words_withReturns, Reply.features]
  · apply Install.isInstalled_withReturns
    intro c completed
    rwa [printed c completed]

/-- A host whose device prints this text, whatever it is asked. -/
def Host.printing (text : String) : Host where
  environment := []
  accountHome := none
  files := ⟨[(["adb"], .program)]⟩
  workdir := []
  respond _ _ := ⟨.exited 0, text, ""⟩
  history := []
  clock := 0

/-- A stack of two lines, and a listing of packages. -/
theorem returns_immaterial_two :
    let stack := "INSTRUMENTATION_STATUS: class=C\nINSTRUMENTATION_STATUS: stack=first\n  second\n" ++
      "INSTRUMENTATION_STATUS: test=t\nINSTRUMENTATION_STATUS_CODE: -2\n"
    let listing := "package:a.b\npackage:a\n"
    let adb : Adb := ⟨"/adb", none⟩
    ('\r' ∉ stack.toList ∧ '\r' ∈ (withReturns stack).toList ∧
      (Instrumentation.Run.ofOutput (withReturns stack)).tests = [⟨"C", "t", .failed, some "first\n  second"⟩]) ∧
    '\r' ∉ listing.toList ∧
    (∀ c, adb.reply (.printing listing) ["shell", Install.listCommand "a"] = .ok c → c.out ++ c.err = listing) ∧
      ((Install.isInstalled adb "a").perform (Host.printing listing).withReturns).1.toOption = some true := by
  intro stack listing adb
  constructor
  · have evaluated : '\r' ∉ stack.toList ∧ '\r' ∈ returned stack.toList ∧
        (Instrumentation.Run.ofOutput stack).tests = [⟨"C", "t", .failed, some "first\n  second"⟩] := by
      decide +kernel
    obtain ⟨plain, returns, tests⟩ := evaluated
    rw [← toList_withReturns] at returns
    refine ⟨plain, returns, ?_⟩
    rw [(returns_immaterial stack plain).2.1]
    exact tests
  · have plain : '\r' ∉ listing.toList := by decide +kernel
    have printed : ∀ c, adb.reply (.printing listing) ["shell", Install.listCommand "a"] = .ok c →
        c.out ++ c.err = listing := by
      intro c completed
      rw [Adb.reply_eq_respond completed]
      exact String.append_empty
    have alike := (returns_immaterial listing plain).2.2.2.2.2 adb "a" (.printing listing) printed
    refine ⟨plain, printed, ?_⟩
    rw [alike.toOption_eq]
    decide +kernel

end DeviceHarness
