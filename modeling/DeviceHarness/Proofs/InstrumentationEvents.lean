import DeviceHarness.Instrumentation.Output
import Mathlib.Data.List.Basic

/-! The status events of a run of tests, read off the lines of its output without a reader that
goes from state to state. An event is a line with a status code that can be read; the values it
carries are the last ones given since the event before it, with the lines that continue them. -/

namespace DeviceHarness.Instrumentation

/-- What stands before the first equals sign, trimmed. -/
def keyOf (s : List Char) : List Char := Text.trimmed (s.takeWhile (· != '='))

/-- All that follows the first equals sign. -/
def valueOf (s : List Char) : List Char := (s.dropWhile (· != '=')).drop 1

theorem keyValue_eq (s : List Char) :
    Line.keyValue s = (String.ofList (keyOf s), String.ofList (valueOf s)) := by
  unfold Line.keyValue Text.splitOnce keyOf valueOf
  cases after : s.dropWhile (· != '=') with
  | nil =>
    have whole : s.takeWhile (· != '=') = s := by
      have parts : s.takeWhile (· != '=') ++ s.dropWhile (· != '=') = s := List.takeWhile_append_dropWhile
      rwa [after, List.append_nil] at parts
    simp [whole]
  | cons mark value => simp

/-- A line that starts with one of the five marks. Any other line continues the value before it. -/
def isMarked (line : List Char) : Bool :=
  [Line.statusMark, Line.statusCodeMark, Line.resultMark, Line.codeMark, Line.failedMark].any fun mark =>
    Text.beginsWith mark.toList line

/-- How lines of each kind are written. -/
inductive Written : List Char → Line → Prop where
  | status (rest : List Char) : Written (Line.statusMark.toList ++ rest)
      (.status (String.ofList (keyOf rest)) (String.ofList (valueOf rest)))
  | statusCode (rest : List Char) : Written (Line.statusCodeMark.toList ++ rest)
      (.statusCode (Integer.ofChars? 32 (Text.trimmed rest)))
  | result (rest : List Char) : Written (Line.resultMark.toList ++ rest)
      (.result (String.ofList (keyOf rest)) (String.ofList (valueOf rest)))
  | code (rest : List Char) : Written (Line.codeMark.toList ++ rest)
      (.code (Integer.ofChars? 32 (Text.trimmed rest)))
  | failed (rest : List Char) : Written (Line.failedMark.toList ++ rest)
      (.failed (String.ofList (Text.trimmed rest)))
  | continuation (line : List Char) (plain : isMarked line = false) :
      Written line (.continuation (String.ofList line))

theorem written_ofChars (line : List Char) : Written line (Line.ofChars line) := by
  unfold Line.ofChars
  simp only [keyValue_eq]
  split
  next rest found => obtain rfl := Text.after?_eq_some.mp found; exact .status rest
  next noStatus =>
    split
    next rest found => obtain rfl := Text.after?_eq_some.mp found; exact .statusCode rest
    next noStatusCode =>
      split
      next rest found => obtain rfl := Text.after?_eq_some.mp found; exact .result rest
      next noResult =>
        split
        next rest found => obtain rfl := Text.after?_eq_some.mp found; exact .code rest
        next noCode =>
          split
          next rest found => obtain rfl := Text.after?_eq_some.mp found; exact .failed rest
          next noFailed =>
            rw [Text.after?_eq_none] at noStatus noStatusCode noResult noCode noFailed
            exact .continuation line (by simp [isMarked, noStatus, noStatusCode, noResult, noCode, noFailed])

theorem ofChars_plain {line : List Char} (plain : isMarked line = false) :
    Line.ofChars line = .continuation (String.ofList line) := by
  generalize Line.ofChars line = read, written_ofChars line = written
  cases written with
  | continuation => rfl
  | status | statusCode | result | code | failed => cases plain

/-- The code of a status event: the line has a code, and the code can be read. -/
def codeOf? (line : List Char) : Option Int :=
  (Text.after? Line.statusCodeMark.toList line).bind fun rest => Integer.ofChars? 32 (Text.trimmed rest)

/-- The value that a line gives a key of the bundle. -/
def given? (key : String) (line : List Char) : Option (List Char) :=
  (Text.after? Line.statusMark.toList line).bind fun rest =>
    if keyOf rest = key.toList then some (valueOf rest) else none

/-- Lines that continue a value, each after a line feed. -/
def continuing (lines : List (List Char)) : List Char :=
  (lines.takeWhile (!isMarked ·)).flatMap ('\n' :: ·)

/-- The last value that lines give a key, with the lines that continue it. -/
def lastGiven? (key : String) : List (List Char) → Option (List Char)
  | [] => none
  | line :: rest => (lastGiven? key rest).or ((given? key line).map (· ++ continuing rest))

/-- The last value that lines give a key, empty when they give none. -/
def lastGiven (key : String) (lines : List (List Char)) : String :=
  String.ofList ((lastGiven? key lines).getD [])

/-- A status code that could be read, and which test the lines before it name. -/
structure Event where
  code : Int
  testClass : String
  name : String
  deriving Repr, DecidableEq

/-- The event that a status code makes of the lines before it. -/
def Event.closing (since : List (List Char)) (code : Int) : Event :=
  ⟨code, lastGiven "class" since, lastGiven "test" since⟩

@[simp] theorem Event.closing_code (since : List (List Char)) (code : Int) :
    (Event.closing since code).code = code := rfl

/-- The events of lines that follow lines without events. -/
def eventsFrom (since : List (List Char)) : List (List Char) → List Event
  | [] => []
  | line :: rest =>
    match codeOf? line with
    | some code => .closing since code :: eventsFrom [] rest
    | none => eventsFrom (since ++ [line]) rest

/-- The status events of an output, in order. -/
def events (text : String) : List Event := eventsFrom [] (outputLines text.toList)

/-! The bundle of a reading holds the values given since the last event. -/

/-- The key whose value goes on at the end of the lines. -/
def openKey? (lines : List (List Char)) : Option (List Char) :=
  ((lines.filter isMarked).getLast?).bind fun line => (Text.after? Line.statusMark.toList line).map keyOf

theorem openKey?_append (lines : List (List Char)) (line : List Char) :
    openKey? (lines ++ [line]) =
      if isMarked line then (Text.after? Line.statusMark.toList line).map keyOf else openKey? lines := by
  cases marked : isMarked line <;> simp [openKey?, List.filter_append, marked]

theorem isMarked_of_after? {mark : String} {line rest : List Char}
    (member : mark ∈ [Line.statusMark, Line.statusCodeMark, Line.resultMark, Line.codeMark, Line.failedMark])
    (found : Text.after? mark.toList line = some rest) : isMarked line = true := by
  refine List.any_eq_true.mpr ⟨mark, member, ?_⟩
  rw [Text.after?_eq_some.mp found, Text.beginsWith, List.isPrefixOf_iff_prefix]
  exact List.prefix_append _ _

theorem given?_plain {key : String} {line : List Char} (plain : isMarked line = false) :
    given? key line = none := by
  unfold given?
  cases found : Text.after? Line.statusMark.toList line with
  | none => rfl
  | some rest =>
    have marked := isMarked_of_after? (by simp) found
    rw [plain] at marked
    cases marked

/-- A line at the end of others continues what they continue, unless it or one of them is marked. -/
theorem continuing_append (lines : List (List Char)) (line : List Char) :
    continuing (lines ++ [line]) =
      if lines.all (!isMarked ·) && !isMarked line then continuing lines ++ '\n' :: line
      else continuing lines := by
  induction lines with
  | nil => cases marked : isMarked line <;> simp [continuing, marked]
  | cons head rest ih =>
    cases marked : isMarked head with
    | true => simp [continuing, marked]
    | false =>
      simp only [continuing] at ih
      simp only [continuing, List.cons_append, List.takeWhile_cons, marked, Bool.not_false, if_true,
        List.flatMap_cons, List.all_cons, Bool.true_and, ih]
      split <;> simp

theorem lastGiven?_append_marked {key : String} {lines : List (List Char)} {line : List Char}
    (marked : isMarked line = true) :
    lastGiven? key (lines ++ [line]) = (given? key line).or (lastGiven? key lines) := by
  induction lines with
  | nil => simp [lastGiven?, continuing]
  | cons head rest ih =>
    have same : continuing (rest ++ [line]) = continuing rest := by simp [continuing_append, marked]
    rw [List.cons_append, lastGiven?, ih, same, lastGiven?, Option.or_assoc]

theorem lastGiven?_plain {key : String} {lines : List (List Char)}
    (plain : lines.all (!isMarked ·) = true) : lastGiven? key lines = none := by
  induction lines with
  | nil => rfl
  | cons head rest ih =>
    simp only [List.all_cons, Bool.and_eq_true, Bool.not_eq_true'] at plain
    simp [lastGiven?, ih (by simpa using plain.2), given?_plain plain.1]

/-- The key that is open at the end was opened by the first line, unless a later line is marked. -/
theorem openKey?_cons (head : List Char) (rest : List (List Char)) :
    openKey? (head :: rest) =
      if rest.all (!isMarked ·) then
        if isMarked head then (Text.after? Line.statusMark.toList head).map keyOf else none
      else openKey? rest := by
  cases plain : rest.all (!isMarked ·) with
  | true =>
    have none : rest.filter isMarked = [] := by simpa using plain
    cases marked : isMarked head <;> simp [openKey?, marked, none]
  | false =>
    have some : rest.filter isMarked ≠ [] := by simpa using plain
    cases marked : isMarked head with
    | true =>
      cases last : (rest.filter isMarked).getLast? with
      | none => exact absurd (List.getLast?_eq_none_iff.mp last) some
      | some line => simp [openKey?, marked, List.getLast?_cons, last]
    | false => simp [openKey?, marked]

theorem given?_eq_some {key : String} {line value : List Char} :
    given? key line = some value ↔
      ∃ rest, Text.after? Line.statusMark.toList line = some rest ∧ keyOf rest = key.toList ∧
        valueOf rest = value := by
  simp [given?, Option.bind_eq_some_iff]

theorem lastGiven?_of_openKey? {key : String} {lines : List (List Char)}
    (opened : openKey? lines = some key.toList) : ∃ value, lastGiven? key lines = some value := by
  induction lines with
  | nil => simp [openKey?] at opened
  | cons head rest ih =>
    rw [openKey?_cons] at opened
    split at opened
    next plain =>
      split at opened
      next marked =>
        obtain ⟨written, found, same⟩ := Option.map_eq_some_iff.mp opened
        have given : given? key head = some (valueOf written) :=
          given?_eq_some.mpr ⟨written, found, same, rfl⟩
        exact ⟨_, by rw [lastGiven?, lastGiven?_plain plain, given]; rfl⟩
      next => cases opened
    next =>
      obtain ⟨value, found⟩ := ih opened
      exact ⟨value, by simp [lastGiven?, found]⟩

theorem lastGiven?_append_plain {key : String} {lines : List (List Char)} {line : List Char}
    (plain : isMarked line = false) :
    lastGiven? key (lines ++ [line]) =
      if openKey? lines = some key.toList then (lastGiven? key lines).map (· ++ '\n' :: line)
      else lastGiven? key lines := by
  induction lines with
  | nil => simp [lastGiven?, given?_plain plain]
  | cons head rest ih =>
    -- The line continues the value of `head` exactly if `head` is the last marked line.
    rw [List.cons_append, lastGiven?, ih, openKey?_cons, lastGiven?, continuing_append]
    cases allPlain : rest.all (!isMarked ·) with
    | true =>
      have closed : openKey? rest = none := by
        have none : rest.filter isMarked = [] := by simpa using allPlain
        simp [openKey?, none]
      rw [lastGiven?_plain allPlain, closed]
      cases given : given? key head with
      | none =>
        have other : ¬ (Text.after? Line.statusMark.toList head).map keyOf = some key.toList := by
          intro same
          obtain ⟨written, found, same⟩ := Option.map_eq_some_iff.mp same
          rw [given?_eq_some.mpr ⟨written, found, same, rfl⟩] at given
          cases given
        split <;> simp
      | some value =>
        obtain ⟨written, found, same, -⟩ := given?_eq_some.mp given
        simp [isMarked_of_after? (by simp) found, found, same, plain]
    | false =>
      by_cases opened : openKey? rest = some key.toList
      · obtain ⟨value, found⟩ := lastGiven?_of_openKey? opened
        simp [opened, found]
      · simp [opened]

/-- What a reading holds about the lines since the last event: their values, and which of them goes
on. -/
structure Reading.Holds (r : Reading) (since : List (List Char)) : Prop where
  bundle : ∀ key, r.bundle.get? key = (lastGiven? key since).map String.ofList
  pending : ∀ key, r.pending = .status key ↔ openKey? since = some key.toList

theorem Reading.Holds.nothing {r : Reading} (bundle : r.bundle = []) (pending : r.pending = .nothing) :
    r.Holds [] where
  bundle key := by simp [bundle, lastGiven?, Dictionary.get?]
  pending key := by simp [pending, openKey?]

theorem Reading.Holds.other {r next : Reading} {since : List (List Char)} {line : List Char}
    (holds : r.Holds since) (marked : isMarked line = true)
    (noStatus : Text.after? Line.statusMark.toList line = none)
    (bundle : next.bundle = r.bundle) (pending : ∀ key, next.pending ≠ .status key) :
    next.Holds (since ++ [line]) where
  bundle key := by
    have given : given? key line = none := by simp [given?, noStatus]
    rw [bundle, holds.bundle, lastGiven?_append_marked marked, given, Option.none_or]
  pending key := by simp [pending, openKey?_append, marked, noStatus]

theorem eq_ofList_iff {key : String} {s : List Char} : key = String.ofList s ↔ s = key.toList := by
  constructor
  · rintro rfl
    exact (String.toList_ofList ..).symm
  · rintro rfl
    exact String.ofList_toList.symm

/-- A line that is no event is held along with those before it. -/
theorem Reading.Holds.feed {r : Reading} {since : List (List Char)} {line : List Char} (holds : r.Holds since)
    (noEvent : codeOf? line = none) : (r.feed (Line.ofChars line)).Holds (since ++ [line]) := by
  generalize Line.ofChars line = read, written_ofChars line = written
  cases written with
  | status rest =>
    have marked : isMarked (Line.statusMark.toList ++ rest) = true := rfl
    have found : Text.after? Line.statusMark.toList (Line.statusMark.toList ++ rest) = some rest := rfl
    constructor
    · intro key
      rw [lastGiven?_append_marked marked]
      simp only [Reading.feed, Dictionary.get?_insert, holds.bundle, given?, found, Option.bind_some, eq_ofList_iff]
      split <;> simp
    · intro key
      rw [openKey?_append, marked, if_pos rfl, found]
      simp only [Reading.feed, Pending.status.injEq, Option.map_some, Option.some.injEq]
      exact eq_comm.trans eq_ofList_iff
  | statusCode rest =>
    have unread : Integer.ofChars? 32 (Text.trimmed rest) = none := noEvent
    rw [unread]
    exact holds.other rfl rfl rfl (by simp [Reading.feed, Reading.statusCode])
  | result rest => exact holds.other rfl rfl rfl (by simp [Reading.feed])
  | code rest => exact holds.other rfl rfl rfl (by simp [Reading.feed])
  | failed rest => exact holds.other rfl rfl rfl (by simp [Reading.feed])
  | continuation _ plain =>
    have stays : (r.feed (.continuation (String.ofList line))).pending = r.pending := by
      cases pending : r.pending <;> simp [Reading.feed, Reading.continued, pending]
    constructor
    · intro key
      rw [lastGiven?_append_plain plain]
      simp only [← holds.pending, Reading.feed, Reading.continued]
      cases pending : r.pending with
      | nothing => simp [holds.bundle]
      | result other => simp [holds.bundle]
      | status opened =>
        rw [Dictionary.get?_modify, holds.bundle, holds.bundle]
        by_cases same : key = opened
        · subst same
          cases lastGiven? key since with
          | none => simp
          | some value => simp [String.ofList_append, String.append_assoc]
        · simp [same, Ne.symm same]
    · intro key
      rw [stays, holds.pending, openKey?_append, plain]
      simp

end DeviceHarness.Instrumentation
