import DeviceHarness.Proofs.InstrumentationEntries
import DeviceHarness.Proofs.Numerals

/-! Reading undoes writing. A run that is written out as the device writes it is read back as it was: its
tests in order, each with its status and with exactly its stack. A value may hold equals signs, blank lines
and line feeds at its end, because the lines after its first one go on with it. -/

namespace DeviceHarness.Instrumentation

/-- How a test can end, as the device reports it. -/
inductive Outcome where
  | passed
  | error
  | failure
  | ignored
  | assumption
  deriving Repr, DecidableEq

namespace Outcome

def code : Outcome → Int
  | passed => 0
  | error => -1
  | failure => -2
  | ignored => -3
  | assumption => -4

def status : Outcome → Status
  | passed => .passed
  | error | failure => .failed
  | ignored => .ignored
  | assumption => .assumptionFailure

theorem ofCode_code (o : Outcome) : Status.ofCode o.code = o.status := by cases o <;> decide

theorem code_ne_one (o : Outcome) : o.code ≠ 1 := by cases o <;> decide

theorem fits_code (o : Outcome) : Integer.fits 32 o.code = true := by cases o <;> decide

end Outcome

/-- What the device has to say about a test. -/
structure TestReport where
  testClass : String
  name : String
  outcome : Outcome
  stack : Option String
  deriving Repr, DecidableEq

/-! Reports written out. -/

def statusText (key value : String) : String := "INSTRUMENTATION_STATUS: " ++ key ++ "=" ++ value ++ "\n"

def statusCodeText (code : Int) : String := "INSTRUMENTATION_STATUS_CODE: " ++ Integer.text code ++ "\n"

namespace TestReport

def stackText (t : TestReport) : String :=
  match t.stack with
  | some stack => statusText "stack" stack
  | none => ""

/-- The start of a test and its outcome. -/
def text (t : TestReport) : String :=
  statusText "class" t.testClass ++ statusText "test" t.name ++ statusCodeText 1 ++
    statusText "class" t.testClass ++ t.stackText ++ statusText "test" t.name ++ statusCodeText t.outcome.code

def case (t : TestReport) : TestCase := ⟨t.testClass, t.name, t.outcome.status, t.stack⟩

end TestReport

/-- The output of a run that reports tests one after another and reaches its end. -/
def outputOf (reports : List TestReport) : String :=
  String.join (reports.map TestReport.text) ++ "INSTRUMENTATION_CODE: -1"

/-- A value whose lines are read as they are: none ends in a carriage return, and none after the first one
looks like the start of something else. -/
structure Legible (value : String) : Prop where
  clean : ∀ line ∈ value.toList.splitOn '\n', line.getLast? ≠ some '\r'
  plain : ∀ line ∈ (value.toList.splitOn '\n').tail, isMarked line = false

instance (value : String) : Decidable (Legible value) :=
  decidable_of_iff ((∀ line ∈ value.toList.splitOn '\n', line.getLast? ≠ some '\r') ∧
    ∀ line ∈ (value.toList.splitOn '\n').tail, isMarked line = false)
    ⟨fun ⟨clean, plain⟩ => ⟨clean, plain⟩, fun ⟨clean, plain⟩ => ⟨clean, plain⟩⟩

/-- A value on a line of its own. -/
structure OnOneLine (value : String) : Prop where
  whole : '\n' ∉ value.toList
  clean : value.toList.getLast? ≠ some '\r'

instance (value : String) : Decidable (OnOneLine value) :=
  decidable_of_iff ('\n' ∉ value.toList ∧ value.toList.getLast? ≠ some '\r')
    ⟨fun ⟨whole, clean⟩ => ⟨whole, clean⟩, fun ⟨whole, clean⟩ => ⟨whole, clean⟩⟩

structure TestReport.Legible (t : TestReport) : Prop where
  testClass : OnOneLine t.testClass
  name : OnOneLine t.name
  stack : ∀ stack ∈ t.stack, Instrumentation.Legible stack

instance (t : TestReport) : Decidable t.Legible :=
  decidable_of_iff (OnOneLine t.testClass ∧ OnOneLine t.name ∧ ∀ stack ∈ t.stack, Instrumentation.Legible stack)
    ⟨fun ⟨testClass, name, stack⟩ => ⟨testClass, name, stack⟩,
      fun ⟨testClass, name, stack⟩ => ⟨testClass, name, stack⟩⟩

theorem OnOneLine.legible {value : String} (one : OnOneLine value) : Legible value where
  clean := Text.clean_line one.whole one.clean
  plain := by simp [List.splitOn_eq_singleton one.whole]

/-! Reading back what was written. -/

namespace Reading

/-- Reading the lines of a text from some point on. -/
def through (r : Reading) (text : List Char) : Reading := ((outputLines text).map Line.ofChars).foldl feed r

theorem outputLines_append {s rest : List Char} (clean : ∀ line ∈ s.splitOn '\n', line.getLast? ≠ some '\r') :
    outputLines (s ++ '\n' :: rest) = s.splitOn '\n' ++ outputLines rest := by
  have stays : (s.splitOn '\n').map (fun line => (line.reverse.dropWhile (· == '\r')).reverse) = s.splitOn '\n' := by
    rw [List.map_congr_left (g := id), List.map_id]
    intro line member
    rw [List.dropWhile_beq_eq_self_of_head?_ne (by rw [List.head?_reverse]; exact clean line member),
      List.reverse_reverse, id_eq]
  rw [outputLines, Text.linesOf_append clean, List.map_append, stays, ← outputLines]

theorem through_append (r : Reading) {s rest : List Char}
    (clean : ∀ line ∈ s.splitOn '\n', line.getLast? ≠ some '\r') :
    r.through (s ++ '\n' :: rest) = (((s.splitOn '\n').map Line.ofChars).foldl feed r).through rest := by
  rw [through, outputLines_append clean, List.map_append, List.foldl_append, ← through]

theorem through_line (r : Reading) {line rest : List Char} (whole : '\n' ∉ line)
    (clean : line.getLast? ≠ some '\r') :
    r.through (line ++ '\n' :: rest) = (r.feed (Line.ofChars line)).through rest := by
  rw [r.through_append (Text.clean_line whole clean), List.splitOn_eq_singleton whole]
  rfl

/-! The value of a key. -/

/-- A key without blanks and equals signs. -/
def IsKey (key : String) : Prop := ∀ c ∈ key.toList, c ≠ '=' ∧ Text.isBlank c = false

instance (key : String) : Decidable (IsKey key) := List.decidableBAll _ key.toList

section Status

variable {r : Reading} {key : String}

/-- What stands before a value on its first line. -/
def lead (key : String) : List Char := Line.statusMark.toList ++ key.toList ++ ['=']

theorem lead_no_feed (isKey : IsKey key) : '\n' ∉ lead key := by
  have inMark : '\n' ∉ Line.statusMark.toList := by decide
  have inKey : '\n' ∉ key.toList := fun member => absurd (isKey _ member).2 (by decide)
  simp [lead, inMark, inKey]

theorem lead_clean {first : List Char} (clean : first.getLast? ≠ some '\r') :
    (lead key ++ first).getLast? ≠ some '\r' := by
  rw [List.getLast?_append, lead, List.getLast?_concat]
  cases last : first.getLast? with
  | none => simp
  | some c => rwa [last] at clean

theorem ofChars_status (isKey : IsKey key) (value : List Char) :
    Line.ofChars (lead key ++ value) = .status key (String.ofList value) := by
  have noEquals : '=' ∉ key.toList := fun member => (isKey _ member).1 rfl
  have solid : ∀ c ∈ key.toList, Text.isBlank c = false := fun c member => (isKey c member).2
  have read : Line.keyValue (key.toList ++ '=' :: value) = (key, String.ofList value) := by
    rw [keyValue_eq, keyOf, valueOf, Text.takeWhile_ne noEquals, Text.dropWhile_ne noEquals,
      Text.trimmed_of_no_blank solid, String.ofList_toList, List.drop_one, List.tail_cons]
  have shape : lead key ++ value = Line.statusMark.toList ++ (key.toList ++ '=' :: value) := by simp [lead]
  simp only [Line.ofChars, Text.after?_eq_some.mpr shape, read]

/-- Lines that go on with a value are part of it, each after a line feed. -/
theorem feed_continuations {lines : List (List Char)} (plain : ∀ line ∈ lines, isMarked line = false)
    (absent : r.bundle.get? key = none) (shown : List Char) :
    (lines.map Line.ofChars).foldl feed (r.feed (.status key (String.ofList shown))) =
      r.feed (.status key (String.ofList (['\n'].intercalate (shown :: lines)))) := by
  induction lines generalizing shown with
  | nil => rw [List.intercalate_singleton]; rfl
  | cons line rest ih =>
    have more : (r.feed (.status key (String.ofList shown))).feed (Line.ofChars line) =
        r.feed (.status key (String.ofList (shown ++ '\n' :: line))) := by
      rw [ofChars_plain (plain line List.mem_cons_self)]
      simp [feed, continued, Dictionary.modify_insert absent, String.ofList_append, String.append_assoc]
    have joined : ['\n'].intercalate ((shown ++ '\n' :: line) :: rest) =
        ['\n'].intercalate (shown :: line :: rest) := by
      cases rest <;> simp [List.intercalate_cons_cons]
    rw [List.map_cons, List.foldl_cons, more, ih fun other member => plain other (List.mem_cons_of_mem _ member),
      joined]

theorem through_status {value : String} (isKey : IsKey key) (legible : Legible value)
    (absent : r.bundle.get? key = none) (rest : List Char) :
    r.through ((statusText key value).toList ++ rest) = (r.feed (.status key value)).through rest := by
  have shape : (statusText key value).toList ++ rest = (lead key ++ value.toList) ++ '\n' :: rest := by
    -- The mark has to be named, because `simp` would take its letters apart.
    show (Line.statusMark ++ key ++ "=" ++ value ++ "\n").toList ++ rest = _
    simp [lead]
  obtain ⟨clean, plain⟩ := legible
  have whole : ['\n'].intercalate (value.toList.splitOn '\n') = value.toList := List.intercalate_splitOn '\n'
  have parts : (lead key ++ value.toList).splitOn '\n' = (value.toList.splitOn '\n').modifyHead (lead key ++ ·) :=
    Text.splitOn_append (lead_no_feed isKey)
  cases lines : value.toList.splitOn '\n' with
  | nil => exact absurd lines (List.splitOn_ne_nil '\n' value.toList)
  | cons first more =>
    rw [lines] at clean plain whole parts
    rw [List.modifyHead_cons] at parts
    have allClean : ∀ line ∈ (lead key ++ value.toList).splitOn '\n', line.getLast? ≠ some '\r' := by
      rw [parts]
      intro line member
      rcases List.mem_cons.mp member with rfl | later
      · exact lead_clean (clean first List.mem_cons_self)
      · exact clean line (List.mem_cons_of_mem _ later)
    rw [shape, through_append r allClean, parts, List.map_cons, List.foldl_cons, ofChars_status isKey]
    rw [List.tail_cons] at plain
    rw [feed_continuations plain absent, whole, String.ofList_toList]

end Status

/-! The report of a test, and the reports of a run. -/

theorem codeOf?_written {code : Int} (within : Integer.fits 32 code = true) :
    codeOf? (Line.statusCodeMark.toList ++ Integer.notationOf code) = some code := by
  have found : Text.after? Line.statusCodeMark.toList (Line.statusCodeMark.toList ++ Integer.notationOf code) =
      some (Integer.notationOf code) := Text.after?_eq_some.mpr rfl
  have solid := Text.trimmed_of_no_blank fun c => Integer.not_blank_of_mem_notationOf (n := code) (c := c)
  rw [codeOf?, found, Option.bind_some, solid, Integer.ofChars?_notationOf within]

theorem through_statusCode (r : Reading) {code : Int} (within : Integer.fits 32 code = true) (rest : List Char) :
    r.through ((statusCodeText code).toList ++ rest) = (r.feed (.statusCode (some code))).through rest := by
  have shape : (statusCodeText code).toList ++ rest =
      (Line.statusCodeMark.toList ++ Integer.notationOf code) ++ '\n' :: rest := by
    show (Line.statusCodeMark ++ Integer.text code ++ "\n").toList ++ rest = _
    simp [Integer.text]
  have absent {c : Char} (blank : Text.isBlank c = true) (inMark : c ∉ Line.statusCodeMark.toList) :
      c ∉ Line.statusCodeMark.toList ++ Integer.notationOf code := by
    intro member
    rcases List.mem_append.mp member with front | digit
    · exact inMark front
    · rw [Integer.not_blank_of_mem_notationOf digit] at blank
      cases blank
  have clean : (Line.statusCodeMark.toList ++ Integer.notationOf code).getLast? ≠ some '\r' := by
    intro last
    exact absent (by decide) (by decide) (List.mem_of_getLast? last)
  rw [shape, r.through_line (absent (by decide) (by decide)) clean, read_event (codeOf?_written within)]

/-- Nothing has been read since the last test of a run. -/
def between (run : Run) : Reading := ⟨.nothing, [], none, run⟩

theorem isKey_reported : IsKey "class" ∧ IsKey "test" ∧ IsKey "stack" := by decide

theorem through_start {t : TestReport} (legible : t.Legible) (run : Run) (rest : List Char) :
    (between run).through ((statusText "class" t.testClass).toList ++ ((statusText "test" t.name).toList ++
        ((statusCodeText 1).toList ++ rest))) =
      { between run with current := some ⟨t.testClass, t.name, .incomplete, none⟩ }.through rest := by
  obtain ⟨classKey, testKey, -⟩ := isKey_reported
  have within : Integer.fits 32 1 = true := by decide
  rw [through_status classKey legible.testClass.legible rfl, through_status testKey legible.name.legible ?_,
    through_statusCode _ within]
  · simp [feed, statusCode, started, addTests, bundled, between, Dictionary.get?_insert]
  · simp [feed, between, Dictionary.get?_insert, Dictionary.get?_nil]

/-- The outcome of the test that has started ends it with the values of the bundle. -/
theorem feed_ended {r : Reading} {t : TestReport} (testClass : r.bundle.get? "class" = some t.testClass)
    (name : r.bundle.get? "test" = some t.name) (stack : r.bundle.get? "stack" = t.stack)
    (current : r.current = some ⟨t.testClass, t.name, .incomplete, none⟩) :
    r.feed (.statusCode (some t.outcome.code)) = between { r.run with tests := r.run.tests ++ [t.case] } := by
  have outcome := t.outcome.code_ne_one
  have status := t.outcome.ofCode_code
  simp [feed, statusCode, ended, addTests, continues, bundled, between, TestReport.case, testClass, name, stack,
    current, outcome, status]

theorem through_outcome {t : TestReport} (legible : t.Legible) (run : Run) (rest : List Char) :
    { between run with current := some ⟨t.testClass, t.name, .incomplete, none⟩ }.through
        ((statusText "class" t.testClass).toList ++ (t.stackText.toList ++ ((statusText "test" t.name).toList ++
          ((statusCodeText t.outcome.code).toList ++ rest)))) =
      (between { run with tests := run.tests ++ [t.case] }).through rest := by
  obtain ⟨classKey, testKey, stackKey⟩ := isKey_reported
  rw [through_status classKey legible.testClass.legible rfl]
  unfold TestReport.stackText
  cases given : t.stack with
  | none =>
    dsimp only
    rw [String.toList_empty, List.nil_append, through_status testKey legible.name.legible ?_,
      through_statusCode _ t.outcome.fits_code, feed_ended ?_ ?_ ?_ rfl]
    · rfl
    all_goals simp [feed, between, Dictionary.get?_insert, Dictionary.get?_nil, given]
  | some stack =>
    dsimp only
    rw [through_status stackKey (legible.stack stack given) ?_, through_status testKey legible.name.legible ?_,
      through_statusCode _ t.outcome.fits_code, feed_ended ?_ ?_ ?_ rfl]
    · rfl
    all_goals simp [feed, between, Dictionary.get?_insert, Dictionary.get?_nil, given]

theorem through_report {t : TestReport} (legible : t.Legible) (run : Run) (rest : List Char) :
    (between run).through (t.text.toList ++ rest) =
      (between { run with tests := run.tests ++ [t.case] }).through rest := by
  simp only [TestReport.text, String.toList_append, List.append_assoc]
  rw [through_start legible, through_outcome legible]

theorem through_reports {reports : List TestReport} (legible : ∀ t ∈ reports, t.Legible) (run : Run)
    (rest : List Char) :
    (between run).through ((String.join (reports.map TestReport.text)).toList ++ rest) =
      (between { run with tests := run.tests ++ reports.map TestReport.case }).through rest := by
  induction reports generalizing run with
  | nil => simp
  | cons t reports ih =>
    have first : t.Legible := legible t List.mem_cons_self
    have others : ∀ other ∈ reports, other.Legible :=
      fun other member => legible other (List.mem_cons_of_mem t member)
    rw [List.map_cons, String.join_cons, String.toList_append, List.append_assoc, through_report first, ih others]
    simp

end Reading

/-- A run that is written out is read back as it was, whether or not its last line ends in a line feed. -/
theorem ofOutput_outputOf (reports : List TestReport) (legible : ∀ t ∈ reports, t.Legible) :
    let run : Run := ⟨reports.map TestReport.case, none, some (-1), []⟩
    Run.ofOutput (outputOf reports) = run ∧ Run.ofOutput (outputOf reports ++ "\n") = run := by
  intro run
  have read (text : String) : Run.ofOutput text = (Reading.start.through text.toList).finish := rfl
  have code : Line.ofChars "INSTRUMENTATION_CODE: -1".toList = .code (some (-1)) := by decide
  have ends (last : String) (shown : outputLines last.toList = ["INSTRUMENTATION_CODE: -1".toList]) :
      Run.ofOutput (String.join (reports.map TestReport.text) ++ last) = run := by
    have reached := Reading.through_reports legible ⟨[], none, none, []⟩ last.toList
    rw [read, String.toList_append]
    show ((Reading.between ⟨[], none, none, []⟩).through _).finish = run
    rw [reached, Reading.through, shown, List.map_singleton, code]
    simp [run, Reading.finish, Reading.failure?, Reading.feed, Reading.addTests, Reading.between, Dictionary.get?_nil]
  constructor
  · exact ends _ (by decide)
  · rw [outputOf, String.append_assoc]
    exact ends _ (by decide)

theorem ofOutput_outputOf_two :
    let failing : TestReport :=
      ⟨"a.b.CTest", "testOne[x=1]", .failure, some "expected:<1>\n\tat a.b=c\n\n INSTRUMENTATION_CODE: 0\n"⟩
    let passing : TestReport := ⟨"a.b.CTest", "", .passed, none⟩
    let run : Run := ⟨[failing.case, passing.case], none, some (-1), []⟩
    (∀ t ∈ [failing, passing], t.Legible) ∧ Run.ofOutput (outputOf [failing, passing]) = run ∧
      Run.ofOutput (outputOf [failing, passing] ++ "\n") = run := by
  intro failing passing run
  have legible : ∀ t ∈ [failing, passing], t.Legible := by decide
  exact ⟨legible, ofOutput_outputOf [failing, passing] legible⟩

end DeviceHarness.Instrumentation
