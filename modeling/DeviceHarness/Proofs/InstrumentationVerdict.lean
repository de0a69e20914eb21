import DeviceHarness.Proofs.InstrumentationEntries
import Mathlib.Data.List.Induction

/-! When a run of tests has passed: what its status events have to say, and what the lines that speak
about the run as a whole have to say. -/

namespace DeviceHarness.Instrumentation

/-! The lines that speak about the run as a whole, as they are written. -/

theorem ofChars_eq_failed {line : List Char} {reason : String} :
    Line.ofChars line = .failed reason ↔
      ∃ rest, line = Line.failedMark.toList ++ rest ∧ String.ofList (Text.trimmed rest) = reason := by
  constructor
  · generalize Line.ofChars line = read, written_ofChars line = written
    rintro rfl
    cases written with
    | failed rest => exact ⟨rest, rfl, rfl⟩
  · rintro ⟨rest, rfl, rfl⟩
    rfl

theorem ofChars_eq_result {line : List Char} {key value : String} :
    Line.ofChars line = .result key value ↔
      ∃ rest, line = Line.resultMark.toList ++ rest ∧ String.ofList (keyOf rest) = key ∧
        String.ofList (valueOf rest) = value := by
  constructor
  · generalize Line.ofChars line = read, written_ofChars line = written
    rintro rfl
    cases written with
    | result rest => exact ⟨rest, rfl, rfl, rfl⟩
  · rintro ⟨rest, rfl, rfl, rfl⟩
    have parts := keyValue_eq rest
    show Line.result (Line.keyValue rest).1 (Line.keyValue rest).2 = _
    rw [parts]

theorem ofChars_eq_code {line : List Char} {code : Option Int} :
    Line.ofChars line = .code code ↔
      ∃ rest, line = Line.codeMark.toList ++ rest ∧ Integer.ofChars? 32 (Text.trimmed rest) = code := by
  constructor
  · generalize Line.ofChars line = read, written_ofChars line = written
    rintro rfl
    cases written with
    | code rest => exact ⟨rest, rfl, rfl⟩
  · rintro ⟨rest, rfl, rfl⟩
    rfl

namespace Reading

/-! What one line does to the run as a whole. A status code and a continued value leave it as it is,
but for the tests and for values that are there already. -/

theorem run_statusCode (r : Reading) (code : Option Int) :
    ∃ tests, (r.statusCode code).run = { r.run with tests } := by
  cases code with
  | none => exact ⟨r.run.tests, rfl⟩
  | some code =>
    unfold statusCode
    dsimp only
    split <;> exact ⟨_, rfl⟩

theorem run_continued (r : Reading) (text : String) :
    ∃ result, (r.continued text).run = { r.run with result } ∧
      ∀ key, result.get? key = none ↔ r.run.result.get? key = none := by
  unfold continued
  cases r.pending with
  | nothing | status => exact ⟨r.run.result, rfl, fun _ => .rfl⟩
  | result opened =>
    refine ⟨_, rfl, fun key => ?_⟩
    rw [Dictionary.get?_modify]
    split
    next same => simp [same]
    next => rfl

theorem failure_feed (r : Reading) (read : Line) :
    (r.feed read).run.failure = none ↔ r.run.failure = none ∧ ∀ reason, read ≠ .failed reason := by
  cases read with
  | statusCode code =>
    obtain ⟨tests, run⟩ := run_statusCode { r with pending := .nothing } code
    simp [feed, run]
  | continuation text =>
    obtain ⟨result, run, -⟩ := run_continued r text
    simp [feed, run]
  | status | result | code | failed => simp [feed]

theorem result_feed (r : Reading) (read : Line) (key : String) :
    (r.feed read).run.result.get? key = none ↔
      r.run.result.get? key = none ∧ ∀ value, read ≠ .result key value := by
  cases read with
  | statusCode code =>
    obtain ⟨tests, run⟩ := run_statusCode { r with pending := .nothing } code
    simp [feed, run]
  | continuation text =>
    obtain ⟨result, run, same⟩ := run_continued r text
    simp [feed, run, same]
  | result other value =>
    simp only [feed, Dictionary.get?_insert]
    by_cases same : key = other <;> simp [same, eq_comm]
  | status | code | failed => simp [feed]

theorem code_feed (r : Reading) {read : Line} (noCode : ∀ code, read ≠ .code code) :
    (r.feed read).run.code = r.run.code := by
  cases read with
  | statusCode code =>
    obtain ⟨tests, run⟩ := run_statusCode { r with pending := .nothing } code
    simp [feed, run]
  | continuation text =>
    obtain ⟨result, run, -⟩ := run_continued r text
    simp [feed, run]
  | code code => exact absurd rfl (noCode code)
  | status | result | failed => rfl

/-- A test that is open has not ended. -/
def Open (r : Reading) : Prop := ∀ test, r.current = some test → test.status = .incomplete

theorem Open.feed {r : Reading} (valid : r.Open) (read : Line) : (r.feed read).Open := by
  cases read with
  | statusCode code =>
    cases code with
    | none => exact valid
    | some code =>
      simp only [Reading.feed, statusCode]
      split
      · rintro _ ⟨⟩
        rfl
      · rintro _ ⟨⟩
  | continuation text =>
    unfold Reading.feed continued
    cases r.pending <;> exact valid
  | status | result | code | failed => exact valid

/-! What a whole output does. -/

/-- How far lines lead. -/
def reached (reads : List Line) : Reading := reads.foldl feed start

theorem reached_append (reads : List Line) (read : Line) : reached (reads ++ [read]) = (reached reads).feed read :=
  List.foldl_concat ..

theorem failure_reached (reads : List Line) :
    (reached reads).run.failure = none ↔ ∀ reason, .failed reason ∉ reads := by
  induction reads using List.reverseRecOn with
  | nil => simp [reached, start]
  | append_singleton before read ih =>
    rw [reached_append, failure_feed, ih]
    simp [forall_and, eq_comm]

theorem result_reached (reads : List Line) (key : String) :
    (reached reads).run.result.get? key = none ↔ ∀ value, .result key value ∉ reads := by
  induction reads using List.reverseRecOn with
  | nil => simp [reached, start, Dictionary.get?]
  | append_singleton before read ih =>
    rw [reached_append, result_feed, ih]
    simp [forall_and, eq_comm]

theorem code_reached (reads : List Line) (code : Int) :
    (reached reads).run.code = some code ↔
      ∃ before later, reads = before ++ .code (some code) :: later ∧ ∀ other, .code other ∉ later := by
  -- From the last line backwards: a code takes the place of every code before it.
  induction reads using List.reverseRecOn with
  | nil => simp [reached, start]
  | append_singleton before read ih =>
    rw [reached_append]
    constructor
    · intro found
      by_cases coded : ∃ given, read = .code given
      · obtain ⟨given, rfl⟩ := coded
        obtain rfl : given = some code := found
        exact ⟨before, [], rfl, by simp⟩
      · have noCode (other : Option Int) : read ≠ .code other := fun same => coded ⟨other, same⟩
        rw [code_feed _ noCode] at found
        obtain ⟨first, later, rfl, none⟩ := ih.mp found
        exact ⟨first, later ++ [read], by simp, by simp [none, eq_comm, noCode]⟩
    · rintro ⟨first, later, parts, none⟩
      cases later using List.reverseRecOn with
      | nil =>
        obtain ⟨-, same⟩ := List.append_inj' parts rfl
        obtain rfl : read = .code (some code) := by simpa using same
        rfl
      | append_singleton later last =>
        rw [← List.cons_append, ← List.append_assoc] at parts
        obtain ⟨rfl, same⟩ := List.append_inj' parts rfl
        obtain rfl : read = last := by simpa using same
        have noCode (other : Option Int) : read ≠ .code other := by
          rintro rfl
          exact none other (by simp)
        rw [code_feed _ noCode]
        exact ih.mpr ⟨first, later, rfl, fun other member => none other (by simp [member])⟩

theorem open_reached (reads : List Line) : (reached reads).Open := by
  induction reads using List.reverseRecOn with
  | nil => rintro _ ⟨⟩
  | append_singleton before read ih =>
    rw [reached_append]
    exact ih.feed read

/-- A run reports no failure exactly if it gave none, no test is open and there is no short message,
and it ended with a code. -/
theorem failure?_eq_none {r : Reading} :
    r.failure? = none ↔ r.run.failure = none ∧ r.current = none ∧ r.run.result.get? "shortMsg" = none ∧
      ∃ code, r.run.code = some code := by
  unfold failure?
  cases r.run.failure with
  | some reason => simp
  | none =>
    cases r.current with
    | some test => simp
    | none =>
      cases r.run.result.get? "shortMsg" with
      | some message => simp
      | none => cases r.run.code <;> simp

end Reading

/-- What an output has to hold for its run to have passed. -/
structure Passes (text : String) : Prop where
  passed : ∃ e ∈ events text, e.code = 0
  outcomes : ∀ e ∈ events text, e.code ≠ 1 → IsGood e.code
  ended : AllEnd (events text)
  sound : ∀ rest, Line.failedMark.toList ++ rest ∉ outputLines text.toList
  silent : ∀ rest, Line.resultMark.toList ++ rest ∈ outputLines text.toList → keyOf rest ≠ "shortMsg".toList
  complete : ∃ before rest later code,
    outputLines text.toList = before ++ (Line.codeMark.toList ++ rest) :: later ∧
    (∀ other, Line.codeMark.toList ++ other ∉ later) ∧ Integer.ofChars? 32 (Text.trimmed rest) = some code

/-- The reading of a whole output. -/
def readingOf (text : String) : Reading := .reached ((outputLines text.toList).map Line.ofChars)

theorem noFailure_iff {lines : List (List Char)} :
    (∀ reason, .failed reason ∉ lines.map Line.ofChars) ↔ ∀ rest, Line.failedMark.toList ++ rest ∉ lines := by
  simp only [List.mem_map, ofChars_eq_failed]
  constructor
  · intro none rest member
    exact none _ ⟨_, member, rest, rfl, rfl⟩
  · rintro none _ ⟨_, member, rest, rfl, -⟩
    exact none rest member

theorem noResult_iff {lines : List (List Char)} {key : String} :
    (∀ value, .result key value ∉ lines.map Line.ofChars) ↔
      ∀ rest, Line.resultMark.toList ++ rest ∈ lines → keyOf rest ≠ key.toList := by
  simp only [List.mem_map, ofChars_eq_result]
  constructor
  · intro none rest member same
    exact none _ ⟨_, member, rest, rfl, (eq_ofList_iff.mpr same).symm, rfl⟩
  · rintro none _ ⟨_, member, rest, rfl, same, -⟩
    exact none rest member (eq_ofList_iff.mp same.symm)

theorem noCode_iff {lines : List (List Char)} :
    (∀ code, .code code ∉ lines.map Line.ofChars) ↔ ∀ rest, Line.codeMark.toList ++ rest ∉ lines := by
  simp only [List.mem_map, ofChars_eq_code]
  constructor
  · intro none rest member
    exact none _ ⟨_, member, rest, rfl, rfl⟩
  · rintro none _ ⟨_, member, rest, rfl, -⟩
    exact none rest member

theorem lastCode_iff {lines : List (List Char)} {code : Int} :
    (∃ before later, lines.map Line.ofChars = before ++ .code (some code) :: later ∧
        ∀ other, .code other ∉ later) ↔
      ∃ before rest later, lines = before ++ (Line.codeMark.toList ++ rest) :: later ∧
        (∀ other, Line.codeMark.toList ++ other ∉ later) ∧
        Integer.ofChars? 32 (Text.trimmed rest) = some code := by
  constructor
  · rintro ⟨_, _, parts, none⟩
    obtain ⟨before, _, rfl, rfl, tail⟩ := List.map_eq_append_iff.mp parts
    obtain ⟨line, later, rfl, written, rfl⟩ := List.map_eq_cons_iff.mp tail
    obtain ⟨rest, rfl, read⟩ := ofChars_eq_code.mp written
    exact ⟨before, rest, later, rfl, noCode_iff.mp none, read⟩
  · rintro ⟨before, rest, later, rfl, none, read⟩
    refine ⟨before.map Line.ofChars, later.map Line.ofChars, ?_, noCode_iff.mpr none⟩
    rw [List.map_append, List.map_cons, ofChars_eq_code.mpr ⟨rest, rfl, read⟩]

theorem hasFailedTests_eq_false {run : Run} :
    run.hasFailedTests = false ↔ Succeed (run.tests.map TestCase.entry) := by
  simp [Run.hasFailedTests, Succeed, TestCase.entry]

theorem count_passed_pos {run : Run} :
    0 < run.count .passed ↔ ∃ entry ∈ run.tests.map TestCase.entry, entry.status = .passed := by
  simp [Run.count, List.countP_pos_iff, TestCase.entry]

theorem closed_of_succeed {r : Reading} (valid : r.Open) (succeed : Succeed (r.finish.tests.map TestCase.entry)) :
    r.current = none := by
  cases current : r.current with
  | none => rfl
  | some test =>
    have good := succeed test.entry (by simp [Reading.tests_finish, current])
    rw [TestCase.entry, valid test current] at good
    cases good

/-- The run as a whole is without failure exactly if no test is open and its lines say nothing to the
contrary. -/
theorem failure_ofOutput (text : String) :
    (Run.ofOutput text).failure = none ↔
      (readingOf text).current = none ∧
      (∀ rest, Line.failedMark.toList ++ rest ∉ outputLines text.toList) ∧
      (∀ rest, Line.resultMark.toList ++ rest ∈ outputLines text.toList → keyOf rest ≠ "shortMsg".toList) ∧
      ∃ before rest later code,
        outputLines text.toList = before ++ (Line.codeMark.toList ++ rest) :: later ∧
        (∀ other, Line.codeMark.toList ++ other ∉ later) ∧
        Integer.ofChars? 32 (Text.trimmed rest) = some code := by
  have failure : (Run.ofOutput text).failure = (readingOf text).failure? := rfl
  rw [failure, Reading.failure?_eq_none, readingOf, Reading.failure_reached, Reading.result_reached,
    noFailure_iff, noResult_iff]
  simp only [Reading.code_reached, lastCode_iff]
  constructor
  · rintro ⟨sound, current, silent, code, before, rest, later, parts, last, read⟩
    exact ⟨current, sound, silent, before, rest, later, code, parts, last, read⟩
  · rintro ⟨current, sound, silent, before, rest, later, code, parts, last, read⟩
    exact ⟨sound, current, silent, code, before, rest, later, parts, last, read⟩

/-- The tests of an output hold no failure exactly if every outcome is good and every started test ends
at once. -/
theorem tests_succeed (text : String) :
    Succeed ((Run.ofOutput text).tests.map TestCase.entry) ↔
      (∀ e ∈ events text, e.code ≠ 1 → IsGood e.code) ∧ AllEnd (events text) := by
  have succeed := entries_succeed (events text) none (by rintro _ ⟨⟩)
  rwa [← entries_ofOutput, Option.toList_none, List.nil_append] at succeed

/-- A run has passed exactly if its output says so: one test passed, no outcome is bad, every test
that started ended at once, and the run as a whole came to its end without a complaint. -/
theorem passed_iff_passes (text : String) : (Run.ofOutput text).passed = true ↔ Passes text := by
  have pass := entries_pass (events text) none
  rw [← entries_ofOutput] at pass
  simp only [Run.passed, Bool.and_eq_true, Bool.not_eq_true', decide_eq_true_eq, Option.isNone_iff_eq_none,
    hasFailedTests_eq_false, count_passed_pos, pass, failure_ofOutput]
  constructor
  · rintro ⟨⟨succeed, -, sound, silent, complete⟩, passed⟩
    obtain ⟨outcomes, ended⟩ := (tests_succeed text).mp succeed
    exact ⟨passed, outcomes, ended, sound, silent, complete⟩
  · rintro ⟨passed, outcomes, ended, sound, silent, complete⟩
    have succeed := (tests_succeed text).mpr ⟨outcomes, ended⟩
    have current := closed_of_succeed (Reading.open_reached _) succeed
    exact ⟨⟨succeed, current, sound, silent, complete⟩, passed⟩

end DeviceHarness.Instrumentation
