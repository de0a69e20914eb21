import DeviceHarness.Proofs.InstrumentationEvents
import Mathlib.Data.List.Induction

/-! Where a value of several lines ends. A line opens the value, and it goes on until the next line with one of
the five marks, whatever other lines say. So a line that begins like the marks and has none of them, such as the
one that tells of an aborted run, goes on with the value before it. -/

namespace DeviceHarness.Instrumentation

/-- A value that a run shows. -/
inductive Run.Shows (run : Run) : String → Prop where
  | testClass {test : TestCase} (member : test ∈ run.tests) : run.Shows test.testClass
  | name {test : TestCase} (member : test ∈ run.tests) : run.Shows test.name
  | stack {test : TestCase} {stack : String} (member : test ∈ run.tests) (given : test.stack = some stack) :
    run.Shows stack
  | result {key value : String} (given : run.result.get? key = some value) : run.Shows value

/-- The lines of a value after its first one. -/
def continuations (value : String) : List (List Char) := (value.toList.splitOn '\n').tail

/-- A line that opens a value, and what it gives of the value. -/
inductive Opens : List Char → List Char → Prop where
  | status (rest : List Char) : Opens (Line.statusMark.toList ++ rest) (valueOf rest)
  | result (rest : List Char) : Opens (Line.resultMark.toList ++ rest) (valueOf rest)

/-- Lines of an output: some, one that opens a value, those that go on with the value, and those after it. -/
structure Passage where
  before : List (List Char)
  opening : List Char
  first : List Char
  more : List (List Char)
  later : List (List Char)

structure Passage.Gives (p : Passage) (lines : List (List Char)) (value : String) : Prop where
  place : lines = p.before ++ p.opening :: (p.more ++ p.later)
  opens : Opens p.opening p.first
  plain : ∀ line ∈ p.more, isMarked line = false
  value : value.toList = ['\n'].intercalate (p.first :: p.more)

/-- A line that begins as each of the five marks does. -/
def isMarkLike (line : List Char) : Bool := Text.beginsWith "INSTRUMENTATION_".toList line

/-- A value goes on until the next line with a mark. -/
structure EndsAtMark (text value : String) : Prop where
  given : value ≠ "" → ∃ p : Passage, p.Gives (outputLines text.toList) value ∧ continuations value = p.more ∧
    ∀ next ∈ p.later.head?, isMarked next = true
  plain : (∀ line ∈ outputLines text.toList, isMarkLike line = true → isMarked line = true) →
    ∀ line ∈ continuations value, isMarkLike line = false

/-! A value while the lines are read: it may still go on, or a line with a mark has ended it. -/

theorem Opens.marked {line first : List Char} (opens : Opens line first) : isMarked line = true := by
  cases opens <;> rfl

theorem intercalate_concat (first line : List Char) (more : List (List Char)) :
    ['\n'].intercalate (first :: (more ++ [line])) = ['\n'].intercalate (first :: more) ++ '\n' :: line := by
  induction more generalizing first with
  | nil => simp [List.intercalate_cons_cons]
  | cons next more ih =>
    rw [List.cons_append, List.intercalate_cons_cons, ih, List.intercalate_cons_cons]
    simp

def IsOpen (lines : List (List Char)) (value : String) : Prop :=
  ∃ p : Passage, p.Gives lines value ∧ p.later = []

def IsClosed (lines : List (List Char)) (value : String) : Prop :=
  ∃ p : Passage, p.Gives lines value ∧ ∃ next ∈ p.later.head?, isMarked next = true

section

variable {lines : List (List Char)} {line first : List Char} {value : String}

theorem Passage.Gives.extend {p : Passage} (gives : p.Gives lines value) (line : List Char) :
    { p with later := p.later ++ [line] : Passage }.Gives (lines ++ [line]) value where
  place := by simp [gives.place]
  opens := gives.opens
  plain := gives.plain
  value := gives.value

theorem Opens.isOpen (opens : Opens line first) : IsOpen (lines ++ [line]) (String.ofList first) :=
  ⟨⟨lines, line, first, [], []⟩, ⟨rfl, opens, by simp, by simp⟩, rfl⟩

theorem IsOpen.continued (held : IsOpen lines value) (plain : isMarked line = false) :
    IsOpen (lines ++ [line]) (value ++ "\n" ++ String.ofList line) := by
  obtain ⟨p, gives, rest⟩ := held
  refine ⟨{ p with more := p.more ++ [line] }, ⟨?_, gives.opens, ?_, ?_⟩, rest⟩
  · simp [gives.place, rest]
  · intro other member
    rcases List.mem_append.mp member with earlier | last
    · exact gives.plain other earlier
    · rwa [List.mem_singleton.mp last]
  · simp [gives.value, intercalate_concat]

theorem IsOpen.closed (held : IsOpen lines value) (marked : isMarked line = true) : IsClosed (lines ++ [line]) value := by
  obtain ⟨p, gives, rest⟩ := held
  exact ⟨_, gives.extend line, line, by simp [rest], marked⟩

theorem IsClosed.extend (held : IsClosed lines value) (line : List Char) : IsClosed (lines ++ [line]) value := by
  obtain ⟨p, gives, next, first, marked⟩ := held
  exact ⟨_, gives.extend line, next, by simp [List.head?_append, Option.mem_def.mp first], marked⟩

end

/-- The values of a dictionary have come to their end, except for the one of an open name. -/
def Held (lines : List (List Char)) (name? : Option String) (d : Dictionary String) : Prop :=
  ∀ key value, d.get? key = some value → if name? = some key then IsOpen lines value else IsClosed lines value

namespace Held

variable {lines : List (List Char)} {line : List Char} {name? : Option String} {d : Dictionary String}

theorem nil : Held lines name? [] := by
  intro key value found
  cases found

theorem get (held : Held lines none d) {key value : String} (found : d.get? key = some value) : IsClosed lines value :=
  held key value found

theorem closed (held : Held lines name? d) (marked : isMarked line = true) : Held (lines ++ [line]) none d := by
  intro key value found
  have before := held key value found
  split at before
  · exact before.closed marked
  · exact before.extend line

theorem insert (held : Held lines none d) {name value : String} (given : IsOpen lines value) :
    Held lines (some name) (d.insert name value) := by
  intro key other found
  rw [Dictionary.get?_insert] at found
  split at found
  next same =>
    obtain rfl := Option.some.inj found
    rwa [if_pos (congrArg some same.symm)]
  next different =>
    rw [if_neg fun same => different (Option.some.inj same).symm]
    exact held.get found

theorem kept (held : Held lines none d) (line : List Char) : Held (lines ++ [line]) none d :=
  fun _ _ found => (held.get found).extend line

theorem continued {name : String} (held : Held lines (some name) d) (plain : isMarked line = false) :
    Held (lines ++ [line]) (some name) (d.modify name (· ++ "\n" ++ String.ofList line)) := by
  intro key value found
  rw [Dictionary.get?_modify] at found
  split at found
  next same =>
    subst same
    obtain ⟨before, there, rfl⟩ := Option.map_eq_some_iff.mp found
    have given := held key before there
    rw [if_pos rfl] at given ⊢
    exact given.continued plain
  next different =>
    have given := held key value found
    have other : ¬ some name = some key := fun same => different (Option.some.inj same).symm
    rw [if_neg other] at given ⊢
    exact given.extend line

end Held

/-- The values of a test, which are empty where the lines give none. -/
structure TestCase.Closed (lines : List (List Char)) (test : TestCase) : Prop where
  testClass : test.testClass = "" ∨ IsClosed lines test.testClass
  name : test.name = "" ∨ IsClosed lines test.name
  stack : ∀ stack, test.stack = some stack → IsClosed lines stack

theorem TestCase.Closed.extend {lines : List (List Char)} {test : TestCase} (closed : test.Closed lines)
    (line : List Char) : test.Closed (lines ++ [line]) where
  testClass := closed.testClass.imp_right fun held => held.extend line
  name := closed.name.imp_right fun held => held.extend line
  stack stack given := (closed.stack stack given).extend line

/-- The name whose value is open, if it is one of the bundle. -/
def Pending.status? : Pending → Option String
  | .status key => some key
  | .nothing | .result _ => none

/-- The name whose value is open, if it is one of the results. -/
def Pending.result? : Pending → Option String
  | .result key => some key
  | .nothing | .status _ => none

namespace Reading

/-- All that a reading holds has come to its end, except for the value that is pending. -/
structure Sourced (lines : List (List Char)) (r : Reading) : Prop where
  bundle : Held lines r.pending.status? r.bundle
  result : Held lines r.pending.result? r.run.result
  tests : ∀ test ∈ r.run.tests ++ r.current.toList, test.Closed lines

section Feed

variable {lines : List (List Char)} {line : List Char} {r : Reading}

theorem Sourced.closed (sourced : r.Sourced lines) (marked : isMarked line = true) :
    { r with pending := .nothing }.Sourced (lines ++ [line]) where
  bundle := sourced.bundle.closed marked
  result := sourced.result.closed marked
  tests test member := (sourced.tests test member).extend line

theorem Sourced.bundle_closed (sourced : r.Sourced lines) (closed : r.pending = .nothing) :
    Held lines none r.bundle := by
  have bundle := sourced.bundle
  rwa [closed] at bundle

/-- The values of a bundle have come to their end before a test is made of them. -/
theorem Sourced.bundled (sourced : r.Sourced lines) (closed : r.pending = .nothing) (status : Status) {stack : Option String}
    (given : ∀ value, stack = some value → IsClosed lines value) : (r.bundled status stack).Closed lines := by
  have bundle := sourced.bundle_closed closed
  have value (key : String) : (r.bundle.get? key).getD "" = "" ∨ IsClosed lines ((r.bundle.get? key).getD "") := by
    cases found : r.bundle.get? key with
    | none => exact .inl rfl
    | some value => exact .inr (bundle.get found)
  exact ⟨value "class", value "test", given⟩

theorem Sourced.started (sourced : r.Sourced lines) (closed : r.pending = .nothing) : r.started.Sourced lines where
  bundle := .nil
  result := sourced.result
  tests := by
    intro test member
    rcases List.mem_append.mp member with earlier | opened
    · exact sourced.tests test earlier
    · rw [List.mem_singleton.mp opened]
      exact sourced.bundled closed .incomplete (by intro value given; cases given)

theorem Sourced.ended (sourced : r.Sourced lines) (closed : r.pending = .nothing) (code : Int) :
    (r.ended code).Sourced lines where
  bundle := .nil
  result := sourced.result
  tests := by
    intro test member
    simp only [Reading.ended, addTests, Option.toList_none, List.append_nil, List.mem_append, List.mem_singleton] at member
    rcases member with earlier | abandoned | rfl
    · exact sourced.tests test (List.mem_append_left _ earlier)
    · split at abandoned
      · cases abandoned
      · exact sourced.tests test (List.mem_append_right _ abandoned)
    · exact sourced.bundled closed (.ofCode code) fun _ found => (sourced.bundle_closed closed).get found

theorem Sourced.statusCode (sourced : r.Sourced lines) (closed : r.pending = .nothing) (code : Option Int) :
    (r.statusCode code).Sourced lines := by
  cases code with
  | none => exact sourced
  | some code =>
    unfold Reading.statusCode
    dsimp only
    split
    · exact sourced.started closed
    · exact sourced.ended closed code

theorem Sourced.continued (sourced : r.Sourced lines) (plain : isMarked line = false) :
    (r.continued (String.ofList line)).Sourced (lines ++ [line]) := by
  obtain ⟨bundle, result, tests⟩ := sourced
  have tests := fun test member => (tests test member).extend line
  unfold Reading.continued
  cases pending : r.pending with
  | nothing =>
    refine ⟨?_, ?_, tests⟩
    · rw [pending] at bundle ⊢
      exact bundle.kept line
    · rw [pending] at result ⊢
      exact result.kept line
  | status key =>
    rw [pending] at bundle result
    exact ⟨bundle.continued plain, result.kept line, tests⟩
  | result key =>
    rw [pending] at bundle result
    exact ⟨bundle.kept line, result.continued plain, tests⟩

theorem Sourced.feed (sourced : r.Sourced lines) (line : List Char) :
    (r.feed (Line.ofChars line)).Sourced (lines ++ [line]) := by
  generalize Line.ofChars line = read, written_ofChars line = written
  cases written with
  | status rest =>
    have closed := sourced.closed (Opens.status rest).marked
    exact ⟨closed.bundle.insert (Opens.status rest).isOpen, closed.result, closed.tests⟩
  | statusCode rest => exact (sourced.closed rfl).statusCode rfl _
  | result rest =>
    have closed := sourced.closed (Opens.result rest).marked
    exact ⟨closed.bundle, closed.result.insert (Opens.result rest).isOpen, closed.tests⟩
  | code rest =>
    have marked : isMarked (Line.codeMark.toList ++ rest) = true := rfl
    have closed := sourced.closed marked
    exact ⟨closed.bundle, closed.result, closed.tests⟩
  | failed rest =>
    have marked : isMarked (Line.failedMark.toList ++ rest) = true := rfl
    have closed := sourced.closed marked
    exact ⟨closed.bundle, closed.result, closed.tests⟩
  | continuation _ plain => exact sourced.continued plain

end Feed

theorem sourced_start : start.Sourced [] where
  bundle := .nil
  result := .nil
  tests test member := by cases member

theorem sourced_reached (lines : List (List Char)) : ((lines.map Line.ofChars).foldl feed start).Sourced lines := by
  induction lines using List.reverseRecOn with
  | nil => exact sourced_start
  | append_singleton before line ih =>
    rw [List.map_append, List.foldl_append]
    exact ih.feed line

end Reading

/-! The lines of a value that a run shows. -/

theorem not_feed_of_mem_outputLines {text line : List Char} (member : line ∈ outputLines text) : '\n' ∉ line := by
  obtain ⟨whole, there, rfl⟩ := List.mem_map.mp member
  intro feed
  have inside := (List.dropWhile_sublist _).mem (List.mem_reverse.mp feed)
  exact Text.not_feed_of_mem_linesOf there (List.mem_reverse.mp inside)

theorem Opens.sublist {line first : List Char} (opens : Opens line first) : first.Sublist line := by
  cases opens with
  | status rest | result rest =>
    exact ((List.drop_sublist 1 _).trans (List.dropWhile_sublist _)).trans (List.sublist_append_right _ rest)

theorem Passage.Gives.continuations {p : Passage} {text : List Char} {value : String}
    (gives : p.Gives (outputLines text) value) : continuations value = p.more := by
  have whole : ∀ line ∈ p.first :: p.more, '\n' ∉ line := by
    have inside : ∀ line ∈ outputLines text, '\n' ∉ line := fun _ => not_feed_of_mem_outputLines
    rw [gives.place] at inside
    intro line member
    rcases List.mem_cons.mp member with rfl | later
    · exact fun feed => inside p.opening (by simp) (gives.opens.sublist.mem feed)
    · exact inside line (by simp [later])
  rw [Instrumentation.continuations, gives.value, List.splitOn_intercalate '\n' whole (by simp), List.tail_cons]

theorem endsAtMark_empty (text : String) : EndsAtMark text "" where
  given some := absurd rfl some
  plain _ line member := by cases member

theorem endsAtMark_of_gives {p : Passage} {text value : String} (gives : p.Gives (outputLines text.toList) value)
    (ends : ∀ next ∈ p.later.head?, isMarked next = true) : EndsAtMark text value where
  given _ := ⟨p, gives, gives.continuations, ends⟩
  plain known := by
    intro line member
    rw [gives.continuations] at member
    have inside : line ∈ outputLines text.toList := by
      rw [gives.place]
      simp [member]
    have unmarked := gives.plain line member
    cases like : isMarkLike line with
    | false => rfl
    | true => exact absurd (known line inside like) (by simp [unmarked])

theorem IsClosed.endsAtMark {text value : String} (closed : IsClosed (outputLines text.toList) value) :
    EndsAtMark text value := by
  obtain ⟨p, gives, next, first, marked⟩ := closed
  refine endsAtMark_of_gives gives ?_
  intro other found
  obtain rfl := Option.some.inj ((Option.mem_def.mp first).symm.trans found)
  exact marked

theorem IsOpen.endsAtMark {text value : String} (held : IsOpen (outputLines text.toList) value) : EndsAtMark text value := by
  obtain ⟨p, gives, none⟩ := held
  refine endsAtMark_of_gives gives ?_
  rw [none]
  intro next found
  cases found

/-- Each value of a run goes on until the next line with one of the five marks, and no longer. -/
theorem shown_endsAtMark {text value : String} (shown : (Run.ofOutput text).Shows value) : EndsAtMark text value := by
  have sourced := Reading.sourced_reached (outputLines text.toList)
  have emptyOr {value : String} (held : value = "" ∨ IsClosed (outputLines text.toList) value) : EndsAtMark text value := by
    rcases held with rfl | closed
    · exact endsAtMark_empty text
    · exact closed.endsAtMark
  cases shown with
  | testClass member => exact emptyOr (sourced.tests _ member).testClass
  | name member => exact emptyOr (sourced.tests _ member).name
  | stack member given => exact ((sourced.tests _ member).stack _ given).endsAtMark
  | result found =>
    have held := sourced.result _ _ found
    split at held
    · exact held.endsAtMark
    · exact held.endsAtMark

/-- The output of a run that is aborted while a test reports its stack. -/
def abortedOutput : String :=
  "INSTRUMENTATION_STATUS: stack=boom\nINSTRUMENTATION_ABORTED: System has crashed.\nINSTRUMENTATION_STATUS_CODE: -2\n"

def abortedStack : String := "boom\nINSTRUMENTATION_ABORTED: System has crashed."

theorem shows_abortedStack : (Run.ofOutput abortedOutput).Shows abortedStack := by
  have tests : (Run.ofOutput abortedOutput).tests = [⟨"", "", .failed, some abortedStack⟩] := by decide +kernel
  exact .stack (tests ▸ List.mem_singleton_self _) rfl

theorem shown_endsAtMark_aborted :
    (Run.ofOutput abortedOutput).Shows abortedStack ∧ EndsAtMark abortedOutput abortedStack :=
  ⟨shows_abortedStack, shown_endsAtMark shows_abortedStack⟩

/-- A line that begins like the marks but has none of them goes on with a stack. -/
theorem aborted_run_in_stack :
    ¬ ∀ text value : String, (Run.ofOutput text).Shows value →
      ∀ line ∈ continuations value, isMarkLike line = false := by
  intro ends
  have line := ends abortedOutput abortedStack shows_abortedStack
    "INSTRUMENTATION_ABORTED: System has crashed.".toList (by decide +kernel)
  exact absurd line (by decide +kernel)

end DeviceHarness.Instrumentation
