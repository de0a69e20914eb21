import DeviceHarness.Proofs.InstrumentationEvents

/-! The tests of a run, in terms of its status events. The reader only ever appends to the tests, so
what it adds on the rest of an output depends on the open test and the values held, and on nothing
else. -/

namespace DeviceHarness.Instrumentation

/-- A test of a run, without its stack. -/
structure Entry where
  testClass : String
  name : String
  status : Status
  deriving Repr, DecidableEq

def TestCase.entry (t : TestCase) : Entry := ⟨t.testClass, t.name, t.status⟩

namespace Event

def entry (e : Event) (status : Status) : Entry := ⟨e.testClass, e.name, status⟩

/-- An event is the outcome of the test that another one started. -/
def Ends (e start : Event) : Prop :=
  e.code ≠ 1 ∧ e.testClass = start.testClass ∧ e.name = start.name

instance (e start : Event) : Decidable (e.Ends start) := inferInstanceAs (Decidable (_ ∧ _))

end Event

/-- A test that started and did not end. -/
def abandoned (started : Option Event) : List Entry := (started.map (·.entry .incomplete)).toList

@[simp] theorem abandoned_none : abandoned none = [] := rfl

/-- The entries that events lead to after a test that has started, if one has. -/
def entriesFrom (started : Option Event) : List Event → List Entry
  | [] => abandoned started
  | e :: rest =>
    if e.code = 1 then abandoned started ++ entriesFrom (some e) rest
    else
      (if started.any fun start => e.Ends start then [] else abandoned started) ++
        e.entry (.ofCode e.code) :: entriesFrom none rest

/-! The tests of a run are the entries of its events. -/

namespace Reading

/-- The started test of a reading is the one that an event started. -/
def Started (r : Reading) (started : Option Event) : Prop :=
  r.current.map TestCase.entry = started.map (·.entry .incomplete)

theorem Started.abandoned {r : Reading} {started : Option Event} (same : r.Started started) :
    r.current.toList.map TestCase.entry = Instrumentation.abandoned started := by
  unfold Started at same
  unfold Instrumentation.abandoned
  rw [← same]
  cases r.current <;> rfl

theorem Holds.value {r : Reading} {since : List (List Char)} (holds : r.Holds since) (key : String) :
    (r.bundle.get? key).getD "" = lastGiven key since := by
  rw [holds.bundle, lastGiven]
  cases lastGiven? key since <;> rfl

theorem Holds.continues {r : Reading} {since : List (List Char)} {started : Option Event} {code : Int}
    (holds : r.Holds since) (same : r.Started started) (outcome : code ≠ 1) :
    r.continues = started.any fun start => (Event.closing since code).Ends start := by
  unfold Reading.continues
  rw [holds.value, holds.value]
  unfold Started at same
  cases started with
  | none =>
    have absent : r.current = none := by simpa using same
    simp [absent]
  | some start =>
    obtain ⟨test, current, entry⟩ := Option.map_eq_some_iff.mp same
    simp only [TestCase.entry, Event.entry, Entry.mk.injEq] at entry
    simp [current, Event.Ends, Event.closing, outcome, entry, eq_comm, beq_eq_decide]

theorem tests_finish (r : Reading) : r.finish.tests = r.run.tests ++ r.current.toList := rfl

theorem read_event {line : List Char} {code : Int} (found : codeOf? line = some code) :
    Line.ofChars line = .statusCode (some code) := by
  obtain ⟨rest, written, read⟩ := Option.bind_eq_some_iff.mp found
  rw [Text.after?_eq_some.mp written, ← read]
  rfl

section Event

variable {r : Reading} {since : List (List Char)} {started : Option Event} {line : List Char}

theorem feed_start (holds : r.Holds since) (same : r.Started started) (found : codeOf? line = some 1) :
    let next := r.feed (Line.ofChars line)
    next.Holds [] ∧ next.Started (some (.closing since 1)) ∧
      next.run.tests.map TestCase.entry =
        r.run.tests.map TestCase.entry ++ Instrumentation.abandoned started := by
  intro next
  have began : next = { r with pending := .nothing }.started := by
    show r.feed (Line.ofChars line) = _
    rw [read_event found]
    rfl
  rw [began]
  refine ⟨.nothing rfl rfl, ?_, ?_⟩
  · simp [Started, Reading.started, bundled, TestCase.entry, Event.entry, Event.closing, holds.value]
  · simp [Reading.started, addTests, same.abandoned]

theorem feed_outcome {code : Int} (holds : r.Holds since) (same : r.Started started)
    (found : codeOf? line = some code) (outcome : code ≠ 1) :
    let next := r.feed (Line.ofChars line)
    next.Holds [] ∧ next.Started none ∧
      next.run.tests.map TestCase.entry =
        r.run.tests.map TestCase.entry ++
          ((if started.any fun start => (Event.closing since code).Ends start then []
            else Instrumentation.abandoned started) ++
          [(Event.closing since code).entry (.ofCode code)]) := by
  intro next
  have ended : next = { r with pending := .nothing }.ended code := by
    show r.feed (Line.ofChars line) = _
    rw [read_event found]
    exact if_neg outcome
  rw [ended]
  refine ⟨.nothing rfl rfl, rfl, ?_⟩
  have continues : { r with pending := Pending.nothing }.continues = r.continues := rfl
  have test : TestCase.entry ({ r with pending := Pending.nothing }.bundled (.ofCode code)
      (r.bundle.get? "stack")) = (Event.closing since code).entry (.ofCode code) := by
    simp [bundled, TestCase.entry, Event.entry, Event.closing, holds.value]
  simp only [Reading.ended, addTests, continues, List.map_append, List.map_cons, List.map_nil, test,
    holds.continues same outcome, ← same.abandoned]
  split <;> simp

theorem feed_other (holds : r.Holds since) (same : r.Started started) (noEvent : codeOf? line = none) :
    let next := r.feed (Line.ofChars line)
    next.Holds (since ++ [line]) ∧ next.Started started ∧ next.run.tests = r.run.tests := by
  refine ⟨holds.feed noEvent, ?_⟩
  generalize Line.ofChars line = read, written_ofChars line = written
  cases written with
  | status | result | code | failed => exact ⟨same, rfl⟩
  | statusCode rest =>
    have unread : Integer.ofChars? 32 (Text.trimmed rest) = none := noEvent
    rw [unread]
    exact ⟨same, rfl⟩
  | continuation =>
    unfold feed continued
    cases r.pending <;> exact ⟨same, rfl⟩

end Event

end Reading

theorem entries_of_lines (lines : List (List Char)) {r : Reading} {since : List (List Char)}
    {started : Option Event} (holds : r.Holds since) (same : r.Started started) :
    ((lines.map Line.ofChars).foldl Reading.feed r).finish.tests.map TestCase.entry =
      r.run.tests.map TestCase.entry ++ entriesFrom started (eventsFrom since lines) := by
  induction lines generalizing r since started with
  | nil => simp [Reading.tests_finish, eventsFrom, entriesFrom, same.abandoned]
  | cons line rest ih =>
    rw [List.map_cons, List.foldl_cons, eventsFrom]
    cases found : codeOf? line with
    | none =>
      obtain ⟨nextHolds, nextSame, tests⟩ := Reading.feed_other holds same found
      rw [ih nextHolds nextSame, tests]
    | some code =>
      by_cases start : code = 1
      · subst start
        obtain ⟨nextHolds, nextSame, tests⟩ := Reading.feed_start holds same found
        rw [ih nextHolds nextSame, tests, List.append_assoc]
        simp [entriesFrom]
      · obtain ⟨nextHolds, nextSame, tests⟩ := Reading.feed_outcome holds same found start
        rw [ih nextHolds nextSame, tests]
        simp [entriesFrom, start]

/-- The tests of a run are the entries of its events, in order. -/
theorem entries_ofOutput (text : String) :
    (Run.ofOutput text).tests.map TestCase.entry = entriesFrom none (events text) :=
  entries_of_lines (outputLines text.toList) (.nothing rfl rfl) rfl

/-! When the entries hold no failure, and when one of them has passed. -/

/-- Every started test is followed at once by its own outcome. -/
def AllEnd (es : List Event) : Prop :=
  ∀ (i : Nat) (start : Event), es[i]? = some start → start.code = 1 →
    ∃ next, es[i + 1]? = some next ∧ next.Ends start

theorem allEnd_cons {e : Event} {rest : List Event} :
    AllEnd (e :: rest) ↔ (e.code = 1 → ∃ next, rest[0]? = some next ∧ next.Ends e) ∧ AllEnd rest := by
  constructor
  · intro all
    exact ⟨fun start => by simpa using all 0 e rfl start, fun i start found code => by
      simpa using all (i + 1) start (by simpa using found) code⟩
  · rintro ⟨first, later⟩ i start found code
    cases i with
    | zero =>
      cases found
      simpa using first code
    | succ i => simpa using later i start (by simpa using found) code

/-- A code of a test that did not fail. -/
def IsGood (code : Int) : Prop := code = 0 ∨ code = -3 ∨ code = -4

theorem ofCode_isFailure {code : Int} : (Status.ofCode code).isFailure = false ↔ IsGood code := by
  unfold Status.ofCode IsGood
  split
  next passed => simp [Status.isFailure, passed]
  next notPassed =>
    split
    next ignored => simp [Status.isFailure, ignored]
    next notIgnored =>
      split
      next assumption => simp [Status.isFailure, assumption]
      next other => simp [Status.isFailure, notPassed, notIgnored, other]

theorem ofCode_eq_passed {code : Int} : Status.ofCode code = .passed ↔ code = 0 := by
  unfold Status.ofCode
  split
  next passed => simp [passed]
  next notPassed =>
    split
    next => simp [notPassed]
    next => split <;> simp [notPassed]

/-- No entry is a failure. -/
def Succeed (entries : List Entry) : Prop := ∀ entry ∈ entries, entry.status.isFailure = false

theorem succeed_cons {entry : Entry} {rest : List Entry} :
    Succeed (entry :: rest) ↔ entry.status.isFailure = false ∧ Succeed rest := List.forall_mem_cons

theorem not_succeed_abandoned (start : Event) (rest : List Entry) :
    ¬ Succeed (abandoned (some start) ++ rest) := by
  intro all
  have ended := all (start.entry .incomplete) (by simp [abandoned])
  cases ended

theorem allEnd_outcome {e : Event} {rest : List Event} (outcome : e.code ≠ 1) :
    AllEnd (e :: rest) ↔ AllEnd rest := by
  rw [allEnd_cons]
  exact ⟨And.right, fun later => ⟨fun start => absurd start outcome, later⟩⟩

theorem allEnd_start {start e : Event} {rest : List Event} (code : start.code = 1) :
    AllEnd (start :: e :: rest) ↔ e.Ends start ∧ AllEnd (e :: rest) := by
  rw [allEnd_cons]
  simp [code]

/-- No entry is a failure exactly if every outcome is good and every started test ends at once. -/
theorem entries_succeed (es : List Event) (started : Option Event)
    (starts : ∀ start, started = some start → start.code = 1) :
    Succeed (entriesFrom started es) ↔
      (∀ e ∈ es, e.code ≠ 1 → IsGood e.code) ∧ AllEnd (started.toList ++ es) := by
  -- An open test is an event of its own in front of the rest, so `AllEnd` covers it too.
  induction es generalizing started with
  | nil =>
    cases started with
    | none => simp [entriesFrom, abandoned, Succeed, AllEnd]
    | some start =>
      have missing : ¬ AllEnd [start] := by simp [allEnd_cons, starts start rfl]
      have fails : ¬ Succeed (abandoned (some start)) := by
        simpa using not_succeed_abandoned start []
      simp [entriesFrom, missing, fails]
  | cons e rest ih =>
    rw [entriesFrom, List.forall_mem_cons]
    cases started with
    | none =>
      by_cases code : e.code = 1
      · rw [if_pos code]
        have later := ih (some e) (by rintro _ ⟨⟩; exact code)
        simpa [code] using later
      · rw [if_neg code]
        have later := ih none (by rintro _ ⟨⟩)
        simp only [Option.toList_none, List.nil_append] at later ⊢
        simp [allEnd_outcome code, succeed_cons, later, Event.entry, ofCode_isFailure, code, and_assoc]
    | some start =>
      have began := starts start rfl
      rw [Option.toList_some, List.singleton_append, allEnd_start began]
      by_cases code : e.code = 1
      · rw [if_pos code]
        have notEnds : ¬ e.Ends start := fun ends => ends.1 code
        simp [not_succeed_abandoned, notEnds]
      · rw [if_neg code, allEnd_outcome code]
        by_cases ends : e.Ends start
        · have later := ih none (by rintro _ ⟨⟩)
          simp only [Option.toList_none, List.nil_append] at later
          simp [ends, succeed_cons, later, Event.entry, ofCode_isFailure, code, and_assoc]
        · simp [ends, not_succeed_abandoned]

theorem not_passed_abandoned {started : Option Event} {entry : Entry} (member : entry ∈ abandoned started) :
    entry.status ≠ .passed := by
  obtain ⟨start, -, rfl⟩ : ∃ start, started = some start ∧ start.entry .incomplete = entry := by
    simpa [abandoned] using member
  simp [Event.entry]

/-- An entry has passed exactly if an event says so. -/
theorem entries_pass (es : List Event) (started : Option Event) :
    (∃ entry ∈ entriesFrom started es, entry.status = .passed) ↔ ∃ e ∈ es, e.code = 0 := by
  have skip (started : Option Event) (later : List Entry) :
      (∃ entry ∈ abandoned started ++ later, entry.status = .passed) ↔
        ∃ entry ∈ later, entry.status = .passed := by
    simp only [List.mem_append, or_and_right, exists_or]
    exact or_iff_right fun ⟨entry, member, passed⟩ => not_passed_abandoned member passed
  induction es generalizing started with
  | nil => simpa [entriesFrom] using skip started []
  | cons e rest ih =>
    rw [entriesFrom]
    split
    next code =>
      refine (skip started _).trans ((ih (some e)).trans ?_)
      simp [code]
    next code =>
      have outcome : (∃ entry ∈ e.entry (.ofCode e.code) :: entriesFrom none rest, entry.status = .passed) ↔
          ∃ e' ∈ e :: rest, e'.code = 0 := by
        simp [Event.entry, ofCode_eq_passed, ih]
      split
      next => exact outcome
      next => exact (skip ..).trans outcome

end DeviceHarness.Instrumentation
