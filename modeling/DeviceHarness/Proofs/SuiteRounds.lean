import DeviceHarness.Proofs.ActionRelations
import DeviceHarness.Suite.Run

/-! The run of a suite as it is seen from outside: which calls the suite gets and in which order, what
they return, and what is reported in between. Watching keeps a record beside the state and changes
nothing else, so the record of a watched run is that of the run itself. -/

namespace DeviceHarness

/-- A report, or a call of a suite with what it returned. -/
inductive Sight where
  | reported (event : Event)
  | setUp (result : Except Error Unit)
  | runTest (test : String) (result : Except Error Verdict)
  | tearDown (result : Except Error Unit)

section Watching

variable {σ α : Type}

/-- The work, with what it returned added to a record. -/
def Action.watched (sight : Except Error α → Sight) (a : Action σ α) : Action (σ × List Sight) α :=
  ExceptT.mk fun (state, seen) =>
    let (result, state) := a.perform state
    (result, state, seen ++ [sight result])

def Suite.watched (s : Suite σ) : Suite (σ × List Sight) where
  name := s.name
  tests := s.tests
  setUp := s.setUp.watched .setUp
  runTest test := (s.runTest test).watched (.runTest test)
  tearDown := s.tearDown.watched .tearDown
  clock state := s.clock state.1

def Monitor.watched (monitor : Monitor σ) : Monitor (σ × List Sight) :=
  fun event (state, seen) => (monitor event state, seen ++ [.reported event])

theorem Action.perform_watched (sight : Except Error α → Sight) (a : Action σ α) (state : σ)
    (seen : List Sight) :
    (a.watched sight).perform (state, seen) =
      ((a.perform state).1, (a.perform state).2, seen ++ [sight (a.perform state).1]) := rfl

end Watching

/-- What came of a test before its tear-down: the set-up failed, or it worked and the test ran. -/
inductive Attempt where
  | refused (e : Error)
  | ran (result : Except Error Verdict)

namespace Attempt

def result : Attempt → Except Error Verdict
  | refused e => .error (Suite.setUpFailure e)
  | ran result => result

def outcome (a : Attempt) : Outcome := .ofResult a.result

def sights (test : String) : Attempt → List Sight
  | refused e => [.setUp (.error e)]
  | ran result => [.setUp (.ok ()), .runTest test result]

theorem outcome_failed (a : Attempt) :
    (∃ message, a.outcome = .failed message) ↔ ∃ text, a = .ran (.error (.assertion text)) := by
  cases a with
  | refused e => cases e <;> simp [outcome, result, Suite.setUpFailure, Outcome.ofResult, Error.isAssertion]
  | ran result =>
    cases result with
    | ok verdict => cases verdict <;> simp [outcome, Attempt.result, Outcome.ofResult]
    | error e => cases e <;> simp [outcome, Attempt.result, Outcome.ofResult, Error.isAssertion]

theorem outcome_refused (e : Error) : ∃ message, (refused e).outcome = .error message := by
  cases e <;> exact ⟨_, rfl⟩

end Attempt

/-- One test from its set-up to its tear-down. -/
structure Round where
  test : String
  attempt : Attempt
  tearDown : Except Error Unit
  milliseconds : Nat

namespace Round

/-- The outcome of a round. The tear-down has no part in it. -/
def outcome (suite : String) (r : Round) : TestOutcome := ⟨suite, r.test, r.attempt.outcome, r.milliseconds⟩

/-- All that is seen of a round. -/
def sights (suite : String) (r : Round) : List Sight :=
  .reported (.started suite r.test) :: r.attempt.sights r.test ++
    [.tearDown r.tearDown, .reported (.finished (r.outcome suite))]

end Round

namespace Suite

variable {σ : Type} (s : Suite σ) (monitor : Monitor σ)

theorem perform_attempt (test : String) (state : σ) :
    (s.attempt test).perform state =
      match s.setUp.perform state with
      | (.ok (), next) => (s.runTest test).perform next
      | (.error e, next) => (.error (setUpFailure e), next) := by
  rw [attempt, Action.perform_bind, Action.perform_outcome]
  obtain ⟨result, next⟩ := s.setUp.perform state
  cases result <;> rfl

/-- An attempt at a test comes to the same when it is watched, and all of it is seen. -/
theorem attempt_watched (test : String) (state : σ) (seen : List Sight) :
    ∃ a : Attempt, ∃ next : σ,
      (s.attempt test).perform state = (a.result, next) ∧
      (s.watched.attempt test).perform (state, seen) = (a.result, next, seen ++ a.sights test) := by
  rw [perform_attempt, perform_attempt]
  simp only [watched, Action.perform_watched]
  rcases s.setUp.perform state with ⟨result, next⟩
  cases result with
  | error e => exact ⟨.refused e, next, rfl, rfl⟩
  | ok _ =>
    refine ⟨.ran ((s.runTest test).perform next).1, ((s.runTest test).perform next).2, rfl, ?_⟩
    show ((s.runTest test).watched (.runTest test)).perform (next, seen ++ [.setUp (.ok ())]) = _
    rw [Action.perform_watched, List.append_assoc]
    rfl

theorem runOne_watched (test : String) (state : σ) (seen : List Sight) :
    ∃ round : Round, round.test = test ∧ ∃ next : σ,
      s.runOne monitor test state = (round.outcome s.name, next) ∧
      s.watched.runOne monitor.watched test (state, seen) =
        (round.outcome s.name, next, seen ++ round.sights s.name) := by
  let began := monitor (.started s.name test) state
  obtain ⟨a, tried, attempt, attemptSeen⟩ :=
    s.attempt_watched test began (seen ++ [.reported (.started s.name test)])
  have torn := Action.perform_watched .tearDown s.tearDown tried
    (seen ++ [.reported (.started s.name test)] ++ a.sights test)
  let ended := s.tearDown.perform tried
  let round : Round := ⟨test, a, ended.1, Duration.inMilliseconds (s.clock ended.2 - s.clock began)⟩
  refine ⟨round, rfl, monitor (.finished (round.outcome s.name)) ended.2, ?_, ?_⟩
  · simp only [runOne]
    rw [attempt]
    rfl
  · simp only [runOne]
    have same : monitor.watched (.started s.watched.name test) (state, seen) =
        (began, seen ++ [.reported (.started s.name test)]) := rfl
    have record : seen ++ round.sights s.name =
        seen ++ [.reported (.started s.name test)] ++ a.sights test ++ [.tearDown ended.1] ++
          [.reported (.finished (round.outcome s.name))] := by
      simp [Round.sights, round]
    rw [same, attemptSeen, record]
    show (_, monitor.watched _ (s.watched.tearDown.perform _).2) = _
    rw [show s.watched.tearDown = s.tearDown.watched .tearDown from rfl, torn]
    rfl

/-- Tests that are run one after the other have one round each, in order. -/
theorem runAll_watched (tests : List String) (state : σ) (seen : List Sight) :
    ∃ rounds : List Round, rounds.map Round.test = tests ∧ ∃ next : σ,
      s.runAll monitor tests state = (rounds.map (Round.outcome s.name), next) ∧
      s.watched.runAll monitor.watched tests (state, seen) =
        (rounds.map (Round.outcome s.name), next, seen ++ rounds.flatMap (Round.sights s.name)) := by
  induction tests generalizing state seen with
  | nil => exact ⟨[], rfl, state, rfl, by simp [runAll]⟩
  | cons test rest ih =>
    obtain ⟨round, rfl, between, one, oneSeen⟩ := runOne_watched s monitor test state seen
    obtain ⟨rounds, rfl, next, all, allSeen⟩ := ih between (seen ++ round.sights s.name)
    refine ⟨round :: rounds, rfl, next, ?_, ?_⟩
    · simp [runAll, one, all]
    · simp [runAll, oneSeen, allSeen]

/-- What the run of a suite with some tests named returns, and what is seen of it. -/
inductive Runs (only : List String) : Except Error (List TestOutcome) → List Sight → Prop where
  | refused (unknown : String) (named : unknown ∈ only) (missing : unknown ∉ s.tests) :
      Runs only (.error (.generic ("suite " ++ s.name ++ " has no test named " ++ unknown))) []
  | rounds (known : ∀ test ∈ only, test ∈ s.tests) (rounds : List Round)
      (selected : rounds.map Round.test = s.tests.filter fun test => only = [] ∨ test ∈ only) :
      Runs only (.ok (rounds.map (Round.outcome s.name))) (rounds.flatMap (Round.sights s.name))

theorem selected_eq (only : List String) :
    s.selected only = s.tests.filter fun test => only = [] ∨ test ∈ only := by
  cases only <;> simp [selected]

theorem run_unknown {only : List String} {unknown : String}
    (found : only.find? (fun test => !s.tests.contains test) = some unknown) (state : σ) :
    (s.run monitor only).perform state =
      (.error (.generic ("suite " ++ s.name ++ " has no test named " ++ unknown)), state) := by
  unfold run
  rw [found]
  rfl

theorem run_known {only : List String} (found : only.find? (fun test => !s.tests.contains test) = none)
    (state : σ) :
    (s.run monitor only).perform state =
      (.ok (s.runAll monitor (s.selected only) state).1, (s.runAll monitor (s.selected only) state).2) := by
  unfold run
  rw [found]
  rfl

/-- A run refuses a test that the suite does not have before it does anything. Else it goes through
one round for each selected test in the order of the suite, and returns their outcomes. -/
theorem run_rounds (only : List String) (state : σ) :
    ∃ result next seen,
      (s.run monitor only).perform state = (result, next) ∧
      (s.watched.run monitor.watched only).perform (state, []) = (result, next, seen) ∧
      s.Runs only result seen ∧
      (∀ a : Attempt, (∃ message, a.outcome = .failed message) ↔ ∃ text, a = .ran (.error (.assertion text))) ∧
      ∀ e, ∃ message, (Attempt.refused e).outcome = .error message := by
  cases found : only.find? fun test => !s.tests.contains test with
  | some unknown =>
    have named := List.mem_of_find?_eq_some found
    have missing : unknown ∉ s.tests := by simpa using List.find?_some found
    exact ⟨_, state, [], s.run_unknown monitor found state, s.watched.run_unknown monitor.watched found _,
      .refused unknown named missing, Attempt.outcome_failed, Attempt.outcome_refused⟩
  | none =>
    have known : ∀ test ∈ only, test ∈ s.tests := by simpa using found
    obtain ⟨rounds, selected, next, all, allSeen⟩ := s.runAll_watched monitor (s.selected only) state []
    have result := s.run_known monitor found state
    have resultSeen : (s.watched.run monitor.watched only).perform (state, []) =
        (.ok (s.watched.runAll monitor.watched (s.selected only) (state, [])).1,
          (s.watched.runAll monitor.watched (s.selected only) (state, [])).2) :=
      s.watched.run_known monitor.watched found (state, [])
    rw [all] at result
    rw [allSeen, List.nil_append] at resultSeen
    exact ⟨_, next, _, result, resultSeen, .rounds known rounds (selected.trans (s.selected_eq only)),
      Attempt.outcome_failed, Attempt.outcome_refused⟩

end Suite

/-! The states that a run goes through. -/

/-- A test of a run, with the state in which its set-up begins. -/
structure Turn (σ : Type) where
  test : String
  begun : σ

namespace Suite

variable {σ : Type} (s : Suite σ) (monitor : Monitor σ)

/-- The tests of a run, each with the state that the ones before it have left. -/
def turns : List String → σ → List (Turn σ)
  | [], _ => []
  | test :: rest, state =>
    ⟨test, monitor (.started s.name test) state⟩ :: turns rest (s.runOne monitor test state).2

section Turn

variable (turn : Turn σ)

/-- After the set-up. -/
def ready : σ := (s.setUp.perform turn.begun).2

/-- After the test, or after the set-up if that failed. -/
def tested : σ := ((s.attempt turn.test).perform turn.begun).2

/-- After the tear-down. -/
def ended : σ := (s.tearDown.perform (s.tested turn)).2

def turnOutcome : TestOutcome :=
  ⟨s.name, turn.test, .ofResult ((s.attempt turn.test).perform turn.begun).1,
    Duration.inMilliseconds (s.clock (s.ended turn) - s.clock turn.begun)⟩

/-- A test is run only after its set-up has worked. -/
theorem tested_cases :
    (∃ e, (s.setUp.perform turn.begun).1 = .error e) ∧ s.tested turn = s.ready turn ∨
      (s.setUp.perform turn.begun).1 = .ok () ∧ s.tested turn = ((s.runTest turn.test).perform (s.ready turn)).2 := by
  unfold tested ready
  rw [perform_attempt]
  rcases s.setUp.perform turn.begun with ⟨result, next⟩
  cases result with
  | error e => exact .inl ⟨⟨e, rfl⟩, rfl⟩
  | ok _ => exact .inr ⟨rfl, rfl⟩

end Turn

/-- The state when the outcome of a turn has been reported. -/
def closed (turn : Turn σ) : σ := monitor (.finished (s.turnOutcome turn)) (s.ended turn)

/-- The state when turns are over that began with `state`. -/
def closing (turns : List (Turn σ)) (state : σ) : σ := (turns.getLast?.map (s.closed monitor)).getD state

theorem turns_test (tests : List String) (state : σ) : (s.turns monitor tests state).map Turn.test = tests := by
  induction tests generalizing state with
  | nil => rfl
  | cons test rest ih => rw [turns, List.map_cons, ih]

theorem runOne_turn (test : String) (state : σ) :
    let turn : Turn σ := ⟨test, monitor (.started s.name test) state⟩
    s.runOne monitor test state = (s.turnOutcome turn, s.closed monitor turn) := rfl

theorem closing_cons (turn : Turn σ) (turns : List (Turn σ)) (state : σ) :
    s.closing monitor (turn :: turns) state = s.closing monitor turns (s.closed monitor turn) := by
  unfold closing
  rw [List.getLast?_cons]
  cases turns.getLast? <;> rfl

theorem runAll_turns (tests : List String) (state : σ) :
    let turns := s.turns monitor tests state
    s.runAll monitor tests state = (turns.map s.turnOutcome, s.closing monitor turns state) := by
  induction tests generalizing state with
  | nil => rfl
  | cons test rest ih =>
    have onward := ih (s.runOne monitor test state).2
    unfold runAll turns
    dsimp only at onward ⊢
    rw [onward, closing_cons]
    rfl

/-- What a run comes to is what its turns come to. -/
theorem run_turns {only : List String} {state left : σ} {outcomes : List TestOutcome}
    (ran : (s.run monitor only).perform state = (.ok outcomes, left)) :
    let turns := s.turns monitor (s.selected only) state
    outcomes = turns.map s.turnOutcome ∧ left = s.closing monitor turns state := by
  cases found : only.find? fun test => !s.tests.contains test with
  | some unknown =>
    rw [s.run_unknown monitor found] at ran
    cases ran
  | none =>
    rw [s.run_known monitor found, s.runAll_turns monitor] at ran
    cases ran
    exact ⟨rfl, rfl⟩

/-- What every turn keeps, and every report, holds wherever a test begins. -/
theorem turns_begun (holds : σ → Prop) (noted : ∀ event state, holds state → holds (monitor event state))
    (kept : ∀ turn, holds turn.begun → holds (s.ended turn)) {tests : List String} {state : σ} (start : holds state) :
    ∀ turn ∈ s.turns monitor tests state, holds turn.begun := by
  induction tests generalizing state with
  | nil => simp [turns]
  | cons test rest ih =>
    have began := noted (.started s.name test) state start
    intro turn member
    rcases List.mem_cons.mp member with rfl | later
    · exact began
    · refine ih ?_ turn later
      rw [s.runOne_turn monitor]
      exact noted _ _ (kept _ began)

/-- What a suite does in all its parts, and every report, a run does as a whole. -/
theorem run_leads {rel : σ → σ → Prop} [Std.Refl rel] [trans : IsTrans σ rel] (setUp : Action.Leads rel s.setUp)
    (runTest : ∀ test, Action.Leads rel (s.runTest test)) (tearDown : Action.Leads rel s.tearDown)
    (notes : ∀ event state, rel state (monitor event state)) (only : List String) :
    Action.Leads rel (s.run monitor only) := by
  have attempt (test : String) : Action.Leads rel (s.attempt test) := by
    refine setUp.outcome.bind fun result => ?_
    cases result with
    | error e => exact .throw _
    | ok _ => exact runTest test
  have one (test : String) (state : σ) : rel state (s.runOne monitor test state).2 := by
    let turn : Turn σ := ⟨test, monitor (.started s.name test) state⟩
    have began : rel state turn.begun := notes _ state
    have tested : rel state (s.tested turn) := trans.trans _ _ _ began (attempt test turn.begun)
    have ended : rel state (s.ended turn) := trans.trans _ _ _ tested (tearDown (s.tested turn))
    exact trans.trans _ _ _ ended (notes _ (s.ended turn))
  have all (tests : List String) (state : σ) : rel state (s.runAll monitor tests state).2 := by
    induction tests generalizing state with
    | nil => exact Std.Refl.refl state
    | cons test rest ih => exact trans.trans _ _ _ (one test state) (ih _)
  intro state
  cases found : only.find? fun test => !s.tests.contains test with
  | some unknown =>
    rw [s.run_unknown monitor found]
    exact Std.Refl.refl state
  | none =>
    rw [s.run_known monitor found]
    exact all _ state

end Suite
end DeviceHarness
