import DeviceHarness.Action
import DeviceHarness.Duration
import DeviceHarness.Suite.Outcome

/-! Suites of tests, and how they are run. Every selected test is set up, run and torn down, in the
order of the suite. What goes wrong in one test ends that test only, and what goes wrong while tearing
down does not count at all. -/

namespace DeviceHarness

/-- Tests that share how they are set up and torn down. -/
structure Suite (σ : Type) where
  name : String
  tests : List String
  setUp : Action σ Unit
  runTest : String → Action σ Verdict
  tearDown : Action σ Unit
  /-- The time that a state shows. -/
  clock : σ → Duration

/-- How a state takes note of what is reported. -/
abbrev Monitor (σ : Type) := Event → σ → σ

/-- Takes no note of anything. -/
def Monitor.silent {σ : Type} : Monitor σ := fun _ state => state

/-- Keeps all that is reported, beside the state. -/
def Monitor.keeping {σ : Type} : Monitor (σ × List Event) :=
  fun event (state, events) => (state, events ++ [event])

namespace Suite

variable {σ : Type} (s : Suite σ)

/-- The suite as work on one part of a larger state. -/
def onPart {τ : Type} (part : τ → σ) (update : σ → τ → τ) : Suite τ where
  name := s.name
  tests := s.tests
  setUp := s.setUp.within part update
  runTest test := (s.runTest test).within part update
  tearDown := s.tearDown.within part update
  clock state := s.clock (part state)

/-- The suite with room for what is reported. -/
def withEvents : Suite (σ × List Event) :=
  s.onPart Prod.fst fun state (_, events) => (state, events)

/-- A failure of the set-up. The test itself has not begun, so nothing that fails here is an ordinary
test failure. -/
def setUpFailure : Error → Error
  | .assertion text => .harness ("set up failed: " ++ text)
  | e => e

/-- Sets up and, if that worked, runs the test. -/
def attempt (test : String) : Action σ Verdict := do
  match ← s.setUp.outcome with
  | .ok () => s.runTest test
  | .error e => throw (setUpFailure e)

/-- Runs one test from its set-up to its tear-down, whatever happens in between. -/
def runOne (monitor : Monitor σ) (test : String) (state : σ) : TestOutcome × σ :=
  let state := monitor (.started s.name test) state
  let began := s.clock state
  let (result, state) := (s.attempt test).perform state
  let (_, state) := s.tearDown.perform state
  let outcome : TestOutcome :=
    ⟨s.name, test, .ofResult result, Duration.inMilliseconds (s.clock state - began)⟩
  (outcome, monitor (.finished outcome) state)

/-- Runs tests one after the other. -/
def runAll (monitor : Monitor σ) : List String → σ → List TestOutcome × σ
  | [], state => ([], state)
  | test :: rest, state =>
    let (outcome, state) := s.runOne monitor test state
    let (outcomes, state) := runAll monitor rest state
    (outcome :: outcomes, state)

/-- The tests that are named, or all of them when none is named, in the order of the suite. -/
def selected (only : List String) : List String :=
  s.tests.filter fun test => only.isEmpty || only.contains test

/-- Runs the selected tests. Nothing is run when a test is named that the suite does not have. -/
def run (monitor : Monitor σ) (only : List String) : Action σ (List TestOutcome) :=
  match only.find? fun test => !s.tests.contains test with
  | some unknown => throw (.generic ("suite " ++ s.name ++ " has no test named " ++ unknown))
  | none => ExceptT.mk fun state =>
    let (outcomes, state) := s.runAll monitor (s.selected only) state
    (.ok outcomes, state)

end Suite
end DeviceHarness
