import DeviceHarness.CommandLine.Program
import DeviceHarness.Proofs.JsonReading
import DeviceHarness.Proofs.SuiteRounds
import DeviceHarness.Proofs.TaskRelations

/-! What a run of suites reports. The suites are run in the order in which they are named, each from where the one
before it left, and none ends the run: whatever goes wrong in a suite is an outcome of one of its tests. So the report
has all tests of all suites, and the status tells whether one of them went wrong. -/

namespace DeviceHarness

def TestOutcome.title (t : TestOutcome) : String × String := (t.suite, t.test)

def SuiteKind.titles (kind : SuiteKind) : List (String × String) := kind.tests.map (kind.name, ·)

namespace CommandLine

/-! What is printed. -/

/-- Nothing was printed in between. -/
def Console.Unprinted (console left : Console) : Prop := left.printed = console.printed

instance : Std.Refl Console.Unprinted := ⟨fun _ => rfl⟩

instance : IsTrans Console Console.Unprinted := ⟨fun _ _ _ first rest => Eq.trans rest first⟩

abbrev Task.Silent {α : Type} (task : Task α) : Prop := Task.Leads Console.Unprinted task

theorem Task.onBench_silent {α : Type} (work : Action Bench α) : Task.Silent (Task.onBench work) :=
  .onBench fun _ => rfl

theorem connect_silent : Task.Silent connect := by
  refine (Task.onBench_silent _).bind fun adb => (Task.onBench_silent _).bind fun devices => ?_
  exact (checkChoice_leads adb devices).bind fun _ => .pure adb

/-- People are told of preconditions that are not met, but a report in JSON is all that is printed. -/
theorem checkPreconditions_silent (rig : Rig) {request : RunRequest} (json : request.json = true) :
    Task.Silent (checkPreconditions rig request) := by
  unfold checkPreconditions
  split
  · exact .pure ()
  · refine (Task.onBench_silent _).bind fun report => ?_
    rw [json]
    split
    next unmet => simp at unmet
    next => exact .pure ()

/-- What goes before the suites: the log, the client, the rig and the preconditions. -/
def prepare (logging : Logging) (request : RunRequest) : Task Rig := do
  logging.start
  let adb ← connect
  let rig ← Task.onBench (Rig.find adb)
  checkPreconditions rig request
  return rig

theorem prepare_silent (logging : Logging) {request : RunRequest} (json : request.json = true) :
    Task.Silent (prepare logging request) := by
  refine (logging.start_leads fun _ => Task.onBench_silent _).bind fun _ => connect_silent.bind fun adb => ?_
  exact (Task.onBench_silent _).bind fun rig => (checkPreconditions_silent rig json).bind fun _ => .pure rig

/-! The suites. -/

/-- Suites are run in turn, each from where the one before it left. These are the outcomes of each. -/
inductive Runs (rig : Rig) : Console → List SuiteKind → List (List TestOutcome) → Console → Prop where
  | nil (console : Console) : Runs rig console [] [] console
  | cons {console mid last : Console} {kind : SuiteKind} {rest : List SuiteKind} {outcomes : List TestOutcome}
      {more : List (List TestOutcome)} (memory : kind.Memory)
      (ran : ((onConsole (kind.suite rig)).run .silent []).perform (console, kind.start) =
        (.ok outcomes, mid, memory))
      (onward : Runs rig mid rest more last) : Runs rig console (kind :: rest) (outcomes :: more) last

section OneSuite

variable {μ : Type} (suite : Suite (Station μ))

def UnprintedBeside (s left : Console × μ) : Prop := s.1.Unprinted left.1

instance : Std.Refl (UnprintedBeside (μ := μ)) := ⟨fun _ => rfl⟩

instance : IsTrans (Console × μ) UnprintedBeside := ⟨fun _ _ _ first rest => Eq.trans rest first⟩

theorem onConsole_silent (only : List String) : Action.Leads UnprintedBeside ((onConsole suite).run .silent only) := by
  have setUp : Action.Leads UnprintedBeside (onConsole suite).setUp := fun _ => rfl
  have runTest (test : String) : Action.Leads UnprintedBeside ((onConsole suite).runTest test) := fun _ => rfl
  have tearDown : Action.Leads UnprintedBeside (onConsole suite).tearDown := fun _ => rfl
  exact (onConsole suite).run_leads .silent setUp runTest tearDown (fun _ _ => rfl) only

/-- All tests of a suite have an outcome, in the order of the suite. -/
theorem run_titles {σ : Type} (s : Suite σ) (monitor : Monitor σ) (state : σ) :
    ∃ outcomes left, (s.run monitor []).perform state = (.ok outcomes, left) ∧
      outcomes.map TestOutcome.title = s.tests.map (s.name, ·) := by
  have selected : s.selected [] = s.tests := by simp [Suite.selected]
  refine ⟨_, _, s.run_known monitor rfl state, ?_⟩
  rw [selected, s.runAll_turns, List.map_map]
  calc (s.turns monitor s.tests state).map (fun turn => (s.name, turn.test))
      = ((s.turns monitor s.tests state).map Turn.test).map (s.name, ·) := List.map_map.symm
    _ = s.tests.map (s.name, ·) := by rw [s.turns_test]

end OneSuite

theorem runSuite_of_perform {rig : Rig} {kind : SuiteKind} {console last : Console} {outcomes : List TestOutcome}
    {memory : kind.Memory}
    (ran : ((onConsole (kind.suite rig)).run .silent []).perform (console, kind.start) = (.ok outcomes, last, memory)) :
    (runSuite rig true [] kind).run.run console = (.ok outcomes, last) := by
  have reported : (runSuite rig true [] kind).run.run console =
      let performed := ((onConsole (kind.suite rig)).run .silent []).perform (console, kind.start)
      (Task.ofResult performed.1).run performed.2.1 := rfl
  rw [ran] at reported
  exact reported

/-- A suite of the catalog never ends the run. -/
theorem suite_run (rig : Rig) (kind : SuiteKind) (console : Console) :
    ∃ outcomes last memory,
      ((onConsole (kind.suite rig)).run .silent []).perform (console, kind.start) = (.ok outcomes, last, memory) ∧
      console.Unprinted last ∧ outcomes.map TestOutcome.title = kind.titles := by
  obtain ⟨outcomes, ⟨last, memory⟩, ran, titles⟩ := run_titles (onConsole (kind.suite rig)) .silent (console, kind.start)
  have silent := onConsole_silent (kind.suite rig) [] (console, kind.start)
  rw [ran] at silent
  refine ⟨outcomes, last, memory, ran, silent, ?_⟩
  rw [titles]
  cases kind <;> rfl

theorem Runs.runSuites {rig : Rig} {console last : Console} {kinds : List SuiteKind} {runs : List (List TestOutcome)}
    (ran : Runs rig console kinds runs last) :
    (runSuites rig true [] kinds).run.run console = (.ok runs.flatten, last) := by
  induction ran with
  | nil console => rfl
  | cons memory ran onward ih =>
    rw [CommandLine.runSuites, Task.run_bind, runSuite_of_perform ran]
    dsimp only
    rw [Task.run_bind, ih]
    rfl

theorem exists_runs (rig : Rig) (kinds : List SuiteKind) (console : Console) :
    ∃ runs last, Runs rig console kinds runs last ∧ console.Unprinted last ∧
      runs.flatten.map TestOutcome.title = kinds.flatMap SuiteKind.titles := by
  -- a suite may leave the console in any state, and none of them keeps the next suite from being run
  induction kinds generalizing console with
  | nil => exact ⟨[], console, .nil console, rfl, rfl⟩
  | cons kind rest ih =>
    obtain ⟨outcomes, mid, memory, ran, silent, titles⟩ := suite_run rig kind console
    obtain ⟨more, last, onward, silentMore, titlesMore⟩ := ih mid
    refine ⟨outcomes :: more, last, .cons memory ran onward, silentMore.trans silent, ?_⟩
    rw [List.flatten_cons, List.map_append, titles, titlesMore, List.flatMap_cons]

/-! What is printed is read back. The readers look members up by their names. -/

def outcomeOf? (entry : Json) : Option Outcome := do
  let result ← entry.find? "result" >>= Json.text?
  match result with
  | "passed" => some .passed
  | "skipped" => (entry.find? "reason" >>= Json.text?).map .skipped
  | "failed" => (entry.find? "message" >>= Json.text?).map .failed
  | "error" => (entry.find? "message" >>= Json.text?).map .error
  | _ => none

def entryOf? (entry : Json) : Option TestOutcome := do
  let suite ← entry.find? "suite" >>= Json.text?
  let test ← entry.find? "test" >>= Json.text?
  let outcome ← outcomeOf? entry
  let milliseconds ← entry.find? "duration_ms" >>= Json.count?
  return ⟨suite, test, outcome, milliseconds⟩

/-- The outcomes that a printed report tells of. -/
def reported? (printed : String) : Option (List TestOutcome) := do
  let entries ← Json.ofText? printed >>= Json.items?
  entries.mapM entryOf?

theorem entryOf?_outcomeJson (t : TestOutcome) : entryOf? (outcomeJson t) = some t := by
  obtain ⟨suite, test, outcome, milliseconds⟩ := t
  cases outcome <;> rfl

theorem reported?_jsonText (outcomes : List TestOutcome) :
    reported? (jsonText (.array (outcomes.map outcomeJson))) = some outcomes := by
  have entries : (outcomes.map outcomeJson).mapM entryOf? = some outcomes := by
    induction outcomes with
    | nil => rfl
    | cons t rest ih => rw [List.map_cons, List.mapM_cons, entryOf?_outcomeJson, ih]; rfl
  rw [reported?, jsonText, line, Json.ofText?_pretty _ (by decide)]
  exact entries

/-! The names. -/

theorem mem_suiteNames {name : String} :
    name ∈ suiteNames ↔ ∃ kind, SuiteKind.find? name = some kind ∧ kind.name = name := by
  constructor
  · intro member
    obtain ⟨kind, listed, same⟩ := List.mem_map.mp member
    cases found : SuiteKind.find? name with
    | none => exact absurd (beq_iff_eq.mpr same) (List.find?_eq_none.mp found kind listed)
    | some kind =>
      unfold SuiteKind.find? at found
      have named := List.find?_some found
      exact ⟨kind, rfl, beq_iff_eq.mp named⟩
  · rintro ⟨kind, found, rfl⟩
    exact List.mem_map_of_mem (List.mem_of_find?_eq_some found)

theorem kindsOf_run {names : List String} (known : ∀ name ∈ names, name ∈ suiteNames) (console : Console) :
    (kindsOf names).run.run console = (.ok (names.filterMap SuiteKind.find?), console) := by
  induction names with
  | nil => rfl
  | cons name rest ih =>
    obtain ⟨kind, found, -⟩ := mem_suiteNames.mp (known name (by simp))
    rw [kindsOf, found]
    dsimp only
    rw [Task.run_bind, ih fun other member => known other (by simp [member]), List.filterMap_cons_some found]
    rfl

theorem names_filterMap {names : List String} (known : ∀ name ∈ names, name ∈ suiteNames) :
    (names.filterMap SuiteKind.find?).map SuiteKind.name = names := by
  induction names with
  | nil => rfl
  | cons name rest ih =>
    obtain ⟨kind, found, same⟩ := mem_suiteNames.mp (known name (by simp))
    rw [List.filterMap_cons_some found, List.map_cons, same, ih fun other member => known other (by simp [member])]

/-- The names of the suites that a line asks for: all of them if it names none. -/
def askedNames (suites : List String) : List String := if suites.isEmpty then suiteNames else suites

def asked (suites : List String) : List SuiteKind := (askedNames suites).filterMap SuiteKind.find?

theorem asked_names {suites : List String} (known : ∀ name ∈ suites, name ∈ suiteNames) :
    (asked suites).map SuiteKind.name = askedNames suites := by
  refine names_filterMap ?_
  unfold askedNames
  split
  · exact fun _ member => member
  · exact known

/-- Whether suites are named, or whether any are found, comes to the same. -/
theorem asked_eq {suites : List String} (known : ∀ name ∈ suites, name ∈ suiteNames) :
    asked suites =
      let named := suites.filterMap SuiteKind.find?
      if named.isEmpty then SuiteKind.all else named := by
  have names := names_filterMap known
  cases suites with
  | nil => rfl
  | cons first rest =>
    cases kinds : (first :: rest).filterMap SuiteKind.find? with
    | nil => simp [kinds] at names
    | cons kind more => exact kinds

theorem read_run (h : Host) (rest : List String) :
    read h ("run" :: rest) = readCommand runGrammar rest (fun m => some (runCommand m)) >>= fun command =>
      pure ⟨loggingOf .nothing, command⟩ := by
  unfold read
  rw [Grammar.read_inner (by decide)]
  rfl

/-- The words of a line that names these suites, with or without a look at the preconditions. -/
def runWords (skip : Bool) (suites : List String) : List String :=
  "run" :: "--json" :: ((if skip then ["--skip-preconditions"] else []) ++ suites)

theorem read_runWords (h : Host) (skip : Bool) {suites : List String}
    (known : ∀ name ∈ suites, name ∈ suiteNames) :
    read h (runWords skip suites) = .ok ⟨loggingOf .nothing, .run ⟨[], true, skip, suites⟩⟩ := by
  have plain : ∀ name ∈ suites, runGrammar.commands.contains name = false ∧ Grammar.isOption name.toList = false := by
    intro name member
    have all : ∀ name ∈ suiteNames, Grammar.isOption name.toList = false := by decide
    exact ⟨rfl, all name (known name member)⟩
  have named (options : List (String × String)) :
      runGrammar.read suites (.ok ⟨options, []⟩) = .ok ⟨.ok ⟨options, suites⟩, none⟩ := by
    rw [Grammar.read_operands plain, Grammar.addOperands_free rfl fun _ => rfl]
    rfl
  have read : runGrammar.read ("--json" :: ((if skip then ["--skip-preconditions"] else []) ++ suites)) (.ok .nothing) =
      .ok ⟨.ok ⟨("json", "") :: (if skip then [("skip-preconditions", "")] else []), suites⟩, none⟩ := by
    rw [Grammar.read_flag (by decide) (by decide) (by decide) (by rfl)]
    cases skip with
    | false => exact named _
    | true =>
      rw [if_pos rfl, List.singleton_append, Grammar.read_flag (by decide) (by decide) (by decide) (by rfl)]
      exact named _
  rw [runWords, read_run, readCommand, read]
  cases skip <;> rfl

/-! The whole line. -/

/-- What is left to do once the suites are to be run. -/
def finish (rig : Rig) (json : Bool) (kinds : List SuiteKind) : Task Unit := do
  let outcomes ← runSuites rig json [] kinds
  showOutcomes json outcomes
  if outcomes.any fun t => !t.outcome.isOk then throw .unsuccessful

theorem carryOut_run (build : Build) (logging : Logging) {request : RunRequest} (all : request.tests = [])
    (known : ∀ name ∈ request.suites, name ∈ suiteNames) {console began : Console} {rig : Rig}
    (prepared : (prepare logging request).run.run console = (.ok rig, began)) :
    (carryOut build ⟨logging, .run request⟩).run.run console =
      (finish rig request.json (asked request.suites)).run.run began := by
  -- the run goes through the same parts, but looks up the suites between the first and the second
  obtain ⟨⟨⟩, logged, started, prepared⟩ := Task.run_bind_eq_ok.mp prepared
  obtain ⟨adb, connected, found, prepared⟩ := Task.run_bind_eq_ok.mp prepared
  obtain ⟨settled, ready, rigged, prepared⟩ := Task.run_bind_eq_ok.mp prepared
  obtain ⟨⟨⟩, checked, met, same⟩ := Task.run_bind_eq_ok.mp prepared
  cases same
  rw [asked_eq known, carryOut, if_pos (by simp), Task.run_bind, started]
  dsimp only
  rw [taskOf, CommandLine.run, all, if_neg (by simp), Task.run_bind, kindsOf_run known]
  dsimp only
  rw [Task.run_bind, found]
  dsimp only
  rw [Task.run_bind, rigged]
  dsimp only
  rw [Task.run_bind, met]
  rfl

/-- The report is all that is printed at the end, and an outcome that is not good ends the task early. -/
theorem finish_run (rig : Rig) (kinds : List SuiteKind) (console : Console) :
    ∃ runs last, Runs rig console kinds runs last ∧ console.Unprinted last ∧
      runs.flatten.map TestOutcome.title = kinds.flatMap SuiteKind.titles ∧
      (finish rig true kinds).run.run console =
        (if runs.flatten.any (fun t => !t.outcome.isOk) then .error .unsuccessful else .ok (),
          { last with printed := last.printed ++ jsonText (.array (runs.flatten.map outcomeJson)) }) := by
  obtain ⟨runs, last, ran, silent, titles⟩ := exists_runs rig kinds console
  refine ⟨runs, last, ran, silent, titles, ?_⟩
  rw [finish, Task.run_bind, ran.runSuites]
  dsimp only
  cases runs.flatten.any fun t => !t.outcome.isOk <;> rfl

theorem status_iff (outcomes : List TestOutcome) :
    let status := if outcomes.any (fun t => !t.outcome.isOk) then 1 else 0
    (status = 1 ↔ ∃ t ∈ outcomes, ∃ message, t.outcome = .failed message ∨ t.outcome = .error message) ∧
      (status = 0 ↔ ∀ t ∈ outcomes, t.outcome = .passed ∨ ∃ reason, t.outcome = .skipped reason) := by
  simp only [← Outcome.isOk_eq_false, ← Outcome.isOk_eq_true]
  cases any : outcomes.any fun t => !t.outcome.isOk with
  | true => simpa using any
  | false => simpa using any

/-- A line that asks for suites in JSON. Once the suites are to be run, what is printed reads as the outcomes of all
tests of all suites that are named, in turn. The status tells whether one of them went wrong. -/
theorem json_report (build : Build) (h : Host) (suites : List String) (known : ∀ name ∈ suites, name ∈ suiteNames) :
    (∀ skip, read h (runWords skip suites) = .ok ⟨loggingOf .nothing, .run ⟨[], true, skip, suites⟩⟩) ∧
    ∀ words logging skip rig began, read h words = .ok ⟨logging, .run ⟨[], true, skip, suites⟩⟩ →
      (prepare logging ⟨[], true, skip, suites⟩).run.run ⟨.ofHost h, ""⟩ = (.ok rig, began) →
      let ended := (execute build words h).1
      (asked suites).map SuiteKind.name = askedNames suites ∧ ∃ runs last, Runs rig began (asked suites) runs last ∧
        let outcomes := runs.flatten
        outcomes.map TestOutcome.title = (asked suites).flatMap SuiteKind.titles ∧
        ended.printed = jsonText (.array (outcomes.map outcomeJson)) ∧ reported? ended.printed = some outcomes ∧
        ended.complaints = "" ∧
        (ended.status = 1 ↔ ∃ t ∈ outcomes, ∃ message, t.outcome = .failed message ∨ t.outcome = .error message) ∧
        (ended.status = 0 ↔ ∀ t ∈ outcomes, t.outcome = .passed ∨ ∃ reason, t.outcome = .skipped reason) := by
  refine ⟨fun skip => read_runWords h skip known, ?_⟩
  intro words logging skip rig began line prepared ended
  have carried := carryOut_run build logging rfl known prepared
  obtain ⟨runs, last, ran, silent, titles, finished⟩ := finish_run rig (asked suites) began
  have quiet : (⟨.ofHost h, ""⟩ : Console).Unprinted began := by
    have silent : Task.Silent (prepare logging ⟨[], true, skip, suites⟩) := prepare_silent logging rfl
    have kept := silent ⟨.ofHost h, ""⟩
    rw [prepared] at kept
    exact kept
  have printed : last.printed = "" := silent.trans quiet
  have executed : ended = ⟨if runs.flatten.any (fun t => !t.outcome.isOk) then 1 else 0,
      jsonText (.array (runs.flatten.map outcomeJson)), ""⟩ := by
    show (execute build words h).1 = _
    unfold execute
    rw [line]
    dsimp only
    rw [carried, finished, printed, String.empty_append]
    cases runs.flatten.any fun t => !t.outcome.isOk <;> rfl
  refine ⟨asked_names known, runs, last, ran, titles, ?_⟩
  rw [executed]
  exact ⟨rfl, reported?_jsonText runs.flatten, rfl, status_iff runs.flatten⟩

/-- A host with a client and one device, but without an analyzer. -/
def hostWithoutAnalyzer : Host where
  environment := [("PATH", "/bin")]
  accountHome := none
  files := ⟨[(["bin"], .folder), (["bin", "adb"], .program)]⟩
  workdir := []
  respond _ _ := ⟨.exited 0, "List of devices attached\nserial device\n", ""⟩
  history := []
  clock := 0

/-- What is printed there for the policy asked about twice. -/
def reportWithoutAnalyzer : String :=
  "[
  \x7b
    \"suite\": \"selinux\",
    \"test\": \"all_enforcing\",
    \"result\": \"error\",
    \"message\": \"required binary `sepolicy-analyze` not available to context\",
    \"duration_ms\": 0
  \x7d,
  \x7b
    \"suite\": \"selinux\",
    \"test\": \"all_enforcing\",
    \"result\": \"error\",
    \"message\": \"required binary `sepolicy-analyze` not available to context\",
    \"duration_ms\": 0
  \x7d
]"

/-- The second suite is run and reported although the first one could not be. -/
theorem json_report_twice :
    let suites := ["selinux", "selinux"]
    let ended := (execute ⟨"0.1.0", "x86_64-linux", "unknown"⟩ (runWords true suites) hostWithoutAnalyzer).1
    let missing : TestOutcome :=
      ⟨"selinux", "all_enforcing", .error "required binary `sepolicy-analyze` not available to context", 0⟩
    (∀ name ∈ suites, name ∈ suiteNames) ∧ ended.printed = reportWithoutAnalyzer ++ "\n" ∧
      reported? ended.printed = some [missing, missing] ∧ ended.status = 1 := by
  intro suites ended missing
  have known : ∀ name ∈ suites, name ∈ suiteNames := by decide
  obtain ⟨reads, reports⟩ := json_report ⟨"0.1.0", "x86_64-linux", "unknown"⟩ hostWithoutAnalyzer suites known
  let rig : Rig := ⟨⟨"/bin/adb", none⟩, .default⟩
  let prepared := (prepare (loggingOf .nothing) ⟨[], true, true, suites⟩).run.run ⟨.ofHost hostWithoutAnalyzer, ""⟩
  have found : prepared.1.toOption = some rig := by decide +kernel
  have ready : prepared = (.ok rig, prepared.2) := by
    cases result : prepared.1 with
    | error stop => simp [result, Except.toOption] at found
    | ok other =>
      rw [result] at found
      obtain rfl := Option.some.inj found
      exact Prod.ext result rfl
  obtain ⟨-, runs, last, ran, -, printed, report, -, status, -⟩ := reports _ _ true rig prepared.2 (reads true) ready
  have told : ((runSuites rig true [] (asked suites)).run.run prepared.2).1.toOption = some [missing, missing] := by
    decide +kernel
  rw [ran.runSuites] at told
  have same : runs.flatten = [missing, missing] := Option.some.inj told
  have text : Json.pretty (.array ([missing, missing].map outcomeJson)) = reportWithoutAnalyzer := by
    unfold reportWithoutAnalyzer
    -- as a list of characters the literal is as deep as it is long
    set_option maxRecDepth 2000 in refine congrArg String.ofList ?_
    decide +kernel
  rw [same] at printed report status
  refine ⟨known, ?_, report, status.mpr ⟨missing, List.mem_cons_self, _, .inr rfl⟩⟩
  rw [printed, jsonText, text, line]

end CommandLine
end DeviceHarness
