import DeviceHarness.Proofs.BenchMemory
import DeviceHarness.Proofs.SuiteRounds
import DeviceHarness.Suite.Selinux

/-! How the test of the security policy comes to its verdict. It takes two programs: a client that pulls the policy
and an analyzer that reads it. The policy is not analyzed unless the pull has succeeded, but of the analyzer only what
it printed counts. So one that breaks down without a word passes the test, as does one that has found nothing. -/

namespace DeviceHarness

namespace Host

/-- Work that began on `h` has had these programs run. Time may have passed, and files may have come and gone. -/
structure Ran (h : Host) (calls : List Invocation) (left : Host) : Prop where
  history : left.history = h.history ++ calls
  respond : left.respond = h.respond

/-- The only program that was run is this one, and it came to this. -/
def Runs (h : Host) (program : String) (args : List String) (c : Completion) (left : Host) : Prop :=
  ∃ mid name, h.Ran [] mid ∧ mid.locate program = .ok name ∧ c = h.respond h.history ⟨name, args⟩ ∧
    h.Ran [⟨name, args⟩] left

variable {h mid left : Host} {calls more : List Invocation} {program : String} {args : List String} {c : Completion}

theorem Ran.none (history : left.history = h.history) (respond : left.respond = h.respond) : h.Ran [] left :=
  ⟨history.trans (List.append_nil _).symm, respond⟩

theorem Ran.trans (first : h.Ran calls mid) (rest : mid.Ran more left) : h.Ran (calls ++ more) left where
  history := by rw [rest.history, first.history, List.append_assoc]
  respond := rest.respond.trans first.respond

theorem Ran.unique (ran : h.Ran calls left) (again : h.Ran more left) : calls = more :=
  List.append_cancel_left (ran.history.symm.trans again.history)

theorem Runs.after (ran : h.Ran [] mid) (runs : mid.Runs program args c left) : h.Runs program args c left := by
  obtain ⟨there, name, went, located, came, ended⟩ := runs
  refine ⟨there, name, ran.trans went, located, ?_, ran.trans ended⟩
  rw [came, ran.history, ran.respond, List.append_nil]

theorem Runs.before (runs : h.Runs program args c mid) (ran : mid.Ran [] left) : h.Runs program args c left := by
  obtain ⟨there, name, went, located, came, ended⟩ := runs
  exact ⟨there, name, went, located, came, ended.trans ran⟩

/-- A program that cannot be started is not a failure of the device. -/
theorem run_cases (program : String) (args : List String) (h : Host) :
    (∃ e, e.isAssertion = false ∧ (run program args).perform h = (.error e, h)) ∨
      ∃ c left, (run program args).perform h = (.ok c, left) ∧ h.Runs program args c left := by
  simp only [run, Action.perform, ExceptT.run, ExceptT.mk, StateT.run]
  split
  · exact .inl ⟨_, rfl, rfl⟩
  · split
    · exact .inl ⟨_, rfl, rfl⟩
    next name located =>
      split
      · exact .inl ⟨_, rfl, rfl⟩
      · exact .inr ⟨_, _, rfl, h, name, .none rfl rfl, located, rfl, rfl, rfl⟩

theorem createScratch_ran (word : String) (h : Host) : h.Ran [] ((createScratch word).perform h).2 := by
  rw [createScratch, Action.perform_bind]
  show h.Ran [] (Action.perform (ExceptT.mk _) { h with clock := h.clock + 1 }).2
  simp only [Action.perform, ExceptT.run, ExceptT.mk, StateT.run]
  split
  · exact .none rfl rfl
  · exact .none rfl rfl

theorem removeScratch_ran (path : String) (h : Host) : h.Ran [] ((removeScratch path).perform h).2 := by
  simp only [removeScratch, Action.perform, ExceptT.run, ExceptT.mk, StateT.run]
  split
  · exact .none rfl rfl
  · exact .none rfl rfl

end Host

theorem Suite.setUpFailure_isAssertion (e : Error) : (setUpFailure e).isAssertion = false := by cases e <;> rfl

namespace Selinux

/-- The client was told to pull the policy of the device into a file, and came to this. -/
def Pulled (adb : Adb) (h : Host) (policy : String) (pulled : Completion) (left : Host) : Prop :=
  h.Runs adb.program (adb.arguments ["pull", devicePolicy, policy]) pulled left

/-- Two programs were run: the client that is to pull the policy, and the analyzer on the file that it is pulled into. -/
def Analyzed (adb : Adb) (b : Bench) (pulled analysis : Completion) (left : Host) : Prop :=
  ∃ path policy mid, ((Bench.program analyzer).perform b).1 = .ok path ∧ Pulled adb b.host policy pulled mid ∧
    mid.Runs path [policy, "permissive"] analysis left

/-- What it came to is what the host has to say to two calls, which stand in the history. -/
theorem Analyzed.responses {adb : Adb} {b : Bench} {pulled analysis : Completion} {left : Host}
    (analyzed : Analyzed adb b pulled analysis left) :
    ∃ pull analyze, b.host.Ran [pull, analyze] left ∧ pulled = b.host.respond b.host.history pull ∧
      analysis = b.host.respond (b.host.history ++ [pull]) analyze := by
  obtain ⟨path, policy, mid, -, ⟨-, _, -, -, came, first⟩, ⟨-, _, -, -, cameNext, second⟩⟩ := analyzed
  refine ⟨_, _, first.trans second, came, ?_⟩
  rw [cameNext, first.history, first.respond]

theorem Analyzed.unique {adb : Adb} {b : Bench} {pulled analysis other otherAnalysis : Completion} {left : Host}
    (analyzed : Analyzed adb b pulled analysis left) (again : Analyzed adb b other otherAnalysis left) :
    pulled = other ∧ analysis = otherAnalysis := by
  obtain ⟨pull, analyze, ran, rfl, rfl⟩ := analyzed.responses
  obtain ⟨pullAgain, analyzeAgain, ranAgain, rfl, rfl⟩ := again.responses
  obtain ⟨rfl, rest⟩ := List.cons.inj (ran.unique ranAgain)
  obtain ⟨rfl, -⟩ := List.cons.inj rest
  exact ⟨rfl, rfl⟩

/-! The set-up. -/

/-- Where the policy is not pulled, at most one program was run, and the device is not to blame. -/
theorem pullPolicy_cases (adb : Adb) (h : Host) :
    (∃ e left calls, (pullPolicy adb).perform h = (.error e, left) ∧ calls.length ≤ 1 ∧ h.Ran calls left) ∨
      ∃ folder policy pulled left, (pullPolicy adb).perform h = (.ok (folder, policy), left) ∧
        Pulled adb h policy pulled left ∧ pulled.succeeded = true := by
  have created := Host.createScratch_ran "hostcts_sepolicy_" h
  rw [pullPolicy, Action.perform_bind]
  generalize (Host.createScratch "hostcts_sepolicy_").perform h = made at created ⊢
  obtain ⟨_ | folder, asked⟩ := made
  case error e => exact .inl ⟨e, asked, [], rfl, by simp, created⟩
  dsimp only at created ⊢
  rw [Action.perform_bind, Action.perform_outcome]
  have removed (left : Host) := Host.removeScratch_ran folder left
  rcases Host.run_cases adb.program (adb.arguments ["pull", devicePolicy, Path.join folder "policy"]) asked with
    ⟨e, -, failed⟩ | ⟨pulled, left, ended, runs⟩
  · -- the folder is removed again, for which no program is run
    rw [show (adb.pull devicePolicy (Path.join folder "policy")).perform asked = _ from failed]
    exact .inl ⟨e, _, [], rfl, by simp, created.trans (removed asked)⟩
  · rw [show (adb.pull devicePolicy (Path.join folder "policy")).perform asked = _ from ended]
    have pulls : Pulled adb h (Path.join folder "policy") pulled left := runs.after created
    dsimp only [Except.bind]
    cases succeeded : pulled.succeeded with
    | true =>
      rw [Completion.requireSuccess, succeeded]
      exact .inr ⟨folder, _, pulled, left, rfl, pulls, succeeded⟩
    | false =>
      rw [Completion.requireSuccess, succeeded]
      obtain ⟨-, name, -, -, -, ran⟩ := pulls
      exact .inl ⟨_, _, [_], rfl, by simp, ran.trans (removed left)⟩

/-- A set-up that works leaves the pulled policy, and the path of the analyzer. -/
theorem setUp_cases (rig : Rig) (s : Station Memory) :
    (∃ e left calls, (setUp rig).perform s = (.error e, left) ∧ calls.length ≤ 1 ∧
        s.bench.host.Ran calls left.bench.host) ∨
      ∃ path policy pulled left, (setUp rig).perform s = (.ok (), left) ∧ left.memory.analyzer = some path ∧
        left.memory.policy = some policy ∧ ((Bench.program analyzer).perform s.bench).1 = .ok path ∧
        Pulled rig.adb s.bench.host policy pulled left.bench.host ∧ pulled.succeeded = true := by
  have looked := (Bench.program_looksUp analyzer s.bench).host
  rw [setUp, Action.perform_bind, Station.perform_onBench]
  generalize (Bench.program analyzer).perform s.bench = lookup at looked ⊢
  obtain ⟨_ | path, b⟩ := lookup
  case error e => exact .inl ⟨e, _, [], rfl, by simp, .none (congrArg Host.history looked) (congrArg Host.respond looked)⟩
  dsimp only at looked ⊢
  rw [Action.perform_bind, Station.perform_remember]
  dsimp only
  rw [Action.perform_bind, Station.perform_onHost, ← looked]
  dsimp only
  rcases pullPolicy_cases rig.adb b.host with
    ⟨e, left, calls, failed, few, ran⟩ | ⟨folder, policy, pulled, left, done, pulls, succeeded⟩
  · rw [failed]
    exact .inl ⟨e, _, calls, rfl, few, ran⟩
  · rw [done]
    dsimp only
    rw [Action.perform_bind, Station.perform_remembered]
    dsimp only
    right
    cases s.memory.folder with
    | none => exact ⟨path, policy, pulled, _, rfl, rfl, rfl, rfl, pulls, succeeded⟩
    | some earlier =>
      exact ⟨path, policy, pulled, _, rfl, rfl, rfl, rfl, pulls.before (Host.removeScratch_ran earlier left), succeeded⟩

/-! The test. -/

/-- How an attempt at the test comes to its result. -/
inductive Course (adb : Adb) (b : Bench) (left : Host) : Except Error Verdict → Prop where
  /-- The policy was not analyzed, which says nothing about the device. -/
  | stopped (e : Error) (blameless : e.isAssertion = false) (calls : List Invocation) (few : calls.length ≤ 1)
      (ran : b.host.Ran calls left) : Course adb b left (.error e)
  | analyzed (pulled analysis : Completion) (analyzed : Analyzed adb b pulled analysis left)
      (succeeded : pulled.succeeded = true) : Course adb b left (judge analysis)

theorem attempt_course (rig : Rig) (s : Station Memory) :
    let attempted := ((suite rig).attempt "all_enforcing").perform s
    Course rig.adb s.bench attempted.2.bench.host attempted.1 := by
  rw [Suite.perform_attempt, show (suite rig).setUp = setUp rig from rfl]
  rcases setUp_cases rig s with
    ⟨e, left, calls, failed, few, ran⟩ | ⟨path, policy, pulled, mid, done, known, prepared, found, pulls, succeeded⟩
  · rw [failed]
    exact .stopped _ (Suite.setUpFailure_isAssertion e) calls few ran
  · rw [done]
    dsimp only
    rw [show (suite rig).runTest "all_enforcing" = allEnforcing from rfl, allEnforcing, Action.perform_bind,
      Station.perform_remembered]
    dsimp only
    rw [known, prepared]
    dsimp only
    rw [Action.perform_bind, Station.perform_onHost]
    rcases Host.run_cases path [policy, "permissive"] mid.bench.host with
      ⟨e, blameless, failed⟩ | ⟨analysis, left, ended, runs⟩
    · -- an analyzer that cannot be started leaves the pull alone in the history
      rw [failed]
      obtain ⟨-, name, -, -, -, ran⟩ := pulls
      exact .stopped e blameless [_] (by simp) ran
    · rw [ended]
      exact .analyzed pulled analysis ⟨path, policy, mid.bench.host, found, pulls, runs⟩ succeeded

/-- A program that printed blanks at most. -/
def SaysNothing (c : Completion) : Prop := Text.blank c.out = true ∧ Text.blank c.err = true

theorem judge_passed {analysis : Completion} (nothing : SaysNothing analysis) :
    Outcome.ofResult (judge analysis) = .passed := by
  rw [judge, if_pos (Text.blank_append.mpr nothing)]
  rfl

/-- The failure that lists what an analyzer has printed. -/
def listing (analysis : Completion) : Error :=
  .assertion ("the following SELinux domains were found to be in permissive mode:\n" ++ (analysis.out ++ analysis.err))

theorem judge_failed {analysis : Completion} (something : ¬ SaysNothing analysis) :
    Outcome.ofResult (judge analysis) = .failed (listing analysis).message := by
  rw [judge, if_neg fun blank => something (Text.blank_append.mp blank)]
  rfl

section Verdict

variable {adb : Adb} {b : Bench} {left : Host} {result : Except Error Verdict}

/-- The policy was pulled, and the analyzer has read it to the end and has found nothing. -/
def Enforcing (adb : Adb) (b : Bench) (left : Host) : Prop :=
  ∃ pulled analysis, Analyzed adb b pulled analysis left ∧ pulled.succeeded = true ∧ analysis.succeeded = true ∧
    SaysNothing analysis

/-- The policy was pulled, but the analyzer has broken down without a word. -/
def BrokenDown (adb : Adb) (b : Bench) (left : Host) : Prop :=
  ∃ pulled analysis, Analyzed adb b pulled analysis left ∧ pulled.succeeded = true ∧ analysis.succeeded = false ∧
    SaysNothing analysis

theorem not_analyzed_of_few {calls : List Invocation} (few : calls.length ≤ 1) (ran : b.host.Ran calls left)
    {pulled analysis : Completion} : ¬ Analyzed adb b pulled analysis left := by
  intro analyzed
  obtain ⟨pull, analyze, again, -⟩ := analyzed.responses
  obtain rfl := ran.unique again
  simp at few

theorem Course.of_history (course : Course adb b left result) (pull analyze : Invocation)
    {pulled analysis : Completion} (both : left.history = b.host.history ++ [pull, analyze])
    (pulls : b.host.respond b.host.history pull = pulled)
    (analyzes : b.host.respond (b.host.history ++ [pull]) analyze = analysis) :
    Analyzed adb b pulled analysis left := by
  cases course with
  | stopped e blameless calls few ran =>
    obtain rfl := List.append_cancel_left (ran.history.symm.trans both)
    simp at few
  | analyzed _ _ analyzed succeeded =>
    obtain ⟨first, second, ran, rfl, rfl⟩ := analyzed.responses
    obtain ⟨rfl, rest⟩ := List.cons.inj (List.append_cancel_left (ran.history.symm.trans both))
    obtain ⟨rfl, -⟩ := List.cons.inj rest
    rw [← pulls, ← analyzes]
    exact analyzed

theorem Course.passed_iff (course : Course adb b left result) :
    Outcome.ofResult result = .passed ↔ Enforcing adb b left ∨ BrokenDown adb b left := by
  cases course with
  | stopped e blameless calls few ran =>
    refine iff_of_false (by simp [Outcome.ofResult, blameless]) ?_
    rintro (⟨_, _, analyzed, -⟩ | ⟨_, _, analyzed, -⟩)
    · exact not_analyzed_of_few few ran analyzed
    · exact not_analyzed_of_few few ran analyzed
  | analyzed pulled analysis analyzed succeeded =>
    by_cases nothing : SaysNothing analysis
    · refine iff_of_true (judge_passed nothing) ?_
      cases ended : analysis.succeeded with
      | true => exact .inl ⟨pulled, analysis, analyzed, succeeded, ended, nothing⟩
      | false => exact .inr ⟨pulled, analysis, analyzed, succeeded, ended, nothing⟩
    · -- a run is analyzed in one way only, so the other reading of it says something as well
      refine iff_of_false (by simp [judge_failed nothing]) ?_
      rintro (⟨_, _, again, -, -, silent⟩ | ⟨_, _, again, -, -, silent⟩)
      · exact nothing ((analyzed.unique again).2 ▸ silent)
      · exact nothing ((analyzed.unique again).2 ▸ silent)

theorem Course.failed_iff (course : Course adb b left result) (message : String) :
    Outcome.ofResult result = .failed message ↔ ∃ pulled analysis, Analyzed adb b pulled analysis left ∧
      pulled.succeeded = true ∧ ¬ SaysNothing analysis ∧ message = (listing analysis).message := by
  cases course with
  | stopped e blameless calls few ran =>
    refine iff_of_false (by simp [Outcome.ofResult, blameless]) ?_
    rintro ⟨_, _, analyzed, -⟩
    exact not_analyzed_of_few few ran analyzed
  | analyzed pulled analysis analyzed succeeded =>
    by_cases nothing : SaysNothing analysis
    · refine iff_of_false (by simp [judge_passed nothing]) ?_
      rintro ⟨_, _, again, -, something, -⟩
      exact something ((analyzed.unique again).2 ▸ nothing)
    · rw [judge_failed nothing]
      constructor
      · intro failed
        exact ⟨pulled, analysis, analyzed, succeeded, nothing, (Outcome.failed.inj failed).symm⟩
      · rintro ⟨_, _, again, -, -, rfl⟩
        rw [(analyzed.unique again).2]

theorem Course.error_of (course : Course adb b left result)
    (unread : ∀ pulled analysis, Analyzed adb b pulled analysis left → pulled.succeeded = false) :
    ∃ message, Outcome.ofResult result = .error message := by
  cases course with
  | stopped e blameless calls few ran => exact ⟨e.message, by simp [Outcome.ofResult, blameless]⟩
  | analyzed pulled analysis analyzed succeeded => simp [unread pulled analysis analyzed] at succeeded

end Verdict

/-- The turn of the test in a run that begins with `start`. -/
def turn (monitor : Monitor (Station Memory)) (start : Station Memory) : Turn (Station Memory) :=
  ⟨"all_enforcing", monitor (.started name "all_enforcing") start⟩

theorem turn_course (rig : Rig) (turn : Turn (Station Memory)) (test : turn.test = "all_enforcing") :
    Course rig.adb turn.begun.bench ((suite rig).tested turn).bench.host
      (((suite rig).attempt turn.test).perform turn.begun).1 := by
  have course := attempt_course rig turn.begun
  rw [← test] at course
  exact course

/-- The suite has one test, which every run of it selects. -/
theorem perform_run (rig : Rig) (monitor : Monitor (Station Memory)) (start : Station Memory) {only : List String}
    (known : ∀ test ∈ only, test ∈ tests) :
    ((suite rig).run monitor only).perform start =
      (.ok [(suite rig).turnOutcome (turn monitor start)], (suite rig).closed monitor (turn monitor start)) := by
  have selected : (suite rig).selected only = ["all_enforcing"] := by
    rw [Suite.selected_eq]
    show ["all_enforcing"].filter _ = _
    rw [List.filter_eq_self]
    intro test member
    obtain rfl := List.mem_singleton.mp member
    refine decide_eq_true ?_
    cases only with
    | nil => exact .inl rfl
    | cons first rest =>
      obtain rfl := List.mem_singleton.mp (known first (by simp))
      exact .inr (by simp)
  have found : only.find? (fun test => !(suite rig).tests.contains test) = none := by
    simpa [suite] using known
  rw [Suite.run_known _ _ found, selected, Suite.runAll_turns]
  rfl

/-- Whatever the client and the analyzer do, a run of the suite has one outcome. The test passes exactly if the policy
was pulled and the analyzer, which has ended with success or has broken down, printed nothing. It fails exactly if the
policy was pulled and the analyzer printed something, and then says what. Without that it could not be carried out. -/
theorem all_enforcing_outcome (rig : Rig) (monitor : Monitor (Station Memory)) (start : Station Memory)
    (only : List String) (known : ∀ test ∈ only, test ∈ tests) :
    let turn := turn monitor start
    let bench := turn.begun.bench
    let left := ((suite rig).tested turn).bench.host
    let ended := (suite rig).turnOutcome turn
    ((suite rig).run monitor only).perform start = (.ok [ended], (suite rig).closed monitor turn) ∧
      (ended.outcome = .passed ↔ Enforcing rig.adb bench left ∨ BrokenDown rig.adb bench left) ∧
      (∀ message, ended.outcome = .failed message ↔ ∃ pulled analysis, Analyzed rig.adb bench pulled analysis left ∧
        pulled.succeeded = true ∧ ¬ SaysNothing analysis ∧ message = (listing analysis).message) ∧
      ((∀ pulled analysis, Analyzed rig.adb bench pulled analysis left → pulled.succeeded = false) →
        ∃ message, ended.outcome = .error message) := by
  intro turn bench left ended
  have course := turn_course rig turn rfl
  exact ⟨perform_run rig monitor start known, course.passed_iff, course.failed_iff, course.error_of⟩

/-! A run on a host whose client succeeds. -/

/-- A host with a client and an analyzer, which comes to the same whenever it is run. -/
def hostAnalyzing (analysis : Completion) : Host where
  environment := [("PATH", "/bin")]
  accountHome := none
  files := ⟨[(["bin"], .folder), (["bin", "adb"], .program), (["bin", "sepolicy-analyze"], .program),
    (["tmp"], .folder)]⟩
  workdir := []
  respond _ call := if call.program = analyzer then analysis else .silent
  history := []
  clock := 0

def plainRig : Rig := ⟨⟨"adb", none⟩, .default⟩

theorem hostAnalyzing_respond (analysis : Completion) (past : List Invocation) (call : Invocation) :
    (hostAnalyzing analysis).respond past call = if call.program = analyzer then analysis else .silent := rfl

def stationAnalyzing (analysis : Completion) : Station Memory := ⟨.ofHost (hostAnalyzing analysis), .start⟩

theorem analyzed_on_host (analysis : Completion) (policy : String) {left : Host}
    (ended : ((suite plainRig).tested (turn .silent (stationAnalyzing analysis))).bench.host = left)
    (both : left.history = [⟨"adb", ["pull", devicePolicy, policy]⟩, ⟨analyzer, [policy, "permissive"]⟩]) :
    Analyzed plainRig.adb (stationAnalyzing analysis).bench .silent analysis left := by
  have course := turn_course plainRig (turn .silent (stationAnalyzing analysis)) rfl
  rw [ended] at course
  have other : "adb" ≠ analyzer := by decide
  refine course.of_history _ _ both ?_ ?_
  · exact (hostAnalyzing_respond ..).trans (if_neg other)
  · exact (hostAnalyzing_respond ..).trans (if_pos rfl)

theorem all_enforcing_outcome_listing :
    let start := stationAnalyzing ⟨.exited 0, "su\n", ""⟩
    (∀ test ∈ ["all_enforcing"], test ∈ tests) ∧
      ((suite plainRig).turnOutcome (turn .silent start)).outcome =
        .failed "assertion failed: the following SELinux domains were found to be in permissive mode:\nsu\n" := by
  intro start
  have known : ∀ test ∈ ["all_enforcing"], test ∈ tests := by decide
  have analyzed := analyzed_on_host ⟨.exited 0, "su\n", ""⟩ "/tmp/hostcts_sepolicy_000000/policy" rfl (by decide +kernel)
  obtain ⟨-, -, failed, -⟩ := all_enforcing_outcome plainRig .silent start ["all_enforcing"] known
  refine ⟨known, (failed _).mpr ⟨_, _, analyzed, by decide, ?_, by decide +kernel⟩⟩
  rintro ⟨nothing, -⟩
  exact absurd nothing (by decide)

/-- An analyzer that breaks down without a word passes the test. -/
theorem broken_analyzer_passes :
    let analysis : Completion := ⟨.killed, "", ""⟩
    let start := stationAnalyzing analysis
    let turn := turn .silent start
    let left := ((suite plainRig).tested turn).bench.host
    ((suite plainRig).run .silent []).perform start =
        (.ok [(suite plainRig).turnOutcome turn], (suite plainRig).closed .silent turn) ∧
      ((suite plainRig).turnOutcome turn).outcome = .passed ∧
      Analyzed plainRig.adb turn.begun.bench .silent analysis left ∧ ¬ Enforcing plainRig.adb turn.begun.bench left := by
  intro analysis start turn left
  have analyzed : Analyzed plainRig.adb turn.begun.bench .silent analysis left :=
    analyzed_on_host analysis "/tmp/hostcts_sepolicy_000000/policy" rfl (by decide +kernel)
  refine ⟨perform_run plainRig .silent start (by simp), by decide +kernel, analyzed, ?_⟩
  rintro ⟨pulled, other, again, -, ended, -⟩
  obtain ⟨-, rfl⟩ := analyzed.unique again
  exact absurd ended (by decide)

end Selinux
end DeviceHarness
