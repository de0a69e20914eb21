import DeviceHarness.Bench
import DeviceHarness.Proofs.ActionRelations

/-! What a bench remembers while the world around it changes. An answer that was found is kept, and no
failure is: a question that has only failed is asked anew of the world as it is then. Answers may be found on
the way to others, since the API level needs a client, and a client needs the configuration and a program. -/

namespace DeviceHarness

/-- What a bench looks up once. -/
inductive Fact where
  | apiLevel
  | config
  | program (name : String)
  deriving DecidableEq

namespace Fact

abbrev Answer : Fact → Type
  | apiLevel => Nat
  | config => Option Config
  | program _ => String

def ask : (fact : Fact) → Action Bench fact.Answer
  | apiLevel => Bench.apiLevel
  | config => Bench.config
  | program name => Bench.program name

def answer (fact : Fact) (b : Bench) : Except Error fact.Answer := (fact.ask.perform b).1

/-- The answer that was found before, if there is one. -/
def known : (fact : Fact) → Findings → Option fact.Answer
  | apiLevel, found => found.apiLevel
  | config, found => found.config
  | program name, found => found.programs.lookup name

end Fact

/-! Looking things up. -/

namespace Bench

/-- Things were looked up: the host is as before, and so is what was known. Whatever else is known now is what
the host has. -/
structure Looked (b left : Bench) : Prop where
  host : left.host = b.host
  level : left.findings.apiLevel = b.findings.apiLevel
  config : left.findings.config = b.findings.config ∨
    b.findings.config = none ∧ ∃ config, b.host.readConfig = .ok config ∧ left.findings.config = some config
  programs : ∀ name, left.findings.programs.lookup name = b.findings.programs.lookup name ∨
    b.findings.programs.lookup name = none ∧
      ∃ path, b.host.programPath? name = some path ∧ left.findings.programs.lookup name = some path

variable {b mid left : Bench} {α β : Type}

theorem Looked.refl : Looked b b := ⟨rfl, rfl, .inl rfl, fun _ => .inl rfl⟩

theorem Looked.trans (first : Looked b mid) (rest : Looked mid left) : Looked b left where
  host := rest.host.trans first.host
  level := rest.level.trans first.level
  config := by
    rcases rest.config with same | ⟨unknown, config, read, found⟩
    · rw [same]
      exact first.config
    · rw [first.host] at read
      rcases first.config with before | ⟨-, earlier, -, known⟩
      · exact .inr ⟨before.symm.trans unknown, config, read, found⟩
      · cases unknown.symm.trans known
  programs := by
    intro name
    rcases rest.programs name with same | ⟨unknown, path, there, found⟩
    · rw [same]
      exact first.programs name
    · rw [first.host] at there
      rcases first.programs name with before | ⟨-, earlier, -, known⟩
      · exact .inr ⟨before.symm.trans unknown, path, there, found⟩
      · cases unknown.symm.trans known

instance : Std.Refl Looked := ⟨fun _ => .refl⟩

instance : IsTrans Bench Looked := ⟨fun _ _ _ => .trans⟩

/-- Work that does nothing but look things up. -/
abbrev LooksUp (work : Action Bench α) : Prop := Action.Leads Looked work

@[simp] theorem perform_look (view : Bench → α) : (look view).perform b = (.ok (view b), b) := rfl

@[simp] theorem perform_ask (question : Host → Except Error α) : (ask question).perform b = (question b.host, b) := rfl

@[simp] theorem perform_onHost (work : Action Host α) :
    (onHost work).perform b = ((work.perform b.host).1, { b with host := (work.perform b.host).2 }) := rfl

theorem perform_config (b : Bench) :
    config.perform b = match b.findings.config with
      | some config => (.ok config, b)
      | none => match b.host.readConfig with
        | .ok config => (.ok config, { b with findings := { b.findings with config := some config } })
        | .error e => (.error e, b) := by
  rw [config, Action.perform_bind, perform_look]
  dsimp only
  cases b.findings.config with
  | some config => rfl
  | none =>
    dsimp only
    rw [Action.perform_bind, perform_ask]
    cases b.host.readConfig <;> rfl

theorem perform_program? (name : String) (b : Bench) :
    (program? name).perform b = match b.findings.programs.lookup name with
      | some path => (.ok (some path), b)
      | none => match b.host.programPath? name with
        | some path =>
          (.ok (some path), { b with findings := { b.findings with programs := (name, path) :: b.findings.programs } })
        | none => (.ok none, b) := by
  rw [program?, Action.perform_bind, perform_look]
  dsimp only
  cases b.findings.programs.lookup name with
  | some path => rfl
  | none =>
    dsimp only
    rw [Action.perform_bind, perform_look]
    dsimp only
    cases b.host.programPath? name <;> rfl

theorem perform_program (name : String) (b : Bench) :
    (program name).perform b = match b.findings.programs.lookup name with
      | some path => (.ok path, b)
      | none => match b.host.programPath? name with
        | some path =>
          (.ok path, { b with findings := { b.findings with programs := (name, path) :: b.findings.programs } })
        | none => (.error (.missingProgram name), b) := by
  rw [program, Action.perform_bind, perform_program?]
  cases b.findings.programs.lookup name with
  | some path => rfl
  | none => cases b.host.programPath? name <;> rfl

theorem config_looksUp : LooksUp config := by
  intro b
  rw [perform_config]
  split
  · exact .refl
  next unknown =>
    split
    next config read => exact ⟨rfl, rfl, .inr ⟨unknown, config, read, rfl⟩, fun _ => .inl rfl⟩
    next => exact .refl

theorem program?_looksUp (name : String) : LooksUp (program? name) := by
  intro b
  rw [perform_program?]
  split
  · exact .refl
  next unknown =>
    split
    next path there =>
      refine ⟨rfl, rfl, .inl rfl, fun other => ?_⟩
      by_cases same : other = name
      · subst same
        exact .inr ⟨unknown, path, there, by simp⟩
      · exact .inl (by simp [List.lookup_cons, beq_eq_false_iff_ne.mpr same])
    next => exact .refl

theorem program_looksUp (name : String) : LooksUp (program name) := by
  refine (program?_looksUp name).bind fun path => ?_
  cases path with
  | some path => exact .still fun _ => rfl
  | none => exact .still fun _ => rfl

theorem harnessSettings_looksUp : LooksUp harnessSettings := by
  refine config_looksUp.bind fun config => ?_
  cases config with
  | some config => exact .still fun _ => rfl
  | none => exact .still fun _ => rfl

theorem apkDir_looksUp : LooksUp apkDir := by
  refine harnessSettings_looksUp.bind fun settings => ?_
  split
  · exact .still fun _ => rfl
  · split
    · exact .still fun _ => rfl
    · exact .still fun _ => rfl

theorem ofEnvironment_looksUp : LooksUp Adb.ofEnvironment :=
  (program_looksUp "adb").bind fun _ => .bind (.still fun _ => rfl) fun _ => .still fun _ => rfl

theorem ofSettings_looksUp (settings : AdbSettings) : LooksUp (Adb.ofSettings settings) := by
  have client : ∀ program : String, LooksUp (do
      let serial ← match settings.serial with
        | some serial => pure (some serial)
        | none => look (·.host.envValue? Adb.serialVariable)
      return (⟨program, serial⟩ : Adb)) := by
    intro program
    cases settings.serial with
    | some serial => exact .still fun _ => rfl
    | none => exact .bind (.still fun _ => rfl) fun _ => .still fun _ => rfl
  unfold Adb.ofSettings
  cases settings.executable with
  | some path => exact .bind (.still fun _ => rfl) client
  | none => exact (program_looksUp "adb").bind client

theorem find_looksUp : LooksUp Adb.find := by
  refine config_looksUp.outcome.bind fun result => ?_
  split
  next config =>
    refine .bind (.still fun _ => rfl) fun settings => ?_
    unfold Adb.ofDevice
    split
    · exact .still fun _ => rfl
    · split
      · exact ofSettings_looksUp _
      · exact ofEnvironment_looksUp
  · exact ofEnvironment_looksUp

theorem perform_apiLevel_known {b : Bench} {level : Nat} (known : b.findings.apiLevel = some level) :
    apiLevel.perform b = (.ok level, b) := by
  rw [apiLevel, Action.perform_bind, perform_look, known]
  rfl

/-- A level that was not known is known afterwards exactly if it was answered. On the way to it a client may have
been looked up. -/
theorem perform_apiLevel_unknown {b : Bench} (unknown : b.findings.apiLevel = none) :
    ∃ mid, Looked b mid ∧ (apiLevel.perform b).2.findings =
      { mid.findings with apiLevel := (apiLevel.perform b).1.toOption } := by
  have level {mid : Bench} (looked : Looked b mid) : mid.findings.apiLevel = none := looked.level.trans unknown
  rw [apiLevel, Action.perform_bind, perform_look, unknown]
  dsimp only
  rw [Action.perform_bind, perform_look]
  dsimp only
  cases b.host.envValue? apiLevelVariable with
  | some value =>
    refine ⟨b, .refl, ?_⟩
    dsimp only
    rw [Action.perform_bind, Action.perform_ofResult]
    cases apiLevelOf value with
    | ok level => rfl
    | error e => simp [Except.toOption, ← unknown]
  | none =>
    dsimp only
    have looked := find_looksUp b
    rw [Action.perform_bind]
    generalize Adb.find.perform b = outcome at *
    obtain ⟨result, mid⟩ := outcome
    refine ⟨mid, looked, ?_⟩
    cases result with
    | error e => simp [Except.toOption, ← level looked]
    | ok adb =>
      dsimp only
      rw [Action.perform_bind, perform_onHost]
      cases ((queryApiLevel adb).perform mid.host).1 with
      | ok level => rfl
      | error e => simp [Except.toOption, ← level looked]

end Bench

/-! Sessions. -/

namespace Fact

/-- Between two moments all that was known stays known, and what else is known then is what would have been
answered before. -/
def Learns (b left : Bench) : Prop :=
  ∀ fact : Fact, fact.known left.findings = fact.known b.findings ∨
    ∃ v, fact.known b.findings = none ∧ fact.answer b = .ok v ∧ fact.known left.findings = some v

theorem learns_of_looked {b left : Bench} (looked : Bench.Looked b left) : Learns b left := by
  intro fact
  cases fact with
  | apiLevel => exact .inl looked.level
  | config =>
    rcases looked.config with same | ⟨unknown, config, read, found⟩
    · exact .inl same
    · refine .inr ⟨config, unknown, ?_, found⟩
      show (Bench.config.perform b).1 = _
      rw [Bench.perform_config, unknown]
      dsimp only
      rw [read]
  | program name =>
    rcases looked.programs name with same | ⟨unknown, path, there, found⟩
    · exact .inl same
    · refine .inr ⟨path, unknown, ?_, found⟩
      show ((Bench.program name).perform b).1 = _
      rw [Bench.perform_program, unknown]
      dsimp only
      rw [there]

theorem apiLevel_learns (b : Bench) : Learns b (Bench.apiLevel.perform b).2 := by
  cases known : b.findings.apiLevel with
  | some level =>
    rw [Bench.perform_apiLevel_known known]
    exact fun fact => .inl rfl
  | none =>
    obtain ⟨mid, looked, left⟩ := Bench.perform_apiLevel_unknown known
    intro fact
    rw [left]
    cases fact with
    | config => exact learns_of_looked looked .config
    | program name => exact learns_of_looked looked (.program name)
    | apiLevel =>
      cases answered : (Bench.apiLevel.perform b).1 with
      | error e => exact .inl known.symm
      | ok level => exact .inr ⟨level, known, answered, rfl⟩

/-- What is known is answered, and asking changes nothing. -/
theorem perform_ask_known {fact : Fact} {b : Bench} {v : fact.Answer} (known : fact.known b.findings = some v) :
    fact.ask.perform b = (.ok v, b) := by
  cases fact with
  | apiLevel => exact Bench.perform_apiLevel_known known
  | config =>
    show Bench.config.perform b = _
    rw [Bench.perform_config, show b.findings.config = some v from known]
  | program name =>
    show (Bench.program name).perform b = _
    rw [Bench.perform_program, show b.findings.programs.lookup name = some v from known]

/-- What was answered is known. -/
theorem known_of_answer {fact : Fact} {b : Bench} {v : fact.Answer} (answered : fact.answer b = .ok v) :
    fact.known (fact.ask.perform b).2.findings = some v := by
  cases before : fact.known b.findings with
  | some w =>
    have same := perform_ask_known before
    rw [answer, same] at answered
    rw [same, before, Except.ok.inj answered]
  | none =>
    cases fact with
    | apiLevel =>
      obtain ⟨mid, -, left⟩ := Bench.perform_apiLevel_unknown before
      show (Bench.apiLevel.perform b).2.findings.apiLevel = some v
      rw [left, show (Bench.apiLevel.perform b).1 = .ok v from answered]
      rfl
    | config =>
      have unknown : b.findings.config = none := before
      rw [answer, ask, Bench.perform_config, unknown] at answered
      rw [ask, Bench.perform_config, unknown]
      dsimp only at answered ⊢
      cases read : b.host.readConfig with
      | error e => simp [read] at answered
      | ok config =>
        obtain rfl : config = v := by simpa [read] using answered
        rfl
    | program name =>
      have unknown : b.findings.programs.lookup name = none := before
      rw [answer, ask, Bench.perform_program, unknown] at answered
      rw [ask, Bench.perform_program, unknown]
      dsimp only at answered ⊢
      cases there : b.host.programPath? name with
      | none => simp [there] at answered
      | some path =>
        obtain rfl : path = v := by simpa [there] using answered
        simp [known]

/-- A configuration or a program that is not found leaves no trace at all. -/
theorem perform_ask_failed {fact : Fact} {b : Bench} (other : fact ≠ .apiLevel)
    (failed : ∀ v, fact.answer b ≠ .ok v) : (fact.ask.perform b).2 = b := by
  cases before : fact.known b.findings with
  | some v => rw [perform_ask_known before]
  | none =>
    cases fact with
    | apiLevel => exact absurd rfl other
    | config =>
      have unknown : b.findings.config = none := before
      have notFound := failed
      simp only [answer, ask, Bench.perform_config, unknown] at notFound ⊢
      cases read : b.host.readConfig with
      | error e => rfl
      | ok config => exact absurd (by rw [read]) (notFound config)
    | program name =>
      have unknown : b.findings.programs.lookup name = none := before
      have notFound := failed
      simp only [answer, ask, Bench.perform_program, unknown] at notFound ⊢
      cases there : b.host.programPath? name with
      | none => rfl
      | some path => exact absurd (by rw [there]) (notFound path)

end Fact

/-- What can be asked of a bench. -/
inductive Query where
  | ask (fact : Fact)
  /-- A program that the host need not have. -/
  | program? (name : String)
  | settings
  | apkDir
  | client
  /-- What the host answers without a memory, such as a variable or a place of the project. -/
  | host (question : Host → Except Error String)

/-- The bench after a query, whatever its answer was. -/
def Query.after : Query → Bench → Bench
  | ask fact, b => (fact.ask.perform b).2
  | program? name, b => ((Bench.program? name).perform b).2
  | settings, b => (Bench.harnessSettings.perform b).2
  | apkDir, b => (Bench.apkDir.perform b).2
  | client, b => (Adb.find.perform b).2
  | host question, b => ((Bench.ask question).perform b).2

/-- Every query but that for the API level only looks things up. -/
theorem Query.looked {q : Query} (other : q ≠ .ask .apiLevel) (b : Bench) : Bench.Looked b (q.after b) := by
  cases q with
  | ask fact =>
    cases fact with
    | apiLevel => exact absurd rfl other
    | config => exact Bench.config_looksUp b
    | program name => exact Bench.program_looksUp name b
  | program? name => exact Bench.program?_looksUp name b
  | settings => exact Bench.harnessSettings_looksUp b
  | apkDir => exact Bench.apkDir_looksUp b
  | client => exact Bench.find_looksUp b
  | host question => exact .refl

theorem Query.learns (q : Query) (b : Bench) : Fact.Learns b (q.after b) := by
  by_cases level : q = .ask .apiLevel
  · subst level
    exact Fact.apiLevel_learns b
  · exact Fact.learns_of_looked (q.looked level b)

inductive Happening where
  /-- The world is another one: its environment, its files and programs, or how its device replies. -/
  | change (world : Host)
  | query (q : Query)

def Happening.after : Happening → Bench → Bench
  | change world, b => { b with host := world }
  | query q, b => q.after b

/-- Whether it is this fact that is asked for. -/
def Happening.asks (fact : Fact) : Happening → Bool
  | query (.ask other) => other = fact
  | _ => false

theorem Happening.asks_iff {fact : Fact} {event : Happening} : event.asks fact = true ↔ event = .query (.ask fact) := by
  unfold asks
  split
  next other => simp
  next other =>
    refine iff_of_false Bool.false_ne_true ?_
    rintro rfl
    exact other fact rfl

namespace Bench

/-- The bench after events, one after another. -/
def through (b : Bench) (events : List Happening) : Bench := events.foldl (fun b event => event.after b) b

variable {b : Bench} {fact : Fact} {events : List Happening} {v : fact.Answer}

theorem through_append (b : Bench) (events more : List Happening) :
    b.through (events ++ more) = (b.through events).through more := List.foldl_append

theorem known_through (known : fact.known b.findings = some v) : fact.known (b.through events).findings = some v := by
  induction events generalizing b with
  | nil => exact known
  | cons event rest ih =>
    refine ih ?_
    cases event with
    | change world => exact known
    | query q =>
      rcases q.learns b fact with same | ⟨w, unknown, -⟩
      · exact same.trans known
      · cases unknown.symm.trans known

/-- What is known after events was known before them, or one of them was a query at whose time it would have
been answered. -/
theorem known_from (known : fact.known (b.through events).findings = some v) :
    fact.known b.findings = some v ∨
      ∃ earlier q later, events = earlier ++ .query q :: later ∧ fact.answer (b.through earlier) = .ok v := by
  induction events generalizing b with
  | nil => exact .inl known
  | cons event rest ih =>
    rcases ih known with before | ⟨earlier, q, later, rfl, answered⟩
    · cases event with
      | change world => exact .inl before
      | query q =>
        -- Either the query has left the fact as it was, or it is the query that found it.
        rcases q.learns b fact with same | ⟨w, unknown, answered, found⟩
        · exact .inl (same.symm.trans before)
        · cases found.symm.trans before
          exact .inr ⟨[], q, rest, rfl, answered⟩
    · exact .inr ⟨event :: earlier, q, later, rfl, answered⟩

/-- The fact is never found when it is asked for. -/
def OnlyFails (b : Bench) (fact : Fact) (events : List Happening) : Prop :=
  ∀ earlier later, events = earlier ++ .query (.ask fact) :: later → ∀ v, fact.answer (b.through earlier) ≠ .ok v

theorem OnlyFails.tail {event : Happening} (fails : b.OnlyFails fact (event :: events)) :
    (event.after b).OnlyFails fact events := by
  intro earlier later split
  exact fails (event :: earlier) later (by rw [split, List.cons_append])

/-- Failures to find the configuration or a program may as well not have been. -/
theorem through_without (other : fact ≠ .apiLevel) (fails : b.OnlyFails fact events) :
    b.through (events.filter (!·.asks fact)) = b.through events := by
  induction events generalizing b with
  | nil => rfl
  | cons event rest ih =>
    have onward := ih fails.tail
    cases asks : event.asks fact with
    | false => rw [List.filter_cons_of_pos (by simp [asks])]; exact onward
    | true =>
      rw [List.filter_cons_of_neg (by simp [asks])]
      obtain rfl := Happening.asks_iff.mp asks
      have same : Happening.after (.query (.ask fact)) b = b := Fact.perform_ask_failed other (fails [] rest rfl)
      rw [same] at onward
      rw [onward]
      show _ = (Happening.after (.query (.ask fact)) b).through rest
      rw [same]

/-- No other query finds the API level. -/
theorem level_unknown (fails : b.OnlyFails .apiLevel events) (unknown : b.findings.apiLevel = none) :
    (b.through events).findings.apiLevel = none := by
  induction events generalizing b with
  | nil => exact unknown
  | cons event rest ih =>
    refine ih fails.tail ?_
    cases event with
    | change world => exact unknown
    | query q =>
      by_cases level : q = .ask .apiLevel
      · subst level
        rcases Fact.apiLevel_learns b .apiLevel with same | ⟨w, -, answered, -⟩
        · exact same.trans unknown
        · exact absurd answered (fails [] rest rfl w)
      · exact (q.looked level b).level.trans unknown

/-- Whatever happens to the world between queries, an answer to a question is the answer from then on, and asking
again does nothing. As long as a question has only failed, nothing is remembered of that: without the questions for
the configuration or a program that failed the bench would be the same, and the API level is asked of the bench as
of one that knows none. All that is known at any time would have been answered at the time of some query. -/
theorem remembers_only_answers (h : Host) (events : List Happening) (fact : Fact) :
    let start := ofHost h
    let b := start.through events
    (∀ earlier later v, events = earlier ++ .query (.ask fact) :: later → fact.answer (start.through earlier) = .ok v →
      fact.ask.perform b = (.ok v, b)) ∧
    (start.OnlyFails fact events →
      if fact = .apiLevel then b = ⟨b.host, { b.findings with apiLevel := none }⟩
      else b = start.through (events.filter (!·.asks fact))) ∧
    ∀ v, fact.known b.findings = some v →
      ∃ earlier q later, events = earlier ++ .query q :: later ∧ fact.answer (start.through earlier) = .ok v := by
  intro start b
  refine ⟨?_, ?_, ?_⟩
  · rintro earlier later v rfl answered
    apply Fact.perform_ask_known
    let next := Happening.after (.query (.ask fact)) (start.through earlier)
    have known : fact.known (next.through later).findings = some v := known_through (Fact.known_of_answer answered)
    rwa [show b = (start.through earlier).through (.query (.ask fact) :: later) from through_append start earlier _]
  · intro fails
    split
    next level =>
      subst level
      have unknown : b.findings.apiLevel = none := level_unknown fails rfl
      rw [← unknown]
    next other => exact (through_without other fails).symm
  · intro v known
    rcases known_from known with before | found
    · cases fact <;> cases before
    · exact found

end Bench
end DeviceHarness
