import DeviceHarness.Install.Session
import DeviceHarness.Proofs.AdbSteps
import DeviceHarness.Proofs.SessionId

/-! What an install session sends to the device, whatever the device answers. The requests are those of
one fixed sequence of steps, cut off after the first step that fails, so nothing is committed that was
not written, and nothing is written before the session's id is known. -/

namespace DeviceHarness.Install.Session

/-- The reply to the creation has to start with `Success` and to hold the id. -/
def createStep (s : Session) (id : Int) : Adb.Step :=
  .shell (some s.createCommand) fun reply => Reply.succeeded reply = true ∧ Reply.HoldsId reply id

/-- The name of an APK while it waits on the device, if its path has a file name. -/
def waitingName? (index : Nat) (apk : String) : Option String :=
  (Path.fileName? apk).map fun name => Integer.text index ++ "_" ++ name

def pushStep (index : Nat) (apk : String) : Adb.Step where
  request := (waitingName? index apk).map fun name => ["push", apk, "/data/local/tmp/" ++ name]
  accepts c := c.succeeded = true

def writeStep (id : Int) (index : Nat) (apk : String) : Adb.Step :=
  .shell ((waitingName? index apk).map fun name =>
    "pm install-write " ++ Integer.text id ++ " " ++ name ++ " /data/local/tmp/" ++ name)
    fun reply => Reply.succeeded reply = true

def apkSteps (id : Int) (index : Nat) (apks : List String) : List Adb.Step :=
  (apks.zipIdx index).flatMap fun (apk, index) => [pushStep index apk, writeStep id index apk]

/-- The steps before the commit, if the session has this id. -/
def steps (s : Session) (id : Int) : List Adb.Step := s.createStep id :: apkSteps id 0 s.apks

/-- The commit, which should succeed or should be refused. -/
def commitStep (id : Int) (expected : Bool) : Adb.Step :=
  .shell (some ("pm install-commit " ++ Integer.text id)) fun reply => Reply.succeeded reply = expected

/-- What a session sends and how it ends, if its commit is meant to be answered as expected. The
session's id is the one that the first step has found in the reply to the creation. -/
structure Orderly {α : Type} (adb : Adb) (s : Session) (h : Host) (expected : Bool)
    (outcome : Except Error α × Host) (id : Int) (sent : List (List String)) : Prop where
  left : outcome.2 = adb.after h sent
  canonical : sent.map some <+: (s.steps id ++ [commitStep id expected]).map Adb.Step.request
  passed : ∀ (i : Nat) (step : Adb.Step), (s.steps id)[i]? = some step → i + 1 < sent.length →
    ∃ request, adb.Passes (adb.after h (sent.take i)) step request
  committed : sent.length = (s.steps id).length + 1 ↔ ∃ n, adb.AllPass h (s.steps n)
  succeeded : outcome.1.isOk = true ↔ ∃ n, adb.AllPass h (s.steps n ++ [commitStep n expected])

variable {adb : Adb} {s : Session} {h : Host}

/-- Judging a reply is no work on the host. -/
theorem perform_expectSuccess {α : Type} (what reply : String) (value : α) (left : Host) :
    (Action.ofResult (Reply.expectSuccess what reply) >>= fun _ => pure value : Action Host α).perform left =
      ((Reply.expectSuccess what reply).map fun _ => value, left) := by
  rw [Action.perform_bind, Action.perform_ofResult]
  cases Reply.expectSuccess what reply <;> rfl

theorem expectSuccess_isOk {α : Type} (what reply : String) (value : α) :
    Reply.succeeded reply = true ↔ ((Reply.expectSuccess what reply).map fun _ => value).isOk = true := by
  unfold Reply.expectSuccess
  cases Reply.succeeded reply <;> simp [Except.map, Except.isOk, Except.toBool]

theorem expectFailure_isOk (what reply : String) :
    Reply.succeeded reply = false ↔ (Reply.expectFailure what reply).isOk = true := by
  unfold Reply.expectFailure
  cases Reply.succeeded reply <;> simp [Except.isOk, Except.toBool]

/-- Pushing a file is one step. -/
theorem pushFile_takes (adb : Adb) (h : Host) (file remote : String) :
    adb.Follows h [⟨some ["push", file, remote], fun c => c.succeeded = true⟩] ((pushFile adb file remote).perform h) := by
  refine Adb.Follows.single (fun c => if c.succeeded then .ok () else .error (.pushFailed (file ++ " to " ++
    remote ++ ": " ++ Text.trim c.err))) rfl ?_ ?_
  · intro c _
    cases succeeded : c.succeeded <;> simp [succeeded, Except.isOk, Except.toBool]
  · unfold pushFile Adb.push
    rw [Action.perform_bind, Adb.perform_request]
    cases adb.reply h ["push", file, remote] with
    | error e => rfl
    | ok c =>
      dsimp only
      cases c.succeeded <;> rfl

theorem pushStep_named {index : Nat} {apk name : String} (named : Path.fileName? apk = some name) :
    pushStep index apk = ⟨some ["push", apk, staged (stagedName index name)], fun c => c.succeeded = true⟩ := by
  unfold pushStep waitingName?
  rw [named, Option.map_some, Option.map_some]
  rfl

theorem pushFile_follows {index : Nat} {apk name : String} (named : Path.fileName? apk = some name) :
    adb.Follows h [pushStep index apk] ((pushFile adb apk (staged (stagedName index name))).perform h) := by
  rw [pushStep_named named]
  exact pushFile_takes adb h apk (staged (stagedName index name))

theorem staged_eq (name : String) : staged name = "/data/local/tmp/" ++ name := by simp [staged, stagingDir]

theorem writeCommand_staged (id : Int) (name : String) :
    writeCommand id name =
      "pm install-write " ++ Integer.text id ++ " " ++ name ++ " " ++ ("/data/local/tmp/" ++ name) := by
  unfold writeCommand
  rw [staged_eq]

theorem writeCommand_eq (id : Int) (name : String) :
    "pm install-write " ++ Integer.text id ++ " " ++ name ++ " /data/local/tmp/" ++ name = writeCommand id name := by
  have path : " /data/local/tmp/" = " " ++ (stagingDir ++ "/") := by decide
  unfold writeCommand staged
  simp only [path, String.append_assoc]

theorem writeStep_named {id : Int} {index : Nat} {apk name : String} (named : Path.fileName? apk = some name) :
    writeStep id index apk =
      .shell (some (writeCommand id (stagedName index name))) fun reply => Reply.succeeded reply = true := by
  unfold writeStep waitingName?
  rw [named, Option.map_some, Option.map_some, writeCommand_eq, stagedName]

theorem write_follows (id : Int) (index : Nat) (apk : String) :
    adb.Follows h [pushStep index apk, writeStep id index apk] ((write adb id index apk).perform h) := by
  unfold write apkName
  cases named : Path.fileName? apk with
  | none =>
    have unworded : (pushStep index apk).request = none := by simp [pushStep, waitingName?, named]
    exact ⟨[], .unworded unworded, (adb.after_nil h).symm⟩
  | some name =>
    rw [writeStep_named named]
    refine (pushFile_follows named).bind fun _ left _ => ?_
    refine .shell (fun reply => (Reply.expectSuccess (writeCommand id (stagedName index name)) reply).map fun _ => ())
      (fun reply left => ?_) (fun _ reply _ _ => ?_)
    · exact perform_expectSuccess ..
    · exact expectSuccess_isOk ..

theorem writeFrom_follows (id : Int) (index : Nat) (apks : List String) :
    adb.Follows h (apkSteps id index apks) ((writeFrom adb id index apks).perform h) := by
  induction apks generalizing index h with
  | nil => exact .pure ()
  | cons apk rest ih => exact (write_follows id index apk).bind fun _ _ _ => ih (index + 1)

/-- The id that the creation answers. -/
def identified (s : Session) (c : Completion) : Except Error Int := do
  let reply ← c.answer s.createCommand
  let reply ← Reply.expectSuccess s.createCommand reply
  Reply.sessionId reply

theorem identified_eq_ok {c : Completion} {id : Int} : s.identified c = .ok id ↔ (s.createStep id).accepts c := by
  show _ ↔ ∃ reply, c.Prints reply ∧ Reply.succeeded reply = true ∧ Reply.HoldsId reply id
  simp only [← @Completion.answer_eq_ok c s.createCommand, ← Reply.sessionId_eq_ok]
  unfold identified Reply.expectSuccess
  cases c.answer s.createCommand with
  | error e => simp [bind, Except.bind]
  | ok reply => cases succeeded : Reply.succeeded reply <;> simp [bind, Except.bind, succeeded]

theorem passes_createStep {id : Int} {request : List String} :
    adb.Passes h (s.createStep id) request ↔
      request = ["shell", s.createCommand] ∧ ∃ c, adb.reply h request = .ok c ∧ s.identified c = .ok id := by
  simp only [Adb.Passes, identified_eq_ok]
  exact and_congr_left fun _ => Option.some_inj.trans eq_comm

theorem createStep_unique {n m : Int} {first second : List String} (one : adb.Passes h (s.createStep n) first)
    (other : adb.Passes h (s.createStep m) second) : n = m := by
  obtain ⟨rfl, c, completed, found⟩ := passes_createStep.mp one
  obtain ⟨rfl, d, again, foundAgain⟩ := passes_createStep.mp other
  rw [completed] at again
  cases again
  rw [found] at foundAgain
  exact Except.ok.inj foundAgain

theorem perform_create (adb : Adb) (s : Session) (h : Host) :
    (create adb s).perform h =
      match adb.reply h ["shell", s.createCommand] with
      | .ok c => (s.identified c, adb.after h [["shell", s.createCommand]])
      | .error e => (.error e, h) := by
  unfold create identified
  rw [Action.perform_bind, Adb.perform_shellText]
  cases adb.reply h ["shell", s.createCommand] with
  | error e => rfl
  | ok c =>
    dsimp only
    cases c.answer s.createCommand with
    | error e => rfl
    | ok reply =>
      show (Action.ofResult (Reply.expectSuccess s.createCommand reply) >>= fun reply =>
        Action.ofResult (Reply.sessionId reply)).perform _ =
          (Reply.expectSuccess s.createCommand reply >>= Reply.sessionId, _)
      rw [Action.perform_bind, Action.perform_ofResult]
      cases Reply.expectSuccess s.createCommand reply <;> rfl

theorem create_id {n : Int} {left : Host} (created : (create adb s).perform h = (.ok n, left)) :
    ∃ request, adb.Passes h (s.createStep n) request := by
  refine ⟨["shell", s.createCommand], passes_createStep.mpr ⟨rfl, ?_⟩⟩
  rw [perform_create] at created
  cases completed : adb.reply h ["shell", s.createCommand] with
  | error e =>
    rw [completed] at created
    cases (Prod.mk.inj created).1
  | ok c =>
    rw [completed] at created
    exact ⟨c, rfl, (Prod.mk.inj created).1⟩

theorem create_follows {id : Int} (agrees : ∀ n request, adb.Passes h (s.createStep n) request → n = id) :
    adb.Follows h [s.createStep id] ((create adb s).perform h) := by
  refine .single s.identified rfl ?_ (perform_create adb s h)
  intro c completed
  rw [← identified_eq_ok]
  constructor
  · intro found
    rw [found]
    rfl
  · intro ok
    cases found : s.identified c with
    | error e =>
      rw [found] at ok
      cases ok
    | ok n => rw [agrees n _ (passes_createStep.mpr ⟨rfl, c, completed, found⟩)]

/-- The steps of a session whose work goes on with the answer to the commit, which should be an acceptable one. -/
theorem session_judged {α : Type} (accepts : Int → String → Prop) (work : Int → String → Action Host α)
    (judge : Int → String → Except Error α)
    (judges : ∀ id reply left, (work id reply).perform left = (judge id reply, left))
    (accepted : ∀ id reply, accepts id reply ↔ (judge id reply).isOk = true)
    {id : Int} (agrees : ∀ n request, adb.Passes h (s.createStep n) request → n = id) :
    adb.Follows h (s.steps id ++ [.shell (some ("pm install-commit " ++ Integer.text id)) (accepts id)])
      ((execute adb s >>= fun (id, reply) => work id reply).perform h) := by
  have shape : (execute adb s >>= fun (id, reply) => work id reply) =
      create adb s >>= fun id => writeFrom adb id 0 s.apks >>= fun _ =>
        adb.shellText (commitCommand id) >>= work id := by
    simp [execute]
  rw [shape]
  refine (create_follows agrees).bind fun n left created => ?_
  obtain ⟨request, passes⟩ := create_id created
  obtain rfl := agrees n request passes
  refine (writeFrom_follows n 0 s.apks).bind fun _ _ _ => ?_
  exact .shell (judge n) (judges n) fun _ reply _ _ => accepted n reply

theorem session_follows {α : Type} (expected : Bool) (work : Int → String → Action Host α)
    (judge : Int → String → Except Error α)
    (judges : ∀ id reply left, (work id reply).perform left = (judge id reply, left))
    (accepted : ∀ id reply, Reply.succeeded reply = expected ↔ (judge id reply).isOk = true)
    {id : Int} (agrees : ∀ n request, adb.Passes h (s.createStep n) request → n = id) :
    adb.Follows h (s.steps id ++ [commitStep id expected])
      ((execute adb s >>= fun (id, reply) => work id reply).perform h) :=
  session_judged (fun _ reply => Reply.succeeded reply = expected) work judge judges accepted agrees

/-! Once a session has an id, its commit can be sent. -/

theorem commit_sendable {id : Int} (before : List (List String)) (all : adb.AllPass h (s.steps id)) :
    ∃ c, adb.reply (adb.after h before) ["shell", "pm install-commit " ++ Integer.text id] = .ok c := by
  obtain ⟨request, ⟨-, c, completed, -, -, -, inside, -, read, -⟩, -⟩ := all
  have fits := Integer.natAbs_of_fits (Integer.fits_of_ofText? read)
  exact adb.reply_numbered h completed before (by decide) (by decide) (Nat.lt_of_le_of_lt fits (by decide))

/-! From steps to the order of a session. -/

theorem exists_agreed_id (adb : Adb) (s : Session) (h : Host) :
    ∃ id, ∀ n request, adb.Passes h (s.createStep n) request → n = id := by
  by_cases created : ∃ id request, adb.Passes h (s.createStep id) request
  · obtain ⟨id, request, passes⟩ := created
    exact ⟨id, fun n other found => createStep_unique found passes⟩
  · exact ⟨0, fun n request found => absurd ⟨n, request, found⟩ created⟩

/-- Steps that begin with the creation can pass for the agreed id only. -/
theorem allPass_agreed {id : Int} (later : Int → List Adb.Step)
    (agrees : ∀ n request, adb.Passes h (s.createStep n) request → n = id) :
    (∃ n, adb.AllPass h (s.createStep n :: later n)) ↔ adb.AllPass h (s.createStep id :: later id) := by
  constructor
  · rintro ⟨n, request, passes, all⟩
    obtain rfl := agrees n request passes
    exact ⟨request, passes, all⟩
  · intro all
    exact ⟨id, all⟩

theorem orderly_of_follows {α : Type} {expected : Bool} {outcome : Except Error α × Host} {id : Int}
    (agrees : ∀ n request, adb.Passes h (s.createStep n) request → n = id)
    (follows : adb.Follows h (s.steps id ++ [commitStep id expected]) outcome) :
    ∃ sent, s.Orderly adb h expected outcome id sent := by
  obtain ⟨sent, takes, left⟩ := follows
  refine ⟨sent, left, takes.sent_prefix, fun i step found earlier => ?_, ?_, ?_⟩
  · have inside : i < (s.steps id).length := (List.getElem?_eq_some_iff.mp found).1
    exact takes.passed (by rw [List.getElem?_append_left inside, found]) earlier
  · rw [takes.last_sent rfl fun all => commit_sendable _ all]
    exact (allPass_agreed (fun n => apkSteps n 0 s.apks) agrees).symm
  · rw [takes.ended_iff]
    exact (allPass_agreed (fun n => apkSteps n 0 s.apks ++ [commitStep n expected]) agrees).symm

/-- Whatever the device answers, an install and an install that should be refused send the steps of
the session in order and stop at the first that fails. The commit is sent exactly if all steps before it
pass, and the outcome is a success exactly if the commit is then answered as expected. -/
theorem orderly_runs (adb : Adb) (s : Session) (h : Host) :
    (∃ id sent, s.Orderly adb h true ((s.run adb).perform h) id sent) ∧
      ∃ id sent, s.Orderly adb h false ((s.runExpectingFailure adb).perform h) id sent := by
  obtain ⟨id, agrees⟩ := exists_agreed_id adb s h
  constructor
  · refine ⟨id, orderly_of_follows agrees ?_⟩
    exact session_follows true _ _ (fun id reply left => perform_expectSuccess (commitCommand id) reply id left)
      (fun id reply => expectSuccess_isOk (commitCommand id) reply id) agrees
  · refine ⟨id, orderly_of_follows agrees ?_⟩
    exact session_follows false _ (fun id reply => Reply.expectFailure (commitCommand id) reply)
      (fun id reply left => rfl) (fun id reply => expectFailure_isOk (commitCommand id) reply) agrees

end DeviceHarness.Install.Session
