import DeviceHarness.Proofs.InstallOrder

/-! An install and an install that should be refused, on the same device. Both send the same requests, since
they differ only in how they judge the answer to the commit. So what goes wrong before there is such an answer
goes wrong in both, and after it just one of them has what it wants. -/

namespace DeviceHarness.Install.Session

/-- The device answers the commit by this reply. -/
def answeredStep (id : Int) (reply : String) : Adb.Step :=
  .shell (some ("pm install-commit " ++ Integer.text id)) (· = reply)

/-- The session gets this id and passes all its steps, and this is the answer to its commit. -/
def Answered (adb : Adb) (s : Session) (h : Host) (id : Int) (reply : String) : Prop :=
  adb.AllPass h (s.steps id ++ [answeredStep id reply])

variable {adb : Adb} {s : Session} {h : Host} {id : Int} {reply : String}

theorem Answered.created (answered : s.Answered adb h id reply) : ∃ request, adb.Passes h (s.createStep id) request := by
  obtain ⟨request, passes, -⟩ := answered
  exact ⟨request, passes⟩

/-- Work that goes on only if the session ended with this id and this reply. -/
private def demand (id : Int) (reply : String) (found : Int) (answer : String) : Except Error Unit :=
  if found = id ∧ answer = reply then .ok () else .error .noDevice

private theorem demand_isOk (found : Int) (answer : String) :
    found = id ∧ answer = reply ↔ (demand id reply found answer).isOk = true := by
  unfold demand
  split
  next same => exact iff_of_true same rfl
  next different => exact iff_of_false different Bool.false_ne_true

/-- Work that goes on to judge what the steps answered does nothing else. -/
theorem perform_judged {α : Type} (work : Int → String → Action Host α) (judge : Int → String → Except Error α)
    (judges : ∀ id reply left, (work id reply).perform left = (judge id reply, left))
    (adb : Adb) (s : Session) (h : Host) :
    (execute adb s >>= fun (id, reply) => work id reply).perform h =
      (((execute adb s).perform h).1.bind fun (id, reply) => judge id reply, ((execute adb s).perform h).2) :=
  Action.perform_bind_judged (fun pair : Int × String => judge pair.1 pair.2) (fun pair => judges pair.1 pair.2) h

/-- The steps have an outcome exactly if the commit is answered, and it is the id with that answer. -/
theorem execute_eq_ok : ((execute adb s).perform h).1 = .ok (id, reply) ↔ s.Answered adb h id reply := by
  obtain ⟨agreed, agrees⟩ := exists_agreed_id adb s h
  obtain ⟨sent, takes, -⟩ := session_judged (fun found answer => found = id ∧ answer = reply)
    (fun found answer => Action.ofResult (demand id reply found answer)) (demand id reply)
    (fun _ _ _ => rfl) demand_isOk agrees
  have ended := takes.ended_iff
  have outcome : ((execute adb s >>= fun (found, answer) =>
      Action.ofResult (demand id reply found answer)).perform h).1.isOk = true ↔
        ((execute adb s).perform h).1 = .ok (id, reply) := by
    rw [perform_judged (fun found answer => Action.ofResult (demand id reply found answer)) (demand id reply)
      (fun _ _ _ => rfl)]
    cases ((execute adb s).perform h).1 with
    | error e => exact iff_of_false Bool.false_ne_true nofun
    | ok pair =>
      obtain ⟨found, answer⟩ := pair
      dsimp only [Except.bind]
      rw [← demand_isOk]
      simp
  rw [← outcome, ended]
  constructor
  · intro all
    obtain ⟨before, request, ⟨-, c, -, answer, -, ⟨same, -⟩⟩, -⟩ := all.later
    subst same
    simpa [Answered, answeredStep] using all
  · intro answered
    obtain ⟨request, passes⟩ := answered.created
    obtain rfl := agrees id request passes
    simpa [Answered, answeredStep] using answered

theorem execute_leaves (adb : Adb) (s : Session) (h : Host) :
    ∃ sent, ((execute adb s).perform h).2 = adb.after h sent := by
  obtain ⟨agreed, agrees⟩ := exists_agreed_id adb s h
  obtain ⟨sent, -, left⟩ := session_judged (fun _ _ => True) (fun _ _ => pure ()) (fun _ _ => .ok ())
    (fun _ _ _ => rfl) (fun _ _ => iff_of_true trivial rfl) agrees
  rw [perform_judged (fun _ _ => pure ()) (fun _ _ => .ok ()) (fun _ _ _ => rfl)] at left
  exact ⟨sent, left⟩

/-- Both judge what the steps answered, and do nothing else. -/
theorem perform_run (adb : Adb) (s : Session) (h : Host) :
    (s.run adb).perform h =
      (((execute adb s).perform h).1.bind fun (id, reply) =>
        (Reply.expectSuccess (commitCommand id) reply).map fun _ => id, ((execute adb s).perform h).2) :=
  perform_judged _ _ (fun id reply left => perform_expectSuccess (commitCommand id) reply id left) adb s h

theorem perform_runExpectingFailure (adb : Adb) (s : Session) (h : Host) :
    (s.runExpectingFailure adb).perform h =
      (((execute adb s).perform h).1.bind fun (id, reply) => Reply.expectFailure (commitCommand id) reply,
        ((execute adb s).perform h).2) :=
  perform_judged (fun id reply => Action.ofResult (Reply.expectFailure (commitCommand id) reply)) _ (fun _ _ _ => rfl)
    adb s h

/-- Whatever the device answers, both send the same requests. Without an answer to the commit they fail alike.
With one the install succeeds exactly if the answer starts with `Success`, and the other exactly if it does not. -/
theorem runs_agree_until_answer (adb : Adb) (s : Session) (h : Host) :
    let wanted := (s.run adb).perform h
    let refused := (s.runExpectingFailure adb).perform h
    (∃ sent, wanted.2 = adb.after h sent ∧ refused.2 = adb.after h sent) ∧
    ((¬ ∃ id reply, s.Answered adb h id reply) → ∃ e, wanted.1 = .error e ∧ refused.1 = .error e) ∧
    ∀ id reply, s.Answered adb h id reply →
      (Reply.succeeded reply = true → wanted.1 = .ok id ∧ ∃ text, refused.1 = .error (.assertion text)) ∧
      (Reply.succeeded reply = false → refused.1 = .ok reply ∧ ∃ text, wanted.1 = .error (.assertion text)) := by
  intro wanted refused
  have ran : wanted = _ := perform_run adb s h
  have expected : refused = _ := perform_runExpectingFailure adb s h
  rw [ran, expected]
  refine ⟨?_, ?_, ?_⟩
  · obtain ⟨sent, left⟩ := execute_leaves adb s h
    exact ⟨sent, left, left⟩
  · intro unanswered
    cases outcome : ((execute adb s).perform h).1 with
    | error e => exact ⟨e, rfl, rfl⟩
    | ok pair => exact absurd ⟨pair.1, pair.2, execute_eq_ok.mp outcome⟩ unanswered
  · intro id reply answered
    rw [execute_eq_ok.mpr answered]
    dsimp only [Except.bind]
    unfold Reply.expectSuccess Reply.expectFailure
    constructor
    · intro success
      rw [if_pos success, if_pos success]
      exact ⟨rfl, _, rfl⟩
    · intro failure
      rw [if_neg (by simp [failure]), if_neg (by simp [failure])]
      exact ⟨rfl, _, rfl⟩

end DeviceHarness.Install.Session
