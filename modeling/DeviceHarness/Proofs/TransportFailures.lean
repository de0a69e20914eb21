import DeviceHarness.Checkin.Fetch
import DeviceHarness.Device
import DeviceHarness.Install.Session
import DeviceHarness.Instrumentation.Execution
import DeviceHarness.Proofs.AdbTraffic
import DeviceHarness.Users

/-! A shell command whose connection fails. Its failure is the outcome of the work that sent it, and nothing
is sent after it, in a poll as little as between two steps: what the device would have answered is never
guessed from what the client printed. -/

namespace DeviceHarness

/-- What the client reports is about the device as a whole. -/
theorem Adb.connectionError?_kind {err : String} {e : Error} (report : connectionError? err = some e) :
    e = .noDevice ∨ (∃ serial, e = .deviceNotFound serial) ∨ ∃ text, e = .device text := by
  unfold connectionError? at report
  split at report
  · exact .inl (Option.some.inj report).symm
  · split at report
    next serial _ => exact .inr (.inl ⟨_, (Option.some.inj report).symm⟩)
    next =>
      obtain ⟨text, -, rfl⟩ := Option.map_eq_some_iff.mp report
      exact .inr (.inr ⟨text, rfl⟩)

theorem Completion.TransportFailure.kind {c : Completion} {command : String} {e : Error}
    (failure : c.TransportFailure command e) :
    e = .noDevice ∨ (∃ serial, e = .deviceNotFound serial) ∨ (∃ text, e = .device text) ∨
      ∃ text, e = .command c.status text := by
  cases failure with
  | reported report =>
    rcases Adb.connectionError?_kind report with none | missing | broken
    · exact .inl none
    · exact .inr (.inl missing)
    · exact .inr (.inr (.inl broken))
  | silent => exact .inr (.inr (.inr ⟨_, rfl⟩))

namespace Adb

/-- A transport failure of a shell command is the failure of the work, and no request follows it. -/
def Relaying (adb : Adb) : Rule := fun h sent failure =>
  ∀ before command later c e, sent = before ++ ["shell", command] :: later →
    adb.reply (adb.after h before) ["shell", command] = .ok c → c.TransportFailure command e →
      failure = some e ∧ later = []

variable {adb : Adb}

instance : adb.Composes adb.Relaying where
  nothing := by
    intro h failure before command later c e split
    simp at split
  onward := by
    intro h left sent more failure went held heldOn before command later c e split completed failed
    rcases append_eq_append_cons.mp split with ⟨between, rfl, rfl⟩ | ⟨between, rfl, rfl⟩
    · -- The work would have stopped there.
      cases (held before command between c e rfl completed failed).1
    · rw [← went.reply_after] at completed
      exact heldOn between command later c e rfl completed failed

/-- Work relays the transport failures of its shell commands. -/
abbrev Relays (adb : Adb) {σ α : Type} (host : σ → Host) (work : Action σ α) : Prop :=
  adb.Keeps adb.Relaying host work

section Relays

variable (adb)

theorem shellText_relays (command : String) : adb.Relays id (adb.shellText command) := by
  refine .shellText ?_
  intro h c completed before other later d e split again failed
  cases before with
  | cons first rest => simp at split
  | nil =>
    obtain ⟨same, rfl⟩ := List.cons.inj split
    obtain rfl : command = other := by simpa using same
    rw [after_nil, completed] at again
    obtain rfl := Except.ok.inj again
    rw [Completion.answer_eq_error.mpr failed]
    exact ⟨rfl, rfl⟩

/-- A request that is no shell command has no transport failure to relay. -/
theorem request_relays {request : List String} (other : ∀ command, request ≠ ["shell", command]) :
    adb.Relays id (adb.request request) := by
  refine .request ?_
  intro h c completed before command later d e split
  cases before with
  | cons first rest => simp at split
  | nil => exact absurd (List.cons.inj split).1 (other command)

/-- Work that only judges the reply to a command relays its failure. -/
theorem judging_relays {α : Type} (command : String) (judge : String → Except Error α) :
    adb.Relays id (do Action.ofResult (judge (← adb.shellText command)) : Action Host α) :=
  .bind (adb.shellText_relays command) fun _ => .ofResult _

end Relays
end Adb

open Adb

/-! Programs that talk to the device. -/

theorem Checkin.fetchAndVerify_relays (adb : Adb) (format : Format) :
    adb.Relays id (fetchAndVerify adb format) :=
  adb.judging_relays format.command (verify format)

theorem Device.features_relays (adb : Adb) : adb.Relays id (features adb) :=
  adb.judging_relays _ Reply.features

theorem Device.hasFeatures_relays (adb : Adb) (required : List String) : adb.Relays id (hasFeatures adb required) :=
  .bind (features_relays adb) fun _ => .pure _

theorem Instrumentation.Command.run_relays (adb : Adb) (c : Command) : adb.Relays id (c.run adb) :=
  .bind (adb.shellText_relays c.line) fun _ => .pure _

namespace Install

variable (adb : Adb)

theorem isInstalled_relays (package : String) : adb.Relays id (isInstalled adb package) :=
  .bind (adb.shellText_relays _) fun _ => .pure _

theorem uninstall_relays (package : String) : adb.Relays id (uninstall adb package) := by
  refine .bind (isInstalled_relays adb package) fun there => ?_
  cases there with
  | false => exact .pure ()
  | true => exact .bind (adb.request_relays (by simp)) fun _ => .ofResult _

theorem pushFile_relays (file remote : String) : adb.Relays id (pushFile adb file remote) := by
  refine .bind (adb.request_relays (by simp)) fun completion => ?_
  split
  · exact .pure ()
  · exact .throw _

namespace Session

theorem create_relays (s : Session) : adb.Relays id (create adb s) :=
  .bind (adb.shellText_relays _) fun _ => .bind (.ofResult _) fun _ => .ofResult _

theorem write_relays (session : Int) (index : Nat) (apk : String) : adb.Relays id (write adb session index apk) := by
  refine .bind (.ofResult _) fun name => ?_
  refine .bind (pushFile_relays adb _ _) fun _ => ?_
  refine .bind (adb.shellText_relays _) fun _ => ?_
  exact .bind (.ofResult _) fun _ => .pure _

theorem writeFrom_relays (session : Int) (index : Nat) (apks : List String) :
    adb.Relays id (writeFrom adb session index apks) := by
  induction apks generalizing index with
  | nil => exact .pure ()
  | cons apk rest ih => exact .bind (write_relays adb session index apk) fun _ => ih (index + 1)

theorem execute_relays (s : Session) : adb.Relays id (execute adb s) := by
  refine .bind (create_relays adb s) fun session => ?_
  refine .bind (writeFrom_relays adb session 0 s.apks) fun _ => ?_
  exact .bind (adb.shellText_relays _) fun _ => .pure _

theorem run_relays (s : Session) : adb.Relays id (s.run adb) :=
  .bind (execute_relays adb s) fun _ => .bind (.ofResult _) fun _ => .pure _

theorem runExpectingFailure_relays (s : Session) : adb.Relays id (s.runExpectingFailure adb) :=
  .bind (execute_relays adb s) fun _ => .ofResult _

end Session
end Install

namespace UserManager

variable (m : UserManager)

theorem list_relays : m.adb.Relays id m.list := m.adb.judging_relays _ Reply.userList

theorem waitUntil_relays (what : String) (holds : List Reply.User → Bool) :
    m.adb.Relays id (m.waitUntil what holds) :=
  .pollUntil m.wait what (.bind m.list_relays fun _ => .pure _)

theorem start_relays (user : Int) : m.adb.Relays id (m.start user) := by
  refine .bind (m.adb.shellText_relays _) fun reply => ?_
  split
  · exact m.waitUntil_relays _ _
  · exact .throw _

theorem setProfileOwner_relays (component : String) (user : Int) :
    m.adb.Relays id (m.setProfileOwner component user) := by
  refine .bind (m.adb.shellText_relays _) fun reply => ?_
  split
  · exact .pure ()
  · exact .throw _

theorem createBy_relays (command : Duration → String) : m.adb.Relays UserWork.host (m.createBy command) := by
  have clock : m.adb.Relays id Host.now := .still fun _ => rfl
  refine .bind (clock.within fun _ _ => rfl) fun moment => ?_
  refine .bind ((m.adb.shellText_relays _).within fun _ _ => rfl) fun reply => ?_
  refine .bind (.ofResult _) fun user => ?_
  refine .bind (.still fun _ => rfl) fun _ => ?_
  refine .bind ((m.waitUntil_relays _ _).within fun _ _ => rfl) fun _ => ?_
  exact .pure user

end UserManager

/-- Whatever the device answers, the transport failure of a shell command is the outcome of the work that sent
it, and the work sends nothing more. Such a failure is about the connection or the command: it is neither an
assertion nor a complaint about the form of a reply. -/
theorem transport_failure_is_outcome (adb : Adb) (m : UserManager) :
    (∀ format, adb.Relays id (Checkin.fetchAndVerify adb format)) ∧
    (∀ s : Install.Session, adb.Relays id (s.run adb) ∧ adb.Relays id (s.runExpectingFailure adb)) ∧
    (∀ package, adb.Relays id (Install.isInstalled adb package) ∧ adb.Relays id (Install.uninstall adb package)) ∧
    adb.Relays id (Device.features adb) ∧ (∀ required, adb.Relays id (Device.hasFeatures adb required)) ∧
    (∀ c : Instrumentation.Command, adb.Relays id (c.run adb)) ∧
    m.adb.Relays id m.list ∧ m.adb.Relays id m.maximum ∧
    m.adb.Relays UserWork.host m.create ∧ (∀ parent, m.adb.Relays UserWork.host (m.createProfile parent)) ∧
    (∀ user, m.adb.Relays id (m.start user) ∧ m.adb.Relays id (m.serialNumber user)) ∧
    (∀ component user, m.adb.Relays id (m.setProfileOwner component user)) ∧
    ∀ (c : Completion) (command : String) (e : Error), c.TransportFailure command e →
      e.isAssertion = false ∧ ∀ text, e ≠ .harness text := by
  refine ⟨Checkin.fetchAndVerify_relays adb, ?_, ?_, Device.features_relays adb, Device.hasFeatures_relays adb,
    Instrumentation.Command.run_relays adb, m.list_relays, m.adb.judging_relays _ Reply.maxUsers,
    m.createBy_relays _, fun _ => m.createBy_relays _, ?_, m.setProfileOwner_relays, ?_⟩
  · exact fun s => ⟨Install.Session.run_relays adb s, Install.Session.runExpectingFailure_relays adb s⟩
  · exact fun package => ⟨Install.isInstalled_relays adb package, Install.uninstall_relays adb package⟩
  · exact fun user => ⟨m.start_relays user, m.adb.judging_relays _ (Reply.userSerial · user)⟩
  · intro c command e failed
    rcases failed.kind with rfl | ⟨_, rfl⟩ | ⟨_, rfl⟩ | ⟨_, rfl⟩ <;> exact ⟨rfl, nofun⟩

end DeviceHarness
