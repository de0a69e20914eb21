import DeviceHarness.Proofs.AsideCalls
import DeviceHarness.Proofs.SuiteRounds
import DeviceHarness.Suite.LauncherMultiUser

/-! The secondary users of the suite for launchers. Whatever fails in whichever test, the removal of a user that a
set-up created has been asked for when the tear-down after it is over, and a device test is told the user of its own
set-up. A set-up creates one user at most, and all that it does before and after that is aside. -/

namespace DeviceHarness

open Invocation (Aside)

/-! The parts of a test. -/

namespace LauncherMultiUser

variable (rig : Rig) {α : Type}

/-- All calls are aside, no user is remembered that was not before, and the device is still believed to hold as
many users. -/
structure Quiet (s left : Station Memory) : Prop where
  calls : s.bench.host.Calls Aside left.bench.host
  created : left.memory.created ⊆ s.memory.created
  multiUser : left.memory.multiUser = s.memory.multiUser

instance : Std.Refl Quiet := ⟨fun _ => ⟨.refl, List.Subset.refl _, rfl⟩⟩

instance : IsTrans (Station Memory) Quiet where
  trans _ _ _ first rest :=
    ⟨first.calls.trans rest.calls, List.Subset.trans rest.created first.created, rest.multiUser.trans first.multiUser⟩

theorem onBench_quiet {work : Action Bench α} (aside : Bench.StaysAside work) :
    Action.Leads Quiet (Station.onBench work) := aside.within fun _ _ calls => ⟨calls, List.Subset.refl _, rfl⟩

theorem onHost_quiet {work : Action Host α} (aside : Host.StaysAside work) : Action.Leads Quiet (Station.onHost work) :=
  onBench_quiet (Bench.onHost_calls aside)

theorem onUsers_quiet {work : Action UserWork α} (forgets : Action.Leads UserWork.Forgets work) :
    Action.Leads Quiet (onUsers work) := forgets.within fun _ _ left => ⟨left.calls, left.created, rfl⟩

theorem perform_onUsers (work : Action UserWork α) (s : Station Memory) :
    (onUsers work).perform s =
      let (result, left) := work.perform ⟨s.bench.host, s.memory.created⟩
      (result, ⟨{ s.bench with host := left.host }, { s.memory with created := left.created }⟩) := rfl

theorem perform_remembered {next : Memory → Work α} (s : Station Memory) :
    (Station.remembered >>= next).perform s = (next s.memory).perform s := rfl

theorem uninstallApps_aside : Host.StaysAside (uninstallApps rig) :=
  .bind (Adb.uninstall_aside _) fun _ => .bind (Adb.uninstall_aside _) fun _ => Adb.uninstall_aside _

theorem installApps_aside : Bench.StaysAside (installApps rig) :=
  .bind (Bench.onHost_calls (uninstallApps_aside rig)) fun _ => .bind Bench.find_aside fun apps =>
    .bind (Bench.installApp_aside rig apps _) fun _ => Bench.installApp_aside rig apps _

theorem supported_aside : Bench.StaysAside (supported rig) := by
  refine .bind (Bench.onHost_calls (users rig).supportsMultiple_aside) fun several => ?_
  split
  · exact Bench.apiLevel_aside.bind fun _ => .pure _
  · exact .pure _

/-- What a set-up does between finding out about users and adding one. -/
def furnish (multiUser : Bool) : Work Unit := do
  let hasLiveTv ← Station.onHost (Device.hasFeatures rig.adb [liveTvFeature])
  Station.remember fun memory => { memory with liveTv := hasLiveTv }
  if multiUser then
    onUsers (users rig).removeAllSecondary
    Station.onBench (installApps rig)

theorem furnish_quiet (multiUser : Bool) : Action.Leads Quiet (furnish rig multiUser) := by
  refine .bind (onHost_quiet (Adb.features_aside _)) fun hasLiveTv => ?_
  refine .bind (fun s => ⟨.refl, List.Subset.refl _, rfl⟩) fun _ => ?_
  split
  · exact .bind (onUsers_quiet (users rig).removeAllSecondary_forgets) fun _ => onBench_quiet (installApps_aside rig)
  · exact .pure ()

theorem setUp_eq : setUp rig = (do
    let multiUser ← Station.onBench (supported rig)
    Station.remember fun memory => { memory with multiUser := multiUser }
    furnish rig multiUser
    if multiUser then addUser rig) := by
  unfold setUp furnish
  congr 1
  funext multiUser
  cases multiUser <;> simp

/-- What follows the creation of the secondary user. -/
def greet (user : Int) : Work Unit := do
  let serial ← Station.onHost ((users rig).serialNumber user)
  Station.remember fun memory => { memory with serial := some serial }
  Station.onHost ((users rig).start user)

theorem users_adb : (users rig).adb = rig.adb := rfl

theorem addUser_eq : addUser rig = onUsers (users rig).create >>= greet rig := rfl

/-- Greeting a user is aside. Where it works, the serial number of the user is read first, and remembered. -/
structure Greeted (user : Int) (s : Station Memory) (calls : List Invocation) (result : Except Error Unit)
    (left : Station Memory) : Prop where
  called : s.bench.host.Called calls left.bench.host
  aside : ∀ call ∈ calls, call.Aside
  created : left.memory.created = s.memory.created
  multiUser : left.memory.multiUser = s.memory.multiUser
  serial : result = .ok () → ∃ dump later serial, calls = dump :: later ∧
    s.bench.host.SerialReading [] dump user serial ∧ left.memory.serial = some serial

theorem greet_greeted (user : Int) (s : Station Memory) :
    ∃ calls, Greeted user s calls ((greet rig user).perform s).1 ((greet rig user).perform s).2 := by
  let h := s.bench.host
  let dump := rig.adb.invocation h ["shell", Users.dumpCommand]
  have asideDump : dump.Aside := Adb.aside_shell (by decide) (by decide)
  have reads : (Station.onHost ((users rig).serialNumber user) : Work Int).perform s =
      ((((users rig).serialNumber user).perform h).1,
        { s with bench := { s.bench with host := (((users rig).serialNumber user).perform h).2 } }) := rfl
  rw [greet, Action.perform_bind, reads, UserManager.perform_serialNumber, users_adb]
  cases completed : rig.adb.reply h ["shell", Users.dumpCommand] with
  | error e => exact ⟨[], .refl, by simp, rfl, rfl, nofun⟩
  | ok c =>
    let asked := rig.adb.after h [["shell", Users.dumpCommand]]
    have called : h.Called [dump] asked := rfl
    dsimp only
    cases answer : c.answer Users.dumpCommand with
    | error e => exact ⟨[dump], called, by simpa using asideDump, rfl, rfl, nofun⟩
    | ok text =>
      dsimp only [bind, Except.bind]
      cases read : Reply.userSerial text user with
      | error e => exact ⟨[dump], called, by simpa using asideDump, rfl, rfl, nofun⟩
      | ok serial =>
        obtain ⟨later, started, aside⟩ := (users rig).start_aside user asked
        have tells : dump.Tells Users.dumpCommand := Adb.shell_tells.mpr rfl
        have prints : (h.respond (h.history ++ []) dump).Prints text := by
          rw [List.append_nil, ← Adb.reply_eq_respond completed]
          exact Completion.answer_eq_ok.mp answer
        exact ⟨dump :: later, called.trans started, List.forall_mem_cons.mpr ⟨asideDump, aside⟩, rfl, rfl,
          fun _ => ⟨dump, later, serial, rfl, ⟨tells, text, prints, read⟩, rfl⟩⟩

/-- The calls had the device create a user, and no other, and then say its serial number. -/
def NamesUser (h : Host) (calls : List Invocation) (serial : Int) : Prop :=
  ∃ before creation between dump later user, calls = before ++ creation :: (between ++ dump :: later) ∧
    h.Creation before creation user ∧ h.SerialReading (before ++ creation :: between) dump user serial ∧
    ∀ call ∈ before ++ (between ++ dump :: later), ¬ call.CreatesUser

/-- What a set-up has done by its end that began where no user was remembered. -/
structure Prepared (h : Host) (calls : List Invocation) (result : Except Error Unit)
    (left : Station Memory) : Prop where
  called : h.Called calls left.bench.host
  noTests : ∀ call ∈ calls, ¬ call.Instruments
  created : ∀ before call later user, calls = before ++ call :: later → h.Creation before call user →
    user ∈ left.memory.created
  removable : UserWork.Removable rig.adb ⟨left.bench.host, left.memory.created⟩
  multiUser : left.memory.created ≠ [] → left.memory.multiUser = true
  serial : result = .ok () → left.memory.multiUser = true →
    ∃ serial, left.memory.serial = some serial ∧ NamesUser h calls serial

variable {rig} {h mid : Host} {calls more : List Invocation} {result : Except Error Unit} {left : Station Memory}

theorem Prepared.quiet (called : h.Called calls left.bench.host) (aside : ∀ call ∈ calls, call.Aside)
    (created : left.memory.created = []) (single : result = .ok () → left.memory.multiUser = false) :
    Prepared rig h calls result left where
  called := called
  noTests call member := (aside call member).2
  created := by
    rintro before call later user rfl creation
    exact absurd creation.1 (aside call (by simp)).1
  removable := by
    rw [created]
    intro user member
    cases member
  multiUser remembered := absurd created remembered
  serial worked several := by
    rw [single worked] at several
    cases several

theorem NamesUser.after (first : h.Called calls mid) (aside : ∀ call ∈ calls, call.Aside) {serial : Int}
    (names : NamesUser mid more serial) : NamesUser h (calls ++ more) serial := by
  obtain ⟨before, creation, between, dump, later, user, rfl, creates, reads, only⟩ := names
  refine ⟨calls ++ before, creation, between, dump, later, user, by simp, first.creation_iff.mp creates, ?_, ?_⟩
  · rw [List.append_assoc]
    exact first.serialReading_iff.mp reads
  · rw [List.append_assoc]
    exact List.forall_mem_append.mpr ⟨fun call member => (aside call member).1, only⟩

theorem Prepared.after (first : h.Called calls mid) (aside : ∀ call ∈ calls, call.Aside)
    (rest : Prepared rig mid more result left) : Prepared rig h (calls ++ more) result left where
  called := first.trans rest.called
  noTests := List.forall_mem_append.mpr ⟨fun call member => (aside call member).2, rest.noTests⟩
  created := by
    intro before call later user split creation
    -- The creation is not among the first calls, which are all aside.
    rcases Adb.append_eq_append_cons.mp split with ⟨between, rfl, rfl⟩ | ⟨between, rfl, rfl⟩
    · exact absurd creation.1 (aside call (by simp)).1
    · exact rest.created between call later user rfl (first.creation_iff.mpr creation)
  removable := rest.removable
  multiUser := rest.multiUser
  serial worked several := by
    obtain ⟨serial, known, names⟩ := rest.serial worked several
    exact ⟨serial, known, names.after first aside⟩

/-- A request to create a user, after which all calls are aside. -/
theorem Prepared.creation {command : String} {c : Completion} {later : List Invocation}
    (starts : Text.startsWith "pm create-user " command = true)
    (completed : rig.adb.reply h ["shell", command] = .ok c)
    (called : h.Called (rig.adb.invocation h ["shell", command] :: later) left.bench.host)
    (aside : ∀ call ∈ later, call.Aside)
    (created : left.memory.created = (UserManager.named command c).toOption.toList)
    (multiUser : left.memory.multiUser = true)
    (serial : result = .ok () → ∃ serial, left.memory.serial = some serial ∧
      NamesUser h (rig.adb.invocation h ["shell", command] :: later) serial) :
    Prepared rig h (rig.adb.invocation h ["shell", command] :: later) result left where
  called := called
  noTests call member := by
    rcases List.mem_cons.mp member with rfl | member
    · rintro ⟨other, tells, instruments⟩
      rw [← Adb.shell_tells.mp tells, Text.not_startsWith starts (by decide) (by decide)] at instruments
      cases instruments
    · exact (aside call member).2
  created := by
    intro before call rest user split creation
    cases before with
    | cons first before =>
      obtain ⟨rfl, rfl⟩ := List.cons.inj split
      exact absurd creation.1 (aside call (by simp)).1
    | nil =>
      obtain ⟨rfl, rfl⟩ := List.cons.inj split
      rw [created, (UserManager.creation_iff_named starts completed).mp creation]
      exact List.mem_singleton.mpr rfl
  removable := by
    intro user member
    have named : UserManager.named command c = .ok user := by
      rw [created] at member
      cases naming : UserManager.named command c with
      | error e =>
        rw [naming] at member
        cases member
      | ok other =>
        rw [naming] at member
        rw [List.mem_singleton.mp member]
    obtain ⟨-, -, reply, -, -, -, -, read⟩ := (UserManager.creates_iff_named starts completed).mpr named
    -- The creation was answered, so adb can be run; and the number is short enough for an argument.
    have fits := Integer.natAbs_of_fits (Reply.createdUserId_fits read)
    have sendable : ∃ d, rig.adb.reply (rig.adb.after h []) (Adb.removal user) = .ok d :=
      rig.adb.reply_numbered h completed [] (by decide) (by decide) (Nat.lt_of_le_of_lt fits (by decide))
    rw [Adb.after_nil] at sendable
    exact (Adb.sendable_called called _).mpr sendable
  multiUser _ := multiUser
  serial worked _ := serial worked

variable (rig)

theorem addUser_prepared (s : Station Memory) (none : s.memory.created = [])
    (several : s.memory.multiUser = true) :
    ∃ calls, Prepared rig s.bench.host calls ((addUser rig).perform s).1 ((addUser rig).perform s).2 := by
  rw [addUser_eq, Action.perform_bind, perform_onUsers]
  rcases (users rig).create_cases ⟨s.bench.host, s.memory.created⟩ none with
    ⟨e, left, failed, called, forgotten⟩ |
    ⟨command, c, later, result, left, done, starts, completed, called, aside, created, named⟩
  · rw [failed]
    exact ⟨[], .quiet called (by simp) forgotten nofun⟩
  · rw [done]
    cases result with
    | error e => exact ⟨_, .creation starts completed called aside created several nofun⟩
    | ok user =>
      dsimp only
      obtain ⟨more, greeted⟩ := greet_greeted rig user
        ⟨{ s.bench with host := left.host }, { s.memory with created := left.created }⟩
      have asideOn := List.forall_mem_append.mpr ⟨aside, greeted.aside⟩
      refine ⟨_, .creation starts completed (called.trans greeted.called) asideOn (greeted.created.trans created)
        (greeted.multiUser.trans several) ?_⟩
      intro worked
      obtain ⟨dump, rest, serial, rfl, reading, known⟩ := greeted.serial worked
      refine ⟨serial, known, [], _, later, dump, rest, user, rfl, ?_, ?_, ?_⟩
      · exact (UserManager.creation_iff_named starts completed).mpr (named user rfl)
      · have readOn := called.serialReading_iff.mp reading
        rwa [List.append_nil] at readOn
      · rw [List.nil_append]
        intro call member
        exact (asideOn call member).1

/-- A set-up that begins where no user is remembered. -/
theorem setUp_prepared (s : Station Memory) (none : s.memory.created = []) :
    ∃ calls, Prepared rig s.bench.host calls ((setUp rig).perform s).1 ((setUp rig).perform s).2 := by
  -- A set-up that fails before it adds a user has only made calls that are aside.
  have first := onBench_quiet (supported_aside rig) s
  rw [setUp_eq, Action.perform_bind]
  generalize (Station.onBench (supported rig)).perform s = outcome at *
  obtain ⟨result, found⟩ := outcome
  obtain ⟨calls, called, aside⟩ := first.calls
  have forgotten : found.memory.created = [] := List.subset_nil.mp (none ▸ first.created)
  cases result with
  | error e => exact ⟨calls, .quiet called aside forgotten nofun⟩
  | ok multiUser =>
    dsimp only
    let noted : Station Memory := { found with memory := { found.memory with multiUser := multiUser } }
    have furnished := furnish_quiet rig multiUser noted
    rw [Action.perform_bind]
    show ∃ calls, Prepared rig _ calls ((furnish rig multiUser >>= fun _ => _ : Work Unit).perform noted).1
      ((furnish rig multiUser >>= fun _ => _ : Work Unit).perform noted).2
    rw [Action.perform_bind]
    generalize (furnish rig multiUser).perform noted = outcome at *
    obtain ⟨result, ready⟩ := outcome
    obtain ⟨more, calledOn, asideOn⟩ := furnished.calls
    have still : ready.memory.created = [] := List.subset_nil.mp (forgotten ▸ furnished.created)
    have wentOn : s.bench.host.Called (calls ++ more) ready.bench.host := called.trans calledOn
    have asideAll : ∀ call ∈ calls ++ more, call.Aside := List.forall_mem_append.mpr ⟨aside, asideOn⟩
    cases result with
    | error e => exact ⟨_, .quiet wentOn asideAll still nofun⟩
    | ok _ =>
      cases multiUser with
      | false => exact ⟨_, .quiet wentOn asideAll still fun _ => furnished.multiUser⟩
      | true =>
        obtain ⟨last, prepared⟩ := addUser_prepared rig ready still furnished.multiUser
        exact ⟨_, prepared.after wentOn asideAll⟩

/-! The test itself. -/

theorem command_line (method : String) (serial : Int) :
    ∃ rest, (command rig method serial).line =
      "am instrument --user 0 -e testUser " ++ Integer.text serial ++ " -w" ++ rest := by
  have user : "am instrument" ++ (" --user " ++ Integer.text Users.owner) ++ " -e testUser " =
      "am instrument --user 0 -e testUser " := by decide +kernel
  have flags : " -w -r" = " -w" ++ " -r" := by decide
  have param : String.join [" " ++ ("-e testUser " ++ Integer.text serial)] =
      " -e testUser " ++ Integer.text serial := by
    rw [String.join, List.foldl, List.foldl, ← String.append_assoc]
    rfl
  refine ⟨" -r" ++ (" -e class " ++ (testClass ++ "#" ++ method)) ++ " " ++ testPackage ++ "/" ++
    rig.settings.runner, ?_⟩
  show "am instrument" ++ (" --user " ++ Integer.text Users.owner) ++
    String.join [" " ++ ("-e testUser " ++ Integer.text serial)] ++ " -w -r" ++
    (" -e class " ++ (testClass ++ "#" ++ method)) ++ " " ++ testPackage ++ "/" ++ rig.settings.runner = _
  rw [param, ← user, flags]
  simp only [String.append_assoc]

/-- The memory is as before, and the only calls that are not aside run tests with the serial number in it. -/
structure Tests (s left : Station Memory) : Prop where
  memory : left.memory = s.memory
  calls : s.bench.host.Calls (fun call => call.Aside ∨
    ∃ method serial, s.memory.serial = some serial ∧ call.Tells (command rig method serial).line) left.bench.host

instance : Std.Refl (Tests rig) := ⟨fun _ => ⟨rfl, .refl⟩⟩

instance : IsTrans (Station Memory) (Tests rig) where
  trans _ _ _ first rest := by
    have onward := rest.calls
    rw [first.memory] at onward
    exact ⟨rest.memory.trans first.memory, first.calls.trans onward⟩

/-- A device test that is told a serial number, while the simple app is installed. -/
def testUser (method : String) (serial : Int) : Action Bench Verdict := do
  let apps ← TestApps.find
  rig.installApp apps simpleApk
  let result ← (Bench.onHost ((command rig method serial).runExpectingPass rig.adb)).outcome
  let _ ← (Bench.onHost (rig.uninstall simplePackage)).outcome
  let _ ← Action.ofResult result
  return .passed

theorem perform_runAgainstUser (method : String) (s : Station Memory) :
    (runAgainstUser rig method).perform s = match s.memory.serial with
      | none => (.error (.harness "no secondary user"), s)
      | some serial => (Station.onBench (testUser rig method serial)).perform s := by
  rw [runAgainstUser, perform_remembered]
  cases s.memory.serial <;> rfl

theorem testUser_calls (method : String) (serial : Int) :
    Action.Leads (Bench.Calls fun call => call.Aside ∨ call.Tells (command rig method serial).line)
      (testUser rig method serial) := by
  have also {b left : Bench} (aside : Bench.Calls Aside b left) :
      Bench.Calls (fun call => call.Aside ∨ call.Tells (command rig method serial).line) b left :=
    Host.Calls.mono aside fun _ => .inl
  have told : Action.Leads (Host.Calls fun call => call.Aside ∨ call.Tells (command rig method serial).line)
      ((command rig method serial).runExpectingPass rig.adb) := by
    have line : Action.Leads (Host.Calls fun call => call.Aside ∨ call.Tells (command rig method serial).line)
        (rig.adb.shellText (command rig method serial).line) :=
      (Adb.shellText_only fun h => .inr (Adb.shell_tells.mpr rfl)).leads_calls
    exact .bind (.bind line fun _ => .pure _) fun _ => .ofResult _
  refine .bind (Bench.find_aside.mono fun _ _ => also) fun apps => ?_
  refine .bind ((Bench.installApp_aside rig apps _).mono fun _ _ => also) fun _ => ?_
  refine .bind (Bench.onHost_calls told).outcome fun result => ?_
  refine .bind ((Bench.onHost_calls (Adb.uninstall_aside _)).outcome.mono fun _ _ => also) fun _ => ?_
  exact .bind (.ofResult _) fun _ => .pure _

theorem runAgainstUser_tests (method : String) : Action.Leads (Tests rig) (runAgainstUser rig method) := by
  intro s
  rw [perform_runAgainstUser]
  cases known : s.memory.serial with
  | none => exact refl s
  | some serial =>
    refine ⟨rfl, Host.Calls.mono (testUser_calls rig method serial s.bench) ?_⟩
    rintro call (aside | tells)
    · exact .inl aside
    · exact .inr ⟨method, serial, known, tells⟩

theorem startService_aside : Host.StaysAside (startService rig) := by
  have service : ∀ h, (rig.adb.invocation h ["shell", serviceCommand]).Aside := by
    intro h
    unfold serviceCommand
    simp only [String.append_assoc]
    exact Adb.aside_command (by decide) _
  exact .bind (Adb.shellText_aside service) fun _ h => .passed _

/-- A test that is skipped does nothing. -/
theorem runTest_tests (test : String) (s : Station Memory) :
    let left := ((runTest rig test).perform s).2
    Tests rig s left ∧ (s.memory.multiUser = false → left = s) := by
  have service : Action.Leads (Tests rig) (Station.onHost (startService rig)) :=
    (Bench.onHost_calls (startService_aside rig)).within fun _ _ made => ⟨rfl, Host.Calls.mono made fun _ => .inl⟩
  have still : Tests rig s s ∧ (s.memory.multiUser = false → s = s) := ⟨refl s, fun _ => rfl⟩
  unfold runTest
  split
  · exact still
  · rw [perform_remembered]
    dsimp only
    cases skipped : s.memory.skipReason? with
    | some reason => exact still
    | none =>
      constructor
      · dsimp only
        split
        · exact runAgainstUser_tests rig _ s
        · exact (service.bind fun _ => runAgainstUser_tests rig _) s
      · intro single
        simp [Memory.skipReason?, single] at skipped

/-! Tearing down. -/

/-- All remembered users are forgotten, and the removal of each was among the calls. -/
theorem tearDown_removes (s : Station Memory)
    (removable : UserWork.Removable rig.adb ⟨s.bench.host, s.memory.created⟩)
    (several : s.memory.created ≠ [] → s.memory.multiUser = true) :
    let left := ((tearDown rig).perform s).2
    left.memory.created = [] ∧
      ∃ calls, s.bench.host.Called calls left.bench.host ∧ (∀ call ∈ calls, call.Aside) ∧
        ∀ user ∈ s.memory.created, ∃ call ∈ calls, call.Tells (Users.removeCommand user) := by
  rw [tearDown, perform_remembered]
  dsimp only
  cases multiUser : s.memory.multiUser with
  | false =>
    have none : s.memory.created = [] := by
      refine Decidable.byContradiction fun some => ?_
      rw [several some] at multiUser
      cases multiUser
    exact ⟨none, [], .refl, by simp, by simp [none]⟩
  | true =>
    let w : UserWork := ⟨s.bench.host, s.memory.created⟩
    obtain ⟨calls, called, aside, removed⟩ := (users rig).tearDown_calls w removable
    have forgotten := (users rig).tearDown_created w
    have rest : Action.Leads Quiet (do
        Station.remember fun memory : Memory => { memory with serial := none }
        Station.onHost (uninstallApps rig)) :=
      .bind (fun s => ⟨.refl, List.Subset.refl _, rfl⟩) fun _ => onHost_quiet (uninstallApps_aside rig)
    rw [if_pos rfl, Action.perform_bind, perform_onUsers]
    generalize (users rig).tearDown.perform w = outcome at *
    obtain ⟨result, left⟩ := outcome
    cases result with
    | error e => exact ⟨forgotten, calls, called, aside, removed⟩
    | ok _ =>
      have ended := rest ⟨{ s.bench with host := left.host }, { s.memory with created := left.created }⟩
      obtain ⟨more, calledOn, asideOn⟩ := ended.calls
      refine ⟨List.subset_nil.mp (forgotten ▸ ended.created), calls ++ more, called.trans calledOn,
        List.forall_mem_append.mpr ⟨aside, asideOn⟩, ?_⟩
      intro user member
      obtain ⟨call, made, tells⟩ := removed user member
      exact ⟨call, List.mem_append_left _ made, tells⟩

/-! Runs. -/

/-- The calls that are made while a test is set up, run and torn down. -/
structure Tidy (turn : Turn (Station Memory)) (settingUp testing tearingDown : List Invocation) : Prop where
  setUp : turn.begun.bench.host.Called settingUp ((suite rig).ready turn).bench.host
  test : ((suite rig).ready turn).bench.host.Called testing ((suite rig).tested turn).bench.host
  tearDown : ((suite rig).tested turn).bench.host.Called tearingDown ((suite rig).ended turn).bench.host
  /-- The tear-down asks for the removal of every user that the set-up created. -/
  removed : ∀ before call later user, settingUp = before ++ call :: later →
    turn.begun.bench.host.Creation before call user → ∃ call ∈ tearingDown, call.Tells (Users.removeCommand user)
  onlyTest : ∀ call ∈ settingUp ++ tearingDown, ¬ call.Instruments
  /-- A device test is told the serial number of the user that the set-up created. -/
  told : ∀ call ∈ testing, ∀ command, call.Tells command → Text.startsWith "am instrument " command = true →
    ∃ serial rest, command = "am instrument --user 0 -e testUser " ++ Integer.text serial ++ " -w" ++ rest ∧
      NamesUser turn.begun.bench.host settingUp serial

/-- What is done between the set-up and the tear-down of a test. -/
theorem tested_tests (turn : Turn (Station Memory)) {h : Host} {settingUp : List Invocation}
    (prepared : Prepared rig h settingUp ((setUp rig).perform turn.begun).1 ((suite rig).ready turn)) :
    ((suite rig).tested turn).memory = ((suite rig).ready turn).memory ∧
      ∃ testing, ((suite rig).ready turn).bench.host.Called testing ((suite rig).tested turn).bench.host ∧
        ∀ call ∈ testing, ∀ command, call.Tells command → Text.startsWith "am instrument " command = true →
          ∃ serial rest, command = "am instrument --user 0 -e testUser " ++ Integer.text serial ++ " -w" ++ rest ∧
            NamesUser h settingUp serial := by
  rcases (suite rig).tested_cases turn with ⟨-, same⟩ | ⟨worked, ran⟩
  · rw [same]
    exact ⟨rfl, [], .refl, by simp⟩
  · obtain ⟨tests, skipped⟩ := runTest_tests rig turn.test ((suite rig).ready turn)
    rw [ran]
    cases several : ((suite rig).ready turn).memory.multiUser with
    | false =>
      have same : (((suite rig).runTest turn.test).perform ((suite rig).ready turn)).2 = (suite rig).ready turn :=
        skipped several
      rw [same]
      exact ⟨rfl, [], .refl, by simp⟩
    | true =>
      obtain ⟨testing, called, told⟩ := tests.calls
      refine ⟨tests.memory, testing, called, ?_⟩
      intro call member command tells starts
      rcases told call member with aside | ⟨method, serial, known, toldLine⟩
      · exact absurd ⟨command, tells, starts⟩ aside.2
      · -- The set-up worked, so the remembered serial number is the one it has read.
        obtain ⟨other, same, names⟩ := prepared.serial worked several
        obtain rfl : other = serial := Option.some.inj (same.symm.trans known)
        obtain ⟨rest, line⟩ := command_line rig method other
        exact ⟨other, rest, (tells.unique toldLine).trans line, names⟩

theorem turn_tidy (turn : Turn (Station Memory)) (none : turn.begun.memory.created = []) :
    ((suite rig).ended turn).memory.created = [] ∧
      ∃ settingUp testing tearingDown, Tidy rig turn settingUp testing tearingDown := by
  obtain ⟨settingUp, prepared⟩ := setUp_prepared rig turn.begun none
  obtain ⟨memory, testing, tested, told⟩ := tested_tests rig turn prepared
  have removable : UserWork.Removable rig.adb
      ⟨((suite rig).tested turn).bench.host, ((suite rig).tested turn).memory.created⟩ := by
    intro user member
    rw [memory] at member
    exact (Adb.sendable_called tested _).mpr (prepared.removable user member)
  obtain ⟨forgotten, tearingDown, ended, aside, removed⟩ :=
    tearDown_removes rig ((suite rig).tested turn) removable (memory ▸ prepared.multiUser)
  refine ⟨forgotten, settingUp, testing, tearingDown, prepared.called, tested, ended, ?_, ?_, told⟩
  · intro before call later user split creation
    apply removed
    rw [memory]
    exact prepared.created before call later user split creation
  · exact List.forall_mem_append.mpr ⟨prepared.noTests, fun call member => (aside call member).2⟩

/-- Reports may come with any change of the bench, but none of what the suite remembers. -/
def noting (change : Event → Bench → Bench) : Monitor (Station Memory) :=
  fun event station => { station with bench := change event station.bench }

/-- However the device and the project answer, and whatever becomes of other tests, each test of a run begins with
no user remembered, asks for the removal of the user it created before its tear-down is over, and has no device
test run for any other user. -/
theorem run_removes_users (change : Event → Bench → Bench) (only : List String) (bench : Bench)
    (memory : Memory) :
    let s := suite rig
    let start : Station Memory := ⟨bench, { memory with created := [] }⟩
    let turns := s.turns (noting change) (s.selected only) start
    (∀ outcomes left, (s.run (noting change) only).perform start = (.ok outcomes, left) →
      outcomes = turns.map s.turnOutcome ∧ left = s.closing (noting change) turns start) ∧
      ∀ turn ∈ turns, turn.begun.memory.created = [] ∧
        ∃ settingUp testing tearingDown, Tidy rig turn settingUp testing tearingDown := by
  intro s start turns
  refine ⟨fun outcomes left ran => s.run_turns _ ran, ?_⟩
  intro turn member
  -- The serial number and what the device can do may be left over from the test before, but no user is.
  have none := s.turns_begun (noting change) (fun station => station.memory.created = []) (fun _ _ same => same)
    (fun turn none => (turn_tidy rig turn none).1) rfl turn member
  exact ⟨none, (turn_tidy rig turn none).2⟩

end LauncherMultiUser
end DeviceHarness
