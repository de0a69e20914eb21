import DeviceHarness.Proofs.BenchMemory
import DeviceHarness.Proofs.HostCalls
import DeviceHarness.Proofs.UserTracking
import DeviceHarness.Suite.Rig

/-! Which calls create users or run tests on the device, and which work makes no such calls. The commands tell them
apart, whatever client they were sent by. -/

namespace DeviceHarness

namespace Invocation

def CreatesUser (call : Invocation) : Prop :=
  ∃ command, call.Tells command ∧ Text.startsWith "pm create-user " command = true

def Instruments (call : Invocation) : Prop :=
  ∃ command, call.Tells command ∧ Text.startsWith "am instrument " command = true

/-- Neither creates users nor runs tests on the device. -/
def Aside (call : Invocation) : Prop := ¬ call.CreatesUser ∧ ¬ call.Instruments

end Invocation

open Invocation (Aside)

/-- A call, made after others, that had the device create a user, and an answer that names the user. -/
def Host.Creation (h : Host) (before : List Invocation) (call : Invocation) (user : Int) : Prop :=
  call.CreatesUser ∧
    ∃ reply, (h.respond (h.history ++ before) call).Prints reply ∧ Reply.createdUserId reply = .ok user

/-- A call, made after others, that had the device show its users, and an answer with the serial number of one. -/
def Host.SerialReading (h : Host) (before : List Invocation) (call : Invocation) (user serial : Int) : Prop :=
  call.Tells Users.dumpCommand ∧
    ∃ text, (h.respond (h.history ++ before) call).Prints text ∧ Reply.userSerial text user = .ok serial

/-! Work aside. -/

/-- Work on a host all of whose calls are aside. -/
abbrev Host.StaysAside {α : Type} (work : Action Host α) : Prop := Action.Leads (Host.Calls Aside) work

namespace Adb

variable {adb : Adb} {h : Host} {α : Type}

/-- A request that is no shell command. -/
theorem aside_request (front : List String) {first last : String} (other : first ≠ "shell") :
    (adb.invocation h (front ++ [first, last])).Aside := by
  constructor <;> rintro ⟨command, tells, -⟩ <;> exact other ((adb.invocation_tells h front).mp tells).1

theorem aside_shell {command : String} (notCreate : Text.startsWith "pm create-user " command = false)
    (notInstrument : Text.startsWith "am instrument " command = false) :
    (adb.invocation h ["shell", command]).Aside := by
  constructor
  · rintro ⟨other, tells, starts⟩
    rw [← shell_tells.mp tells, notCreate] at starts
    cases starts
  · rintro ⟨other, tells, starts⟩
    rw [← shell_tells.mp tells, notInstrument] at starts
    cases starts

/-- Whatever a command ends with, its beginning can tell that it is aside. -/
theorem aside_command {front : String} (apart : ∀ start ∈ ["pm create-user ", "am instrument "],
    Text.startsWith start front = false ∧ Text.startsWith front start = false) (rest : String) :
    (adb.invocation h ["shell", front ++ rest]).Aside := by
  have never (start : String) (member : start ∈ ["pm create-user ", "am instrument "]) :
      Text.startsWith start (front ++ rest) = false :=
    Text.not_startsWith_append (apart start member).1 (apart start member).2 rest
  exact aside_shell (never _ (by simp)) (never _ (by simp))

theorem shellText_aside {command : String} (aside : ∀ h, (adb.invocation h ["shell", command]).Aside) :
    Host.StaysAside (adb.shellText command) := (shellText_only aside).leads_calls

theorem request_aside {request : List String} (aside : ∀ h, (adb.invocation h request).Aside) :
    Host.StaysAside (adb.request request) := request_calls aside

theorem install_aside (apk : String) : Host.StaysAside (adb.install apk) :=
  (request_aside fun _ => aside_request ["install"] (by decide)).bind fun _ => .ofResult _

theorem uninstall_aside (package : String) : Host.StaysAside (Install.uninstall adb package) := by
  have listing : ∀ h, (adb.invocation h ["shell", Install.listCommand package]).Aside :=
    fun h => aside_command (by decide) package
  refine .bind (.bind (shellText_aside listing) fun _ => .pure _) fun installed => ?_
  split
  · exact (request_aside fun _ => aside_request [] (by decide)).bind fun _ => .ofResult _
  · exact .pure ()

theorem property_aside (name : String) : Host.StaysAside (Device.property adb name) := by
  have getprop : ∀ h, (adb.invocation h ["shell", "getprop " ++ name]).Aside := fun h => aside_command (by decide) name
  exact (request_aside getprop).bind fun _ => .bind (.ofResult _) fun _ => .pure _

theorem features_aside (required : List String) : Host.StaysAside (Device.hasFeatures adb required) := by
  have listing : ∀ h, (adb.invocation h ["shell", "pm list features"]).Aside :=
    fun h => aside_shell (by decide) (by decide)
  exact .bind (.bind (shellText_aside listing) fun _ => .ofResult _) fun _ => .pure _

end Adb

namespace UserManager

variable (m : UserManager)

theorem waitUntil_aside (what : String) (holds : List Reply.User → Bool) : Host.StaysAside (m.waitUntil what holds) :=
  (m.waitUntil_only (fun h => Adb.aside_shell (by decide) (by decide)) what holds).leads_calls

theorem list_aside : Host.StaysAside m.list :=
  (m.list_only fun h => Adb.aside_shell (by decide) (by decide)).leads_calls

theorem supportsMultiple_aside : Host.StaysAside m.supportsMultiple :=
  .bind (.bind (Adb.shellText_aside fun h => Adb.aside_shell (by decide) (by decide)) fun _ => .ofResult _)
    fun _ => .pure _

theorem start_aside (user : Int) : Host.StaysAside (m.start user) := by
  have starts : ∀ h, (m.adb.invocation h ["shell", Users.startCommand user]).Aside :=
    fun h => Adb.aside_command (by decide) _
  refine .bind (Adb.shellText_aside starts) fun reply => ?_
  split
  · exact m.waitUntil_aside _ _
  · exact .throw _

theorem aside_removal (h : Host) (user : Int) : (m.adb.invocation h (Adb.removal user)).Aside :=
  Adb.aside_command (by decide) _

theorem removeFromDevice_aside (user : Int) : Host.StaysAside (m.removeFromDevice user) :=
  .bind (Adb.shellText_aside fun h => m.aside_removal h user) fun _ => m.waitUntil_aside _ _

end UserManager

namespace Bench

variable {α : Type} {allowed : Invocation → Prop}

/-- All calls that the host made are of a certain kind. -/
def Calls (allowed : Invocation → Prop) (b left : Bench) : Prop := b.host.Calls allowed left.host

instance : Std.Refl (Bench.Calls allowed) := ⟨fun _ => Host.Calls.refl⟩

instance : IsTrans Bench (Bench.Calls allowed) := ⟨fun _ _ _ => Host.Calls.trans⟩

/-- Work on the bench all of whose calls are aside. -/
abbrev StaysAside (work : Action Bench α) : Prop := Action.Leads (Bench.Calls Aside) work

theorem onHost_calls {work : Action Host α} (calls : Action.Leads (Host.Calls allowed) work) :
    Action.Leads (Bench.Calls allowed) (onHost work) := calls.within fun _ _ made => made

theorem LooksUp.calls {work : Action Bench α} (looks : LooksUp work) : Action.Leads (Bench.Calls allowed) work := by
  refine looks.mono fun b left looked => ?_
  unfold Bench.Calls
  rw [looked.host]
  exact .refl

theorem apiLevel_aside : Bench.StaysAside apiLevel := by
  have noted (level : Nat) : Bench.StaysAside (do
      remember fun found => { found with apiLevel := some level }
      return level) := .bind (fun _ => Host.Calls.refl) fun _ => .pure _
  have asked (adb : Adb) : Host.StaysAside (Device.apiLevel adb) := by
    refine .bind (Adb.property_aside _) fun level => ?_
    split
    · exact .pure _
    · exact .throw _
  refine .bind (.still fun _ => rfl) fun known => ?_
  split
  · exact .pure _
  · refine .bind (.still fun _ => rfl) fun value => ?_
    dsimp only
    split
    · exact .bind (.ofResult _) noted
    · refine find_looksUp.calls.bind fun adb => .bind (onHost_calls ?_) noted
      refine (asked adb).outcome.bind fun result => ?_
      split
      · exact .pure _
      · exact .throw _

theorem find_aside : Bench.StaysAside TestApps.find := apkDir_looksUp.calls.bind fun _ => .pure _

theorem installApp_aside (rig : Rig) (apps : TestApps) (name : String) :
    Bench.StaysAside (rig.installApp apps name) :=
  .bind (.still fun _ => rfl) fun apk => onHost_calls (Adb.install_aside apk)

end Bench

/-! Creating and removing users. -/

/-- All calls are aside, and no user is remembered that was not before. -/
structure UserWork.Forgets (s left : UserWork) : Prop where
  calls : s.host.Calls Aside left.host
  created : left.created ⊆ s.created

instance : Std.Refl UserWork.Forgets := ⟨fun _ => ⟨.refl, List.Subset.refl _⟩⟩

instance : IsTrans UserWork UserWork.Forgets where
  trans _ _ _ first rest := ⟨first.calls.trans rest.calls, List.Subset.trans rest.created first.created⟩

namespace UserManager

variable (m : UserManager)

theorem remove_forgets (user : Int) : Action.Leads UserWork.Forgets (m.remove user) := by
  intro s
  rw [perform_remove]
  exact ⟨m.removeFromDevice_aside user s.host, fun _ member => (List.mem_filter.mp member).1⟩

theorem removeAllSecondary_forgets : Action.Leads UserWork.Forgets m.removeAllSecondary := by
  have lists : Action.Leads UserWork.Forgets (onHost m.list) :=
    m.list_aside.within fun s left calls => ⟨calls, List.Subset.refl _⟩
  exact lists.bind fun users => .each m.remove_forgets

/-- Tearing down asks for the removal of all remembered users, if that can be sent. -/
theorem tearDown_calls (w : UserWork) (removable : UserWork.Removable m.adb w) :
    ∃ calls, w.host.Called calls (m.tearDown.perform w).2.host ∧ (∀ call ∈ calls, call.Aside) ∧
      ∀ user ∈ w.created, ∃ call ∈ calls, call.Tells (Users.removeCommand user) := by
  obtain ⟨sent, accounts⟩ := m.tearDown_keeps w removable
  have forgets : UserWork.Forgets w ((Action.each m.remove w.created).perform w).2 :=
    Action.Leads.each m.remove_forgets w
  obtain ⟨calls, called, aside⟩ : w.host.Calls Aside (m.tearDown.perform w).2.host := forgets.calls
  obtain rfl := called.unique accounts.went.called
  refine ⟨_, called, aside, ?_⟩
  intro user member
  -- Whoever is no longer remembered has had the removal sent, and none is remembered in the end.
  have sentOne : Adb.removal user ∈ sent := by
    refine Decidable.byContradiction fun unsent => ?_
    have kept : user ∈ (m.tearDown.perform w).2.created := (accounts.created user).mpr (.inl ⟨member, unsent⟩)
    rw [m.tearDown_created w] at kept
    cases kept
  exact ⟨_, List.mem_map.mpr ⟨_, sentOne, rfl⟩, Adb.shell_tells.mpr rfl⟩

theorem perform_onHost_then {α : Type} (work : Action Host Unit) (value : α) (w : UserWork) :
    (onHost work >>= fun _ => pure value).perform w =
      ((work.perform w.host).1.map fun _ => value, { w with host := (work.perform w.host).2 }) := by
  have worked : (onHost work).perform w = ((work.perform w.host).1, { w with host := (work.perform w.host).2 }) := rfl
  rw [Action.perform_bind, worked]
  cases (work.perform w.host).1 <;> rfl

/-- Where no user is remembered, a creation sends its request as the first one, if it sends any. Then the user is
remembered that the answer names. -/
theorem create_cases (w : UserWork) (none : w.created = []) :
    (∃ e left, m.create.perform w = (.error e, left) ∧ w.host.Called [] left.host ∧ left.created = []) ∨
      ∃ command c later result left, m.create.perform w = (result, left) ∧
        Text.startsWith "pm create-user " command = true ∧ m.adb.reply w.host ["shell", command] = .ok c ∧
        w.host.Called (m.adb.invocation w.host ["shell", command] :: later) left.host ∧
        (∀ call ∈ later, call.Aside) ∧ left.created = (named command c).toOption.toList ∧
        ∀ user, result = .ok user → named command c = .ok user := by
  have starts : Text.startsWith "pm create-user " (Users.createCommand w.host.clock) = true := by
    have first : Text.startsWith "pm create-user " "pm create-user TestUser_" = true := by decide
    exact Text.startsWith_append first _
  have registered := m.perform_register Users.createCommand w rfl
  rw [Adb.reply_clock, none] at registered
  rw [create, createBy_eq, Action.perform_bind, registered]
  generalize Users.createCommand w.host.clock = command at starts
  cases completed : m.adb.reply w.host ["shell", command] with
  | error e => exact .inl ⟨e, _, rfl, .passed _, rfl⟩
  | ok c =>
    right
    let asked := m.adb.after { w.host with clock := w.host.clock + 1 } [["shell", command]]
    have called : w.host.Called [m.adb.invocation w.host ["shell", command]] asked := rfl
    dsimp only
    cases naming : named command c with
    | error e =>
      have forgotten : [] = (named command c).toOption.toList := by rw [naming]; rfl
      exact ⟨command, c, [], _, ⟨asked, []⟩, rfl, starts, completed, called, by simp, forgotten, nofun⟩
    | ok user =>
      let waits := m.waitUntil ("user " ++ Integer.text user ++ " to be listed") fun users => users.any (·.id == user)
      obtain ⟨later, waited, aside⟩ : asked.Calls Aside (waits.perform asked).2 := m.waitUntil_aside _ _ asked
      have remembered : [user] = (named command c).toOption.toList := by rw [naming]; rfl
      refine ⟨command, c, later, _, _, perform_onHost_then waits user ⟨asked, [user]⟩, starts, completed,
        called.trans waited, aside, remembered, ?_⟩
      intro other done
      rw [naming]
      cases ended : (waits.perform asked).1 with
      | error e =>
        rw [ended] at done
        cases done
      | ok _ =>
        rw [ended] at done
        exact done

theorem perform_serialNumber (user : Int) (h : Host) :
    (m.serialNumber user).perform h = match m.adb.reply h ["shell", Users.dumpCommand] with
      | .error e => (.error e, h)
      | .ok c => (c.answer Users.dumpCommand >>= fun text => Reply.userSerial text user,
          m.adb.after h [["shell", Users.dumpCommand]]) := by
  rw [serialNumber, Action.perform_bind_judged (Reply.userSerial · user) fun _ _ => Action.perform_ofResult _ _,
    Adb.perform_shellText]
  cases m.adb.reply h ["shell", Users.dumpCommand] <;> rfl

end UserManager

section Creation

variable {adb : Adb} {h mid : Host} {calls before : List Invocation} {call : Invocation} {user : Int}

theorem Host.Called.creation_iff (first : h.Called calls mid) :
    mid.Creation before call user ↔ h.Creation (calls ++ before) call user := by
  rw [first]
  simp [Host.Creation]

theorem Host.Called.serialReading_iff (first : h.Called calls mid) {serial : Int} :
    mid.SerialReading before call user serial ↔ h.SerialReading (calls ++ before) call user serial := by
  rw [first]
  simp [Host.SerialReading]

theorem UserManager.creation_iff_named {command : String} {c : Completion}
    (starts : Text.startsWith "pm create-user " command = true) (completed : adb.reply h ["shell", command] = .ok c) :
    h.Creation [] (adb.invocation h ["shell", command]) user ↔ named command c = .ok user := by
  unfold Host.Creation
  rw [List.append_nil, ← Adb.reply_eq_respond completed, ← creates_iff_named starts completed]
  constructor
  · rintro ⟨-, reply, prints, read⟩
    exact ⟨command, c, reply, rfl, starts, completed, prints, read⟩
  · rintro ⟨-, d, reply, -, -, again, prints, read⟩
    obtain rfl := Except.ok.inj (completed.symm.trans again)
    exact ⟨⟨command, Adb.shell_tells.mpr rfl, starts⟩, reply, prints, read⟩

end Creation
end DeviceHarness
