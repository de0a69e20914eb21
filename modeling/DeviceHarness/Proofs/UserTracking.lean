import DeviceHarness.Proofs.AdbTraffic
import DeviceHarness.Users

/-! Which users are remembered for removal. Whatever the device answers, these are the users whose creation
was confirmed and whose removal was not asked for since. Asking is what counts: a user is forgotten when the
command is sent, even if the connection fails and the device never hears of it. -/

namespace DeviceHarness

theorem Reply.createdUserId_fits {reply : String} {user : Int} (named : createdUserId reply = .ok user) :
    Integer.fits 32 user = true := by
  unfold createdUserId at named
  split at named
  · split at named
    · cases named
    · split at named
      next read =>
        obtain rfl := Except.ok.inj named
        exact Integer.fits_of_ofText? read
      next => cases named
  · cases named

theorem Text.startsWith_append {start first : String} (starts : startsWith start first = true) (rest : String) :
    startsWith start (first ++ rest) = true := by
  simp only [startsWith, beginsWith, String.toList_append, List.isPrefixOf_iff_prefix] at starts ⊢
  exact starts.trans (List.prefix_append _ _)

/-- A text does not begin in two ways, neither of which begins with the other. -/
theorem Text.not_startsWith {start first s : String} (starts : startsWith first s = true)
    (other : startsWith start first = false) (back : startsWith first start = false) : startsWith start s = false := by
  rw [Bool.eq_false_iff] at other back ⊢
  intro again
  have began : first.toList <+: s.toList := List.isPrefixOf_iff_prefix.mp starts
  rcases List.prefix_or_prefix_of_prefix (List.isPrefixOf_iff_prefix.mp again) began with within | beyond
  · exact other (List.isPrefixOf_iff_prefix.mpr within)
  · exact back (List.isPrefixOf_iff_prefix.mpr beyond)

theorem Text.not_startsWith_append {start first : String} (other : startsWith start first = false)
    (back : startsWith first start = false) (rest : String) : startsWith start (first ++ rest) = false := by
  have self : startsWith first first = true := List.isPrefixOf_iff_prefix.mpr (List.prefix_refl _)
  exact not_startsWith (startsWith_append self rest) other back

namespace Adb

/-- The request to remove a user. -/
def removal (user : Int) : List String := ["shell", "pm remove-user " ++ Integer.text user]

/-- A request that has the device create a user, and an answer to it that names the user. -/
def Creates (adb : Adb) (h : Host) (request : List String) (user : Int) : Prop :=
  ∃ command c reply, request = ["shell", command] ∧ Text.startsWith "pm create-user " command = true ∧
    adb.reply h request = .ok c ∧ c.Prints reply ∧ Reply.createdUserId reply = .ok user

/-- One of the requests created the user, and no later one was to remove it. -/
def Tracked (adb : Adb) (h : Host) (sent : List (List String)) (user : Int) : Prop :=
  ∃ before request later, sent = before ++ request :: later ∧ adb.Creates (adb.after h before) request user ∧
    removal user ∉ later

/-- A shell command that neither creates nor removes users. -/
def Neutral (request : List String) : Prop :=
  ∃ command, request = ["shell", command] ∧ Text.startsWith "pm create-user " command = false ∧
    Text.startsWith "pm remove-user " command = false

theorem removal_inj {user other : Int} : removal user = removal other ↔ user = other := by
  simp [removal, Integer.text_inj]

theorem not_creates_removal (adb : Adb) (h : Host) (user other : Int) : ¬ adb.Creates h (removal user) other := by
  rintro ⟨command, c, reply, same, starts, -⟩
  obtain rfl : "pm remove-user " ++ Integer.text user = command := by simpa [removal] using same
  simp only [Text.startsWith, String.toList_append] at starts
  cases starts

theorem Neutral.ne_removal {request : List String} (neutral : Neutral request) (user : Int) :
    request ≠ removal user := by
  rintro rfl
  obtain ⟨command, same, -, other⟩ := neutral
  obtain rfl : "pm remove-user " ++ Integer.text user = command := by simpa [removal] using same
  rw [Text.startsWith_append (by decide)] at other
  cases other

theorem Neutral.not_creates {adb : Adb} {h : Host} {request : List String} {user : Int}
    (neutral : Neutral request) : ¬ adb.Creates h request user := by
  rintro ⟨command, c, reply, rfl, starts, -⟩
  obtain ⟨other, same, notCreate, -⟩ := neutral
  obtain rfl : command = other := by simpa using same
  rw [starts] at notCreate
  cases notCreate

section Tracked

variable {adb : Adb} {h left : Host} {sent more : List (List String)} {user : Int}

theorem Creates.of_reply {g : Host} {request : List String} (creates : adb.Creates g request user)
    (same : adb.reply g request = adb.reply h request) : adb.Creates h request user := by
  obtain ⟨command, c, reply, shell, starts, completed, printed⟩ := creates
  exact ⟨command, c, reply, shell, starts, same ▸ completed, printed⟩

theorem tracked_append (went : adb.Sent h sent left) :
    adb.Tracked h (sent ++ more) user ↔
      (adb.Tracked h sent user ∧ removal user ∉ more) ∨ adb.Tracked left more user := by
  constructor
  · rintro ⟨before, request, later, split, creates, kept⟩
    rcases append_eq_append_cons.mp split with ⟨between, rfl, rfl⟩ | ⟨between, rfl, rfl⟩
    · rw [List.mem_append, not_or] at kept
      exact .inl ⟨⟨before, request, between, rfl, creates, kept.1⟩, kept.2⟩
    · exact .inr ⟨between, request, later, rfl, creates.of_reply (went.reply_after request).symm, kept⟩
  · rintro (⟨⟨before, request, later, rfl, creates, kept⟩, keptOn⟩ | ⟨before, request, later, rfl, creates, kept⟩)
    · refine ⟨before, request, later ++ more, by simp, creates, ?_⟩
      rw [List.mem_append, not_or]
      exact ⟨kept, keptOn⟩
    · exact ⟨sent ++ before, request, later, by simp, creates.of_reply (went.reply_after request), kept⟩

theorem tracked_singleton {request : List String} : adb.Tracked h [request] user ↔ adb.Creates h request user := by
  constructor
  · rintro ⟨before, other, later, split, creates, -⟩
    cases before with
    | cons first rest => simp at split
    | nil =>
      obtain ⟨rfl, rfl⟩ := List.cons.inj split
      rwa [after_nil] at creates
  · intro creates
    refine ⟨[], request, [], rfl, ?_, by simp⟩
    rwa [after_nil]

theorem not_tracked (none : ∀ request ∈ sent, ∀ g, ¬ adb.Creates g request user) : ¬ adb.Tracked h sent user := by
  rintro ⟨before, request, later, rfl, creates, -⟩
  exact none request (by simp) _ creates

end Tracked
end Adb

open Adb

/-! Work with users, by what it sends and what it remembers. -/

namespace UserWork

def fresh (h : Host) : UserWork := ⟨h, []⟩

variable {adb : Adb} {s mid last : UserWork} {sent more : List (List String)}

/-- The users remembered after work are those remembered before it and those it created, without the ones
that it asked to remove. -/
structure Accounts (adb : Adb) (s : UserWork) (sent : List (List String)) (last : UserWork) : Prop where
  went : adb.Sent s.host sent last.host
  created : ∀ user, user ∈ last.created ↔
    (user ∈ s.created ∧ removal user ∉ sent) ∨ adb.Tracked s.host sent user

/-- The removal of every remembered user can be sent. -/
def Removable (adb : Adb) (s : UserWork) : Prop :=
  ∀ user ∈ s.created, ∃ c, adb.reply s.host (removal user) = .ok c

theorem Accounts.trans (first : Accounts adb s sent mid) (rest : Accounts adb mid more last) :
    Accounts adb s (sent ++ more) last where
  went := first.went.trans rest.went
  created := by
    intro user
    rw [rest.created, first.created, tracked_append first.went]
    simp only [List.mem_append, not_or, or_and_right, and_assoc, or_assoc]

/-- Requests that have nothing to do with users leave the memory of users as it is. -/
theorem Accounts.neutral (went : adb.Sent s.host sent last.host) (same : last.created = s.created)
    (neutral : ∀ request ∈ sent, Neutral request) : Accounts adb s sent last where
  went := went
  created := by
    intro user
    have notRemoved : removal user ∉ sent := fun member => (neutral _ member).ne_removal user rfl
    have notCreated : ¬ adb.Tracked s.host sent user :=
      not_tracked fun request member _ => (neutral request member).not_creates
    simp [same, notRemoved, notCreated]

/-- From the start, the users that are remembered are the tracked ones. -/
theorem Accounts.created_fresh {h : Host} {user : Int} (accounts : Accounts adb (fresh h) sent last) :
    user ∈ last.created ↔ adb.Tracked h sent user := by
  rw [accounts.created]
  apply or_iff_right
  rintro ⟨remembered, -⟩
  cases remembered

theorem Accounts.removable (accounts : Accounts adb s sent last) (removable : Removable adb s) :
    Removable adb last := by
  intro user member
  rw [accounts.went.sendable_iff]
  rcases (accounts.created user).mp member with ⟨before, -⟩ | ⟨before, request, later, rfl, creates, -⟩
  · exact removable user before
  · obtain ⟨command, c, reply, -, -, completed, -, named⟩ := creates
    have fits := Integer.natAbs_of_fits (Reply.createdUserId_fits named)
    have sendable : ∃ d, adb.reply (adb.after (adb.after s.host before) []) (removal user) = .ok d :=
      adb.reply_numbered _ completed [] (by decide) (by decide) (Nat.lt_of_le_of_lt fits (by decide))
    rwa [after_nil, sendable_after] at sendable

/-- Work accounts for what it remembers, wherever it begins and whatever the device answers. -/
def Keeps (adb : Adb) {α : Type} (work : Action UserWork α) : Prop :=
  ∀ s, Removable adb s → ∃ sent, Accounts adb s sent (work.perform s).2

section Keeps

variable {α β : Type}

theorem Keeps.onHost {work : Action Host α} (neutral : adb.Keeps (Only Neutral) id work) :
    Keeps adb (UserManager.onHost work) := by
  intro s _
  obtain ⟨sent, went, held⟩ := neutral s.host
  exact ⟨sent, .neutral went rfl held⟩

theorem Keeps.pure (value : α) : Keeps adb (Pure.pure value : Action UserWork α) :=
  fun _ _ => ⟨[], .neutral .refl rfl (by simp)⟩

theorem Keeps.bind {work : Action UserWork α} {next : α → Action UserWork β} (first : Keeps adb work)
    (rest : ∀ value, Keeps adb (next value)) : Keeps adb (work >>= next) := by
  intro s removable
  obtain ⟨sent, accounts⟩ := first s removable
  rw [Action.perform_bind]
  generalize work.perform s = outcome at *
  obtain ⟨result, mid⟩ := outcome
  cases result with
  | error e => exact ⟨sent, accounts⟩
  | ok value =>
    obtain ⟨more, accountsOn⟩ := rest value mid (accounts.removable removable)
    exact ⟨sent ++ more, accounts.trans accountsOn⟩

theorem Keeps.each {work : α → Action UserWork Unit} {items : List α} (kept : ∀ item, Keeps adb (work item)) :
    Keeps adb (Action.each work items) := by
  induction items with
  | nil => exact .pure ()
  | cons item rest ih => exact (kept item).bind fun _ => ih

end Keeps

end UserWork

namespace UserManager

open UserWork

variable (m : UserManager)

theorem neutral_list : Neutral ["shell", Users.listCommand] := ⟨_, rfl, by decide, by decide⟩

theorem list_only {allowed : List String → Prop} (lists : allowed ["shell", Users.listCommand]) :
    m.adb.Keeps (Only allowed) id m.list := .bind (shellText_only lists) fun _ => .ofResult _

theorem waitUntil_only {allowed : List String → Prop} (lists : allowed ["shell", Users.listCommand]) (what : String)
    (holds : List Reply.User → Bool) : m.adb.Keeps (Only allowed) id (m.waitUntil what holds) :=
  .pollUntil m.wait what (.bind (m.list_only lists) fun _ => .pure _)

theorem start_only (user : Int) : m.adb.Keeps (Only Neutral) id (m.start user) := by
  have neutral : Neutral ["shell", Users.startCommand user] := by
    refine ⟨_, rfl, ?_, ?_⟩ <;> simp only [Text.startsWith, Users.startCommand, String.toList_append] <;> rfl
  refine .bind (shellText_only neutral) fun reply => ?_
  split
  · exact m.waitUntil_only neutral_list _ _
  · exact .throw _

/-- The first half of a creation: the device creates a user, which is remembered. -/
def register (command : Duration → String) : Action UserWork Int := do
  let moment ← onHost Host.now
  let reply ← onHost (m.adb.shellText (command moment))
  let id ← Action.ofResult (Reply.createdUserId reply)
  track (· ++ [id])
  return id

theorem createBy_eq (command : Duration → String) :
    m.createBy command = m.register command >>= fun id => do
      onHost (m.waitUntil ("user " ++ Integer.text id ++ " to be listed") fun users => users.any (·.id == id))
      return id := by
  simp [createBy, register]

/-- What the reply to a creation says about the new user. -/
def named (command : String) (c : Completion) : Except Error Int := c.answer command >>= Reply.createdUserId

theorem perform_register (command : Duration → String) (s : UserWork) {h : Host}
    (later : h = { s.host with clock := s.host.clock + 1 }) :
    (m.register command).perform s =
      match m.adb.reply h ["shell", command s.host.clock] with
      | .error e => (.error e, ⟨h, s.created⟩)
      | .ok c =>
        (named (command s.host.clock) c, ⟨m.adb.after h [["shell", command s.host.clock]],
          s.created ++ (named (command s.host.clock) c).toOption.toList⟩) := by
  have clock : (onHost Host.now).perform s = (.ok s.host.clock, ⟨h, s.created⟩) := by rw [later]; rfl
  have sends (command : String) : (onHost (m.adb.shellText command)).perform ⟨h, s.created⟩ =
      (((m.adb.shellText command).perform h).1, ⟨((m.adb.shellText command).perform h).2, s.created⟩) := rfl
  unfold register named
  rw [Action.perform_bind, clock]
  dsimp only
  rw [Action.perform_bind, sends, Adb.perform_shellText]
  cases m.adb.reply h ["shell", command s.host.clock] with
  | error e => rfl
  | ok c =>
    dsimp only
    cases c.answer (command s.host.clock) with
    | error e => simp [bind, Except.bind, Except.toOption]
    | ok reply =>
      dsimp only [bind, Except.bind]
      show (Action.ofResult (Reply.createdUserId reply) >>= _).perform _ = _
      rw [Action.perform_bind, Action.perform_ofResult]
      cases Reply.createdUserId reply with
      | error e => simp [Except.toOption]
      | ok user => rfl

theorem creates_iff_named {adb : Adb} {h : Host} {command : String} {c : Completion} {user : Int}
    (starts : Text.startsWith "pm create-user " command = true) (completed : adb.reply h ["shell", command] = .ok c) :
    adb.Creates h ["shell", command] user ↔ named command c = .ok user := by
  constructor
  · rintro ⟨other, d, reply, same, -, again, printed, read⟩
    obtain rfl : command = other := by simpa using same
    rw [completed] at again
    obtain rfl := Except.ok.inj again
    rw [named, Completion.answer_eq_ok.mpr printed]
    exact read
  · intro read
    cases answer : c.answer command with
    | error e =>
      rw [named, answer] at read
      cases read
    | ok reply =>
      rw [named, answer] at read
      exact ⟨command, c, reply, rfl, starts, completed, Completion.answer_eq_ok.mp answer, read⟩

theorem register_keeps {command : Duration → String}
    (creates : ∀ moment, Text.startsWith "pm create-user " (command moment) = true) :
    UserWork.Keeps m.adb (m.register command) := by
  intro s _
  rw [m.perform_register command s rfl]
  have passed : m.adb.Sent s.host [] { s.host with clock := s.host.clock + 1 } := .nothing rfl
  cases completed : m.adb.reply { s.host with clock := s.host.clock + 1 } ["shell", command s.host.clock] with
  | error e => exact ⟨[], .neutral passed rfl (by simp)⟩
  | ok c =>
    refine ⟨[["shell", command s.host.clock]], passed.trans (.one completed), fun user => ?_⟩
    rw [reply_clock] at completed
    have notRemoval : removal user ≠ ["shell", command s.host.clock] := by
      intro same
      have named := creates s.host.clock
      rw [(List.cons.inj (List.cons.inj same).2).1.symm] at named
      simp only [Text.startsWith, String.toList_append] at named
      cases named
    rw [tracked_singleton, creates_iff_named (creates _) completed]
    dsimp only
    generalize named (command s.host.clock) c = result
    cases result <;> simp [Except.toOption, notRemoval, eq_comm]

theorem createBy_keeps {command : Duration → String}
    (creates : ∀ moment, Text.startsWith "pm create-user " (command moment) = true) :
    UserWork.Keeps m.adb (m.createBy command) := by
  rw [createBy_eq]
  refine (m.register_keeps creates).bind fun user => ?_
  exact .bind (.onHost (m.waitUntil_only neutral_list _ _)) fun _ => .pure user

theorem create_keeps : UserWork.Keeps m.adb m.create := by
  refine m.createBy_keeps fun moment => ?_
  have starts : Text.startsWith "pm create-user " "pm create-user TestUser_" = true := by decide
  exact Text.startsWith_append starts _

theorem createProfile_keeps (parent : Int) : UserWork.Keeps m.adb (m.createProfile parent) := by
  refine m.createBy_keeps fun moment => ?_
  have starts : Text.startsWith "pm create-user " "pm create-user --profileOf " = true := by decide
  unfold Users.createProfileCommand
  rw [String.append_assoc, String.append_assoc]
  exact Text.startsWith_append starts _

/-! Removal. -/

/-- The request to remove the user, and then listings, unless even the first one cannot be sent. -/
theorem removeFromDevice_sends {allowed : List String → Prop} (lists : allowed ["shell", Users.listCommand]) (user : Int)
    (h : Host) :
    ((∃ e, m.adb.reply h (removal user) = .error e) ∧ ((m.removeFromDevice user).perform h).2 = h) ∨
      ∃ later, m.adb.Sent h (removal user :: later) ((m.removeFromDevice user).perform h).2 ∧
        ∀ request ∈ later, allowed request :=
  shellText_then (fun _ => m.waitUntil_only lists _ _) h

theorem perform_remove (user : Int) (s : UserWork) : (m.remove user).perform s =
    (.ok (), ⟨((m.removeFromDevice user).perform s.host).2, s.created.filter (· != user)⟩) := rfl

theorem remove_keeps (user : Int) : UserWork.Keeps m.adb (m.remove user) := by
  intro s removable
  rw [perform_remove]
  rcases m.removeFromDevice_sends neutral_list user s.host with ⟨⟨e, unsent⟩, same⟩ | ⟨later, went, neutral⟩
  · -- Then the user was not remembered, or its removal could have been sent.
    have absent : user ∉ s.created := by
      intro member
      obtain ⟨c, completed⟩ := removable user member
      cases unsent.symm.trans completed
    have kept : s.created.filter (· != user) = s.created := by
      refine List.filter_eq_self.mpr fun other member => bne_iff_ne.mpr ?_
      rintro rfl
      exact absent member
    rw [same, kept]
    exact ⟨[], .neutral .refl rfl (by simp)⟩
  · refine ⟨removal user :: later, went, fun other => ?_⟩
    have notCreated : ¬ m.adb.Tracked s.host (removal user :: later) other := by
      refine not_tracked fun request member g => ?_
      rcases List.mem_cons.mp member with rfl | member
      · exact not_creates_removal m.adb g user other
      · exact (neutral request member).not_creates
    have notLater : removal other ∉ later := fun member => (neutral _ member).ne_removal other rfl
    simp [notCreated, notLater, removal_inj]

theorem removeAllSecondary_keeps : UserWork.Keeps m.adb m.removeAllSecondary :=
  .bind (.onHost (m.list_only neutral_list)) fun _ => .each m.remove_keeps

theorem tearDown_keeps : UserWork.Keeps m.adb m.tearDown := by
  intro s removable
  have each : UserWork.Keeps m.adb (Action.each m.remove s.created) := .each m.remove_keeps
  exact each s removable

end UserManager

/-! Work with users from the start. -/

/-- What can be asked of a manager of users that may change which users there are. -/
inductive UserOperation where
  | create
  | createProfile (parent : Int)
  | start (user : Int)
  | remove (user : Int)
  | removeAllSecondary
  | tearDown
  deriving Repr, DecidableEq

namespace UserManager

open UserWork

variable (m : UserManager)

def carryOut : UserOperation → Action UserWork Unit
  | .create => do let _ ← m.create
  | .createProfile parent => do let _ ← m.createProfile parent
  | .start user => onHost (m.start user)
  | .remove user => m.remove user
  | .removeAllSecondary => m.removeAllSecondary
  | .tearDown => m.tearDown

/-- Operations one after another, whatever becomes of each. -/
def after (s : UserWork) (operations : List UserOperation) : UserWork :=
  operations.foldl (fun s operation => ((m.carryOut operation).perform s).2) s

theorem carryOut_keeps (operation : UserOperation) : UserWork.Keeps m.adb (m.carryOut operation) := by
  cases operation with
  | create => exact .bind m.create_keeps fun _ => .pure ()
  | createProfile parent => exact .bind (m.createProfile_keeps parent) fun _ => .pure ()
  | start user => exact .onHost (m.start_only user)
  | remove user => exact m.remove_keeps user
  | removeAllSecondary => exact m.removeAllSecondary_keeps
  | tearDown => exact m.tearDown_keeps

theorem after_accounts (operations : List UserOperation) (s : UserWork) (removable : Removable m.adb s) :
    ∃ sent, Accounts m.adb s sent (m.after s operations) ∧ Removable m.adb (m.after s operations) := by
  induction operations generalizing s with
  | nil => exact ⟨[], .neutral .refl rfl (by simp), removable⟩
  | cons operation rest ih =>
    obtain ⟨sent, first⟩ := m.carryOut_keeps operation s removable
    obtain ⟨more, onward, last⟩ := ih _ (first.removable removable)
    exact ⟨sent ++ more, first.trans onward, last⟩

theorem fresh_removable (adb : Adb) (h : Host) : Removable adb (fresh h) := by
  intro user member
  cases member

/-- Whatever the device answers, the users that are remembered are those whose creation was confirmed and
whose removal was not asked for since. -/
theorem created_iff_tracked (h : Host) (operations : List UserOperation) :
    ∃ sent, m.adb.Sent h sent (m.after (fresh h) operations).host ∧
      ∀ user, user ∈ (m.after (fresh h) operations).created ↔ m.adb.Tracked h sent user := by
  obtain ⟨sent, accounts, -⟩ := m.after_accounts operations (fresh h) (fresh_removable m.adb h)
  exact ⟨sent, accounts.went, fun user => accounts.created_fresh⟩

end UserManager

/-- A host whose device creates user 11 and lists it, and then cannot be reached to remove it. -/
def Host.losingDevice : Host where
  environment := []
  accountHome := none
  files := ⟨[(["adb"], .program)]⟩
  workdir := []
  respond _ call :=
    if call.args = ["shell", "pm remove-user 11"] then ⟨.exited 1, "", "error: device offline"⟩
    else if call.args = ["shell", "pm list users"] then ⟨.exited 0, "Users:\n\tUserInfo\x7b11:TestUser:0\x7d\n", ""⟩
    else ⟨.exited 0, "Success: created user id 11", ""⟩
  history := []
  clock := 0

/-- A user is forgotten although the only request to remove it has failed with its connection, so the device
still has the user. -/
theorem unreachable_user_forgotten :
    let m : UserManager := ⟨⟨"/adb", none⟩, ⟨0, 0, 0⟩⟩
    let creation := ["shell", "pm create-user TestUser_0"]
    let listing := ["shell", "pm list users"]
    let left := m.after (.fresh .losingDevice) [.create, .remove 11]
    left.host.history.map Invocation.args = [creation, listing, removal 11] ∧
      m.adb.Creates .losingDevice creation 11 ∧
      (∃ c e, m.adb.reply (m.adb.after .losingDevice [creation, listing]) (removal 11) = .ok c ∧
        c.TransportFailure "pm remove-user 11" e) ∧
      11 ∉ left.created := by
  refine ⟨by decide +kernel, ?_, ?_, by decide +kernel⟩
  · exact ⟨_, _, _, rfl, by decide, rfl, ⟨rfl, .inl rfl, rfl⟩, rfl⟩
  · have text : removal 11 = ["shell", "pm remove-user 11"] := by decide +kernel
    rw [text]
    exact ⟨⟨.exited 1, "", "error: device offline"⟩, .device "error: device offline", rfl, .reported rfl⟩

/-! Tearing down. -/

namespace UserManager

open UserWork

variable (m : UserManager)

theorem each_remove_created (users : List Int) (s : UserWork) :
    ((Action.each m.remove users).perform s).2.created = s.created.filter fun user => user ∉ users := by
  induction users generalizing s with
  | nil => exact (List.filter_eq_self.mpr fun user _ => decide_eq_true List.not_mem_nil).symm
  | cons user rest ih =>
    rw [Action.each, Action.perform_bind, perform_remove]
    dsimp only
    rw [ih, List.filter_filter]
    refine List.filter_congr fun other _ => ?_
    by_cases same : other = user <;> simp [same]

theorem tearDown_created (s : UserWork) : (m.tearDown.perform s).2.created = [] := by
  have shape : (m.tearDown.perform s).2.created = s.created.filter fun user => user ∉ s.created :=
    m.each_remove_created s.created s
  rw [shape, List.filter_eq_nil_iff]
  intro user member
  simp [member]

/-- A removal of one of the users, or a command that has nothing to do with users. -/
def Removing (users : List Int) (request : List String) : Prop :=
  (∃ user ∈ users, request = removal user) ∨ Neutral request

theorem remove_only {allowed : List String → Prop} {user : Int} (removes : allowed (removal user))
    (lists : allowed ["shell", Users.listCommand]) : m.adb.Keeps (Only allowed) UserWork.host (m.remove user) := by
  have device : m.adb.Keeps (Only allowed) id (m.removeFromDevice user) :=
    .bind (shellText_only removes) fun _ => m.waitUntil_only lists _ _
  refine .bind (.still fun _ => rfl) fun _ => ?_
  refine .bind ((outcome_only device).within fun _ _ => rfl) fun _ => ?_
  exact .pure ()

theorem tearDown_only (s : UserWork) :
    ∃ sent, m.adb.Sent s.host sent (m.tearDown.perform s).2.host ∧ ∀ request ∈ sent, Removing s.created request :=
  Adb.Keeps.each (fun user member => m.remove_only (.inl ⟨user, member, rfl⟩) (.inr neutral_list)) s

/-- Whatever the device answers, every user whose creation it confirmed has been asked to be removed after that
by the time tearing down is over, whether or not the creation went on to succeed and whatever became of other
removals. Tearing down asks for the removal of no other users. -/
theorem tearDown_removes_created (h : Host) (operations : List UserOperation) :
    let before := m.after (fresh h) operations
    let left := (m.tearDown.perform before).2
    ∃ sent last, m.adb.Sent h sent before.host ∧ m.adb.Sent before.host last left.host ∧
      (∀ earlier request later user, sent ++ last = earlier ++ request :: later →
        m.adb.Creates (m.adb.after h earlier) request user → removal user ∈ later) ∧
      ∀ command, ["shell", command] ∈ last → Text.startsWith "pm remove-user " command = true →
        ∃ user, ["shell", command] = removal user ∧
          ∃ earlier request later, sent = earlier ++ request :: later ∧
            m.adb.Creates (m.adb.after h earlier) request user := by
  intro before left
  obtain ⟨sent, accounts, removable⟩ := m.after_accounts operations (fresh h) (fresh_removable m.adb h)
  obtain ⟨last, ended⟩ := m.tearDown_keeps before removable
  refine ⟨sent, last, accounts.went, ended.went, ?_, ?_⟩
  · -- A creation that no removal follows would still be remembered.
    intro earlier request later user split creates
    refine Decidable.byContradiction fun kept => ?_
    have remembered : user ∈ left.created :=
      (accounts.trans ended).created_fresh.mpr ⟨earlier, request, later, split, creates, kept⟩
    rw [m.tearDown_created before] at remembered
    cases remembered
  · intro command member removes
    obtain ⟨again, went, only⟩ := m.tearDown_only before
    obtain rfl := went.unique ended.went
    rcases only _ member with ⟨user, remembered, same⟩ | ⟨other, same, -, neutral⟩
    · obtain ⟨earlier, request, later, split, creates, -⟩ := accounts.created_fresh.mp remembered
      exact ⟨user, same, earlier, request, later, split, creates⟩
    · obtain rfl : command = other := by simpa using same
      rw [removes] at neutral
      cases neutral

end UserManager
end DeviceHarness
