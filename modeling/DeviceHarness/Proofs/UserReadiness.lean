import DeviceHarness.Proofs.AsideCalls
import DeviceHarness.Proofs.Polling

/-! When users count as ready. A user that was created or started is believed in once the device lists it, so the work
succeeds exactly if the device confirms the command and lists the users until, for the first time, the listing shows
the user as it should be. That listing is the last thing that is asked for. -/

namespace DeviceHarness

open Reply (User)

/-- The reply to a creation that names a user: it begins with the word of success and ends with the id. -/
def Reply.NamesUser (reply : String) (id : Int) : Prop :=
  ∃ between written, Text.words reply = "Success:" :: (between ++ [written]) ∧
    Integer.IsDecimal written.toList id ∧ Integer.fits 32 id = true

theorem Reply.createdUserId_eq_ok {reply : String} {id : Int} : createdUserId reply = .ok id ↔ NamesUser reply id := by
  unfold createdUserId
  constructor
  · intro named
    split at named
    next rest words =>
      split at named
      next => cases named
      next written last =>
        split at named
        next read =>
          obtain rfl := Except.ok.inj named
          obtain ⟨between, rfl⟩ := List.getLast?_eq_some_iff.mp last
          obtain ⟨decimal, fits⟩ := Integer.ofChars?_eq_some.mp read
          exact ⟨between, written, words, decimal, fits⟩
        next => cases named
    next => cases named
  · rintro ⟨between, written, words, decimal, fits⟩
    have read : Integer.ofText? 32 written = some id := Integer.ofChars?_eq_some.mpr ⟨decimal, fits⟩
    rw [words]
    simp [read]

namespace Adb

/-- The request to list the users. -/
def listing : List String := ["shell", Users.listCommand]

/-- The device answers a shell command with this text. -/
def Answers (adb : Adb) (h : Host) (command reply : String) : Prop :=
  ∃ c, adb.reply h ["shell", command] = .ok c ∧ c.Prints reply

/-- The device answers with a well-formed listing of these users. -/
def Lists (adb : Adb) (h : Host) (users : List User) : Prop :=
  ∃ reply, adb.Answers h Users.listCommand reply ∧ Reply.userList reply = .ok users

/-- When users are listed this many times, all listings are well-formed, and exactly the last one is as it should be. -/
def EndsReady (adb : Adb) (h : Host) (ready : List User → Prop) (asked : Nat) : Prop :=
  0 < asked ∧ ∀ i < asked, ∃ users, adb.Lists (adb.after h (List.replicate i listing)) users ∧
    (ready users ↔ i + 1 = asked)

/-- When users are listed this many times, all listings are well-formed, but none is as it should be. -/
def NeverReady (adb : Adb) (h : Host) (holds : List User → Bool) (asked : Nat) : Prop :=
  ∀ i < asked, ∃ users, adb.Lists (adb.after h (List.replicate i listing)) users ∧ holds users = false

/-- A command has the right answer, and is followed by nothing but listings, up to the first one that is as it should
be. -/
structure Confirms (adb : Adb) (h : Host) (command : String) (suits : String → Prop) (ready : List User → Prop)
    (left : Host) : Prop where
  answered : ∃ reply, adb.Answers h command reply ∧ suits reply
  listed : ∃ asked, adb.Sent h (["shell", command] :: List.replicate asked listing) left ∧
    adb.EndsReady (adb.after h [["shell", command]]) ready asked

variable {adb : Adb} {g h left : Host} {command reply other : String} {users more : List User} {c : Completion} {n : Nat}

theorem answers_iff (completed : adb.reply h ["shell", command] = .ok c) :
    adb.Answers h command reply ↔ c.answer command = .ok reply := by
  rw [Completion.answer_eq_ok]
  constructor
  · rintro ⟨d, again, prints⟩
    obtain rfl := Except.ok.inj (completed.symm.trans again)
    exact prints
  · intro prints
    exact ⟨c, completed, prints⟩

theorem not_answers {e : Error} (failed : adb.reply h ["shell", command] = .error e) : ¬ adb.Answers h command reply := by
  rintro ⟨c, completed, -⟩
  cases failed.symm.trans completed

theorem Answers.unique (answers : adb.Answers h command reply) (again : adb.Answers h command other) : reply = other := by
  obtain ⟨c, completed, prints⟩ := answers
  rw [answers_iff completed, Completion.answer_eq_ok] at again
  exact prints.2.2.trans again.2.2.symm

theorem Lists.unique (lists : adb.Lists h users) (again : adb.Lists h more) : users = more := by
  obtain ⟨reply, answers, read⟩ := lists
  obtain ⟨other, answersAgain, readAgain⟩ := again
  obtain rfl := answers.unique answersAgain
  exact Except.ok.inj (read.symm.trans readAgain)

theorem Lists.congr (same : adb.reply g listing = adb.reply h listing) : adb.Lists g users ↔ adb.Lists h users := by
  unfold Lists Answers
  rw [show ["shell", Users.listCommand] = listing from rfl, same]

theorem Sent.lists_iff {sent later : List (List String)} (went : adb.Sent h sent left) :
    adb.Lists (adb.after left later) users ↔ adb.Lists (adb.after h (sent ++ later)) users :=
  Lists.congr (went.reply_after listing)

theorem Sent.endsReady_iff {sent : List (List String)} {ready : List User → Prop} (went : adb.Sent h sent left) :
    adb.EndsReady left ready n ↔ adb.EndsReady (adb.after h sent) ready n := by
  unfold EndsReady
  simp only [went.lists_iff, after_after]

end Adb

open Adb

namespace UserManager

variable (m : UserManager) {h : Host} {users : List User}

theorem perform_list (h : Host) : m.list.perform h =
    match m.adb.reply h listing with
    | .ok c => (c.answer Users.listCommand >>= Reply.userList, m.adb.after h [listing])
    | .error e => (.error e, h) := by
  rw [list, Action.perform_bind_judged Reply.userList fun _ _ => Action.perform_ofResult _ _,
    perform_shellText, listing]
  cases m.adb.reply h ["shell", Users.listCommand] <;> rfl

theorem lists_iff {c : Completion} (completed : m.adb.reply h listing = .ok c) :
    m.adb.Lists h users ↔ (c.answer Users.listCommand >>= Reply.userList) = .ok users := by
  rw [bind_ok]
  simp only [Adb.Lists, answers_iff completed]

theorem perform_list_of_lists (lists : m.adb.Lists h users) :
    m.list.perform h = (.ok users, m.adb.after h [listing]) ∧ m.adb.Sent h [listing] (m.adb.after h [listing]) := by
  obtain ⟨c, completed⟩ : ∃ c, m.adb.reply h listing = .ok c := by
    obtain ⟨reply, ⟨c, completed, -⟩, -⟩ := lists
    exact ⟨c, completed⟩
  refine ⟨?_, .one completed⟩
  rw [perform_list, completed]
  dsimp only
  rw [(m.lists_iff completed).mp lists]

/-- Without a well-formed listing the listing fails, whether or not it could be asked for. -/
theorem perform_list_of_not_lists (unlisted : ∀ users, ¬ m.adb.Lists h users) :
    ∃ e asked left, m.list.perform h = (.error e, left) ∧ m.adb.Sent h (List.replicate asked listing) left := by
  rw [perform_list]
  cases completed : m.adb.reply h listing with
  | error e => exact ⟨e, 0, h, rfl, .refl⟩
  | ok c =>
    dsimp only
    cases read : c.answer Users.listCommand >>= Reply.userList with
    | error e => exact ⟨e, 1, _, rfl, .one completed⟩
    | ok users => exact absurd ((m.lists_iff completed).mpr read) (unlisted users)

section Waiting

variable (holds : List User → Bool) (h : Host)

/-- The check of a wait. -/
def check : Action Host Bool := do return holds (← m.list)

/-- The host before a check, when none before it settled the matter. -/
def hostBefore (i : Nat) : Host := (WaitPolicy.watch h.clock (m.check holds)).left m.wait h i

theorem check_cases :
    (∃ users, m.adb.Lists h users ∧ (m.check holds).perform h = (.ok (holds users), m.adb.after h [listing]) ∧
      m.adb.Sent h [listing] (m.adb.after h [listing])) ∨
    ((∀ users, ¬ m.adb.Lists h users) ∧
      ∃ e asked left, (m.check holds).perform h = (.error e, left) ∧ m.adb.Sent h (List.replicate asked listing) left) := by
  by_cases listed : ∃ users, m.adb.Lists h users
  · obtain ⟨users, lists⟩ := listed
    obtain ⟨performed, sent⟩ := m.perform_list_of_lists lists
    refine .inl ⟨users, lists, ?_, sent⟩
    rw [check, Action.perform_bind, performed]
    rfl
  · have unlisted : ∀ users, ¬ m.adb.Lists h users := not_exists.mp listed
    obtain ⟨e, asked, left, performed, sent⟩ := m.perform_list_of_not_lists unlisted
    refine .inr ⟨unlisted, e, asked, left, ?_, sent⟩
    rw [check, Action.perform_bind, performed]

variable {holds h} {k : Nat}

theorem lists_hostBefore {i : Nat} (began : m.adb.Sent h (List.replicate i listing) (m.hostBefore holds h i)) :
    m.adb.Lists (m.hostBefore holds h i) users ↔ m.adb.Lists (m.adb.after h (List.replicate i listing)) users :=
  Lists.congr (began.reply_eq listing)

/-- Up to the check that settles the matter nothing but listings was asked for, and no listing would do. -/
theorem sent_hostBefore (settled : (h.course m.wait (m.check holds)).SettledAt m.wait k) {i : Nat} (reached : i ≤ k) :
    m.adb.Sent h (List.replicate i listing) (m.hostBefore holds h i) ∧ m.adb.NeverReady h holds i := by
  induction i with
  | zero => exact ⟨.refl, by simp [NeverReady]⟩
  | succ i ih =>
    obtain ⟨began, earlier⟩ := ih (Nat.le_of_succ_le reached)
    obtain ⟨no, -⟩ := Course.not_settles.mp (settled.first i reached)
    obtain ⟨checked, ran, -, next⟩ := left_succ no
    change (m.check holds).perform (m.hostBefore holds h i) = _ at ran
    rcases m.check_cases holds (m.hostBefore holds h i) with ⟨users, lists, performed, sent⟩ | ⟨-, e, _, _, failed, -⟩
    · obtain ⟨fails, rfl⟩ := Prod.mk.inj (performed.symm.trans ran)
      refine ⟨?_, ?_⟩
      · rw [List.replicate_succ', hostBefore, next]
        exact (began.trans sent).passed _
      · intro j before
        rcases Nat.lt_succ_iff_lt_or_eq.mp before with sooner | rfl
        · exact earlier j sooner
        · exact ⟨users, (m.lists_hostBefore began).mp lists, Except.ok.inj fails⟩
    · cases failed.symm.trans ran

theorem endsReady_settled (earlier : m.adb.NeverReady h holds k)
    (here : m.adb.Lists (m.adb.after h (List.replicate k listing)) users) :
    m.adb.EndsReady h (holds · = true) (k + 1) ↔ holds users = true := by
  constructor
  · rintro ⟨-, each⟩
    obtain ⟨others, lists, ready⟩ := each k (Nat.lt_succ_self k)
    obtain rfl := here.unique lists
    exact ready.mpr rfl
  · intro ready
    refine ⟨Nat.succ_pos k, fun i before => ?_⟩
    rcases Nat.lt_succ_iff_lt_or_eq.mp before with sooner | rfl
    · obtain ⟨others, lists, unready⟩ := earlier i sooner
      exact ⟨others, lists, iff_of_false (Bool.eq_false_iff.mp unready) (by omega)⟩
    · exact ⟨users, here, iff_of_true ready rfl⟩

theorem not_endsReady (earlier : m.adb.NeverReady h holds k)
    (unlisted : ∀ users, ¬ m.adb.Lists (m.adb.after h (List.replicate k listing)) users) (asked : Nat) :
    ¬ m.adb.EndsReady h (holds · = true) (k + asked) := by
  rintro ⟨some, each⟩
  cases asked with
  | zero =>
    -- all listings were well-formed, but none of them would do
    obtain ⟨users, lists, unready⟩ := earlier (k - 1) (by omega)
    obtain ⟨others, again, ready⟩ := each (k - 1) (by omega)
    obtain rfl := lists.unique again
    exact Bool.eq_false_iff.mp unready (ready.mpr (by omega))
  | succ asked =>
    obtain ⟨users, lists, -⟩ := each k (by omega)
    exact unlisted users lists

variable (holds h)

/-- The check that settles the matter decides how the wait ends, and after it only time passes. -/
theorem waitUntil_ends (what : String) : ∃ k result checked time,
    (h.course m.wait (m.check holds)).SettledAt m.wait k ∧
      (m.check holds).perform (m.hostBefore holds h k) = (result, checked) ∧
      ((m.waitUntil what holds).perform h).2 = { checked with clock := time } ∧
      (((m.waitUntil what holds).perform h).1 = .ok () ↔ result = .ok true) := by
  obtain ⟨k, -, settled, performed⟩ := m.waitUntil_course what holds h
  change _ = ((h.course m.wait (m.check holds)).outcome what k,
    (WaitPolicy.watch h.clock (m.check holds)).leftAt m.wait h k) at performed
  obtain ⟨result, checked, ran⟩ : ∃ result checked, (WaitPolicy.watch h.clock (m.check holds)).check.run
    ((WaitPolicy.watch h.clock (m.check holds)).left m.wait h k) = (result, checked) := ⟨_, _, rfl⟩
  have answer : (h.course m.wait (m.check holds)).answer k = result := congrArg Prod.fst ran
  rw [performed, Course.outcome, answer, Watch.leftAt, ran]
  cases result with
  | error e => exact ⟨k, _, checked, checked.clock, settled, ran, rfl, by simp⟩
  | ok ready =>
    cases ready with
    | true => exact ⟨k, _, checked, checked.clock, settled, ran, rfl, by simp⟩
    | false => exact ⟨k, _, checked, checked.clock + 1, settled, ran, rfl, by simp⟩

/-- Users are listed again and again, and that ends well exactly if the last listing is the first that will do. -/
theorem waitUntil_listings (what : String) :
    ∃ asked, m.adb.Sent h (List.replicate asked listing) ((m.waitUntil what holds).perform h).2 ∧
      (((m.waitUntil what holds).perform h).1 = .ok () ↔ m.adb.EndsReady h (holds · = true) asked) := by
  obtain ⟨k, result, checked, time, settled, ran, left, ended⟩ := m.waitUntil_ends holds h what
  obtain ⟨began, earlier⟩ := m.sent_hostBefore settled le_rfl
  rw [left, ended]
  rcases m.check_cases holds (m.hostBefore holds h k) with
    ⟨users, lists, performed, sent⟩ | ⟨unlisted, e, asked, last, failed, sent⟩
  · obtain ⟨rfl, rfl⟩ := Prod.mk.inj (performed.symm.trans ran)
    have went := began.trans sent
    rw [← List.replicate_succ'] at went
    rw [m.lists_hostBefore began] at lists
    refine ⟨k + 1, went.passed time, ?_⟩
    rw [m.endsReady_settled earlier lists, Except.ok.injEq]
  · obtain ⟨rfl, rfl⟩ := Prod.mk.inj (failed.symm.trans ran)
    have went := began.trans sent
    rw [List.replicate_append_replicate] at went
    refine ⟨k + asked, went.passed time, iff_of_false nofun ?_⟩
    exact m.not_endsReady earlier (fun users => (m.lists_hostBefore began).not.mp (unlisted users)) asked

end Waiting

/-! A command, and the wait that follows it. -/

variable {command reply : String} {suits : String → Prop} {c : Completion} {ready : List User → Prop} {left : Host}

/-- What follows a command that has the right answer decides whether its effect is confirmed. -/
theorem waited_iff_confirms {asked : Host} (began : m.adb.Sent h [["shell", command]] asked)
    (answers : m.adb.Answers h command reply) (right : suits reply) (what : String) (holds : List User → Bool) :
    ((m.waitUntil what holds).perform asked).1 = .ok () ↔
      m.adb.Confirms h command suits (holds · = true) ((m.waitUntil what holds).perform asked).2 := by
  obtain ⟨n, sent, ended⟩ := m.waitUntil_listings holds asked what
  have went := began.trans sent
  rw [ended, began.endsReady_iff]
  constructor
  · intro ends
    exact ⟨⟨reply, answers, right⟩, n, went, ends⟩
  · rintro ⟨-, other, again, ends⟩
    have same : n = other := List.replicate_left_injective listing (List.cons.inj (went.unique again)).2
    exact same ▸ ends

theorem not_confirms_of_unsent {e : Error} (failed : m.adb.reply h ["shell", command] = .error e) :
    ¬ m.adb.Confirms h command suits ready left := by
  rintro ⟨⟨reply, answers, -⟩, -⟩
  exact not_answers failed answers

theorem not_confirms_of_answer (completed : m.adb.reply h ["shell", command] = .ok c)
    (wrong : ∀ reply, c.answer command = .ok reply → ¬ suits reply) : ¬ m.adb.Confirms h command suits ready left := by
  rintro ⟨⟨reply, answers, right⟩, -⟩
  exact wrong reply ((answers_iff completed).mp answers) right

theorem start_ok_iff (id : Int) (h : Host) : ((m.start id).perform h).1 = .ok () ↔
    m.adb.Confirms h (Users.startCommand id) ("Success:".toList <+: ·.toList)
      (∃ user ∈ ·, user.id = id ∧ user.running = true) ((m.start id).perform h).2 := by
  have shows : (fun users : List User => ∃ user ∈ users, user.id = id ∧ user.running = true) =
      fun users => (users.any fun user => user.id == id && user.running) = true := by
    funext users
    simp
  rw [start, Action.perform_bind, perform_shellText]
  cases completed : m.adb.reply h ["shell", Users.startCommand id] with
  | error e => exact iff_of_false nofun (m.not_confirms_of_unsent completed)
  | ok c =>
    dsimp only
    cases answer : c.answer (Users.startCommand id) with
    | error e =>
      refine iff_of_false nofun (m.not_confirms_of_answer completed ?_)
      intro reply answered
      cases answer.symm.trans answered
    | ok reply =>
      dsimp only
      have starts : Reply.succeededWithPayload reply = true ↔ "Success:".toList <+: reply.toList :=
        List.isPrefixOf_iff_prefix
      split
      next success =>
        rw [shows]
        exact m.waited_iff_confirms (.one completed) ((answers_iff completed).mpr answer) (starts.mp success) _ _
      next failure =>
        refine iff_of_false nofun (m.not_confirms_of_answer completed ?_)
        intro other answered
        obtain rfl := Except.ok.inj (answer.symm.trans answered)
        exact starts.not.mp failure

theorem named_eq_ok {command : String} {id : Int} :
    named command c = .ok id ↔ ∃ reply, c.answer command = .ok reply ∧ Reply.NamesUser reply id := by
  simp only [← Reply.createdUserId_eq_ok]
  exact bind_ok

theorem map_const_eq_ok {result : Except Error Unit} {user id : Int} :
    (result.map fun _ => user) = .ok id ↔ result = .ok () ∧ user = id := by
  cases result <;> simp [Except.map]

theorem createBy_ok_iff (command : Duration → String) (w : UserWork) (id : Int) :
    ((m.createBy command).perform w).1 = .ok id ↔
      m.adb.Confirms w.host (command w.host.clock) (Reply.NamesUser · id) (∃ user ∈ ·, user.id = id)
        ((m.createBy command).perform w).2.host := by
  have shows (user : Int) : (fun users : List User => ∃ entry ∈ users, entry.id = user) =
      fun users => (users.any (·.id == user)) = true := by
    funext users
    simp
  have registered := m.perform_register command w rfl
  rw [reply_clock] at registered
  rw [createBy_eq, Action.perform_bind, registered]
  generalize command w.host.clock = command
  cases completed : m.adb.reply w.host ["shell", command] with
  | error e => exact iff_of_false nofun (m.not_confirms_of_unsent completed)
  | ok c =>
    have asked : m.adb.Sent w.host [["shell", command]] { m.adb.after w.host [["shell", command]] with
      clock := w.host.clock + 1 } := (Sent.one completed).passed _
    dsimp only
    rw [after_clock]
    cases said : named command c with
    | error e =>
      refine iff_of_false nofun (m.not_confirms_of_answer completed ?_)
      intro reply answered right
      cases said.symm.trans (named_eq_ok.mpr ⟨reply, answered, right⟩)
    | ok user =>
      obtain ⟨reply, answered, names⟩ := named_eq_ok.mp said
      dsimp only
      rw [perform_onHost_then, map_const_eq_ok]
      constructor
      · rintro ⟨waited, rfl⟩
        rw [shows]
        exact (m.waited_iff_confirms asked ((answers_iff completed).mpr answered) names _ _).mp waited
      · intro confirms
        obtain ⟨other, answers, right⟩ := confirms.answered
        have again := named_eq_ok.mpr ⟨other, (answers_iff completed).mp answers, right⟩
        obtain rfl := Except.ok.inj (said.symm.trans again)
        rw [shows] at confirms
        exact ⟨(m.waited_iff_confirms asked ((answers_iff completed).mpr answered) names _ _).mpr confirms, rfl⟩

/-- Users count as ready exactly if the device confirms it: the reply to the command says so, and of the listings that
follow it the last one, and no earlier one, shows the user. -/
theorem ready_iff_listed :
    (∀ w id, (m.create.perform w).1 = .ok id ↔
      m.adb.Confirms w.host (Users.createCommand w.host.clock) (Reply.NamesUser · id) (∃ user ∈ ·, user.id = id)
        (m.create.perform w).2.host) ∧
    (∀ parent w id, ((m.createProfile parent).perform w).1 = .ok id ↔
      m.adb.Confirms w.host (Users.createProfileCommand parent w.host.clock) (Reply.NamesUser · id)
        (∃ user ∈ ·, user.id = id) ((m.createProfile parent).perform w).2.host) ∧
    ∀ id h, ((m.start id).perform h).1 = .ok () ↔
      m.adb.Confirms h (Users.startCommand id) ("Success:".toList <+: ·.toList)
        (∃ user ∈ ·, user.id = id ∧ user.running = true) ((m.start id).perform h).2 :=
  ⟨m.createBy_ok_iff Users.createCommand, fun parent => m.createBy_ok_iff (Users.createProfileCommand parent),
    m.start_ok_iff⟩

end UserManager
end DeviceHarness
