import DeviceHarness.Proofs.CommandCalls
import DeviceHarness.Proofs.UserReadiness

/-! Removal of all users but the owner. The first listing alone decides who is to be removed: each removal lists users
of its own while it waits, but whatever becomes of it and of these listings, the next user is removed after it. Neither
this nor any command line for removal asks for the removal of the owner. -/

namespace DeviceHarness

open Reply (User)

namespace Reply

theorem user_fits {line : String} {entry : User} (read : user line = .ok entry) : Integer.fits 32 entry.id = true := by
  unfold user at read
  dsimp only at read
  -- a line with a state is read as one without it, but for the state
  split at read
  iterate 2
    · split at read
      next fits =>
        obtain rfl := Except.ok.inj read
        exact Integer.fits_of_ofText? fits
      next => cases read
  · cases read

theorem users_fit {lines : List String} {entries : List User} (read : users lines = .ok entries) :
    ∀ entry ∈ entries, Integer.fits 32 entry.id = true := by
  induction lines generalizing entries with
  | nil =>
    obtain rfl := Except.ok.inj read
    simp
  | cons line rest ih =>
    obtain ⟨entry, first, read⟩ := bind_ok.mp read
    obtain ⟨more, others, read⟩ := bind_ok.mp read
    obtain rfl := Except.ok.inj read
    exact List.forall_mem_cons.mpr ⟨user_fits first, ih others⟩

theorem userList_fits {reply : String} {entries : List User} (read : userList reply = .ok entries) :
    ∀ entry ∈ entries, Integer.fits 32 entry.id = true := by
  unfold userList at read
  dsimp only at read
  split at read
  · split at read
    · exact users_fit read
    · cases read
  · cases read

end Reply

namespace Adb

/-- Users are asked to be removed one after another, each time with any number of listings after it. -/
inductive RemovedInTurn : List Int → List (List String) → Prop where
  | none : RemovedInTurn [] []
  | next {user users sent} (listings : Nat) (rest : RemovedInTurn users sent) :
      RemovedInTurn (user :: users) (removal user :: List.replicate listings listing ++ sent)

/-- Whoever is listed can be asked to be removed. -/
theorem Lists.removable {adb : Adb} {h : Host} {users : List User} (lists : adb.Lists h users) {user : User}
    (member : user ∈ users) : ∃ c, adb.reply h (removal user.id) = .ok c := by
  obtain ⟨reply, ⟨c, completed, -⟩, read⟩ := lists
  have small := Integer.natAbs_of_fits (Reply.userList_fits read user member)
  have sendable : ∃ d, adb.reply (adb.after h []) (removal user.id) = .ok d :=
    adb.reply_numbered h completed [] (by decide) (by decide) (Nat.lt_of_le_of_lt small (by decide))
  rwa [after_nil] at sendable

theorem listing_ne_removal (user : Int) : listing ≠ removal user := Neutral.ne_removal UserManager.neutral_list user

end Adb

open Adb

namespace UserManager

variable (m : UserManager)

theorem remove_sends {user : Int} {s : UserWork} (sendable : ∃ c, m.adb.reply s.host (removal user) = .ok c) :
    ∃ listings, m.adb.Sent s.host (removal user :: List.replicate listings listing) ((m.remove user).perform s).2.host := by
  rw [perform_remove]
  rcases @removeFromDevice_sends m (· = listing) rfl user s.host with ⟨⟨e, failed⟩, -⟩ | ⟨later, went, only⟩
  · obtain ⟨c, completed⟩ := sendable
    cases failed.symm.trans completed
  · rw [List.eq_replicate_of_mem only] at went
    exact ⟨_, went⟩

/-- Removals go on to the last user, whatever becomes of each. -/
theorem each_remove_sends (users : List Int) (s : UserWork)
    (sendable : ∀ user ∈ users, ∃ c, m.adb.reply s.host (removal user) = .ok c) :
    ((Action.each m.remove users).perform s).1 = .ok () ∧ ∃ sent,
      m.adb.Sent s.host sent ((Action.each m.remove users).perform s).2.host ∧ RemovedInTurn users sent := by
  induction users generalizing s with
  | nil => exact ⟨rfl, [], .refl, .none⟩
  | cons user rest ih =>
    obtain ⟨listings, removed⟩ := m.remove_sends (sendable user List.mem_cons_self)
    have performed : (m.remove user).perform s = (.ok (), ((m.remove user).perform s).2) := rfl
    rw [Action.each, Action.perform_bind, performed]
    dsimp only
    obtain ⟨done, sent, went, inTurn⟩ := ih ((m.remove user).perform s).2 fun other member =>
      (removed.sendable_iff _).mpr (sendable other (List.mem_cons_of_mem _ member))
    exact ⟨done, _, removed.trans went, .next listings inTurn⟩

variable {m} {w : UserWork}

theorem perform_removeAllSecondary (w : UserWork) : m.removeAllSecondary.perform w =
    match m.list.perform w.host with
    | (.ok users, left) => (Action.each m.remove ((users.map User.id).filter (· != Users.owner))).perform ⟨left, w.created⟩
    | (.error e, left) => (.error e, ⟨left, w.created⟩) := by
  have listed : (onHost m.list).perform w = ((m.list.perform w.host).1, ⟨(m.list.perform w.host).2, w.created⟩) := rfl
  rw [removeAllSecondary, Action.perform_bind, listed]
  generalize m.list.perform w.host = performed
  obtain ⟨result, left⟩ := performed
  cases result <;> rfl

theorem removeAllSecondary_listed {users : List User} (lists : m.adb.Lists w.host users) :
    (m.removeAllSecondary.perform w).1 = .ok () ∧ ∃ sent,
      m.adb.Sent w.host (listing :: sent) (m.removeAllSecondary.perform w).2.host ∧
      RemovedInTurn ((users.map User.id).filter (· ≠ Users.owner)) sent := by
  obtain ⟨performed, asked⟩ := m.perform_list_of_lists lists
  have secondary : (users.map User.id).filter (· ≠ Users.owner) = (users.map User.id).filter (· != Users.owner) :=
    List.filter_congr fun id _ => decide_not
  rw [perform_removeAllSecondary, performed, secondary]
  dsimp only
  obtain ⟨done, sent, went, inTurn⟩ := m.each_remove_sends ((users.map User.id).filter (· != Users.owner))
    ⟨m.adb.after w.host [listing], w.created⟩ (by
      intro id member
      obtain ⟨user, listed, rfl⟩ := List.mem_map.mp (List.mem_filter.mp member).1
      exact (asked.sendable_iff _).mpr (lists.removable listed))
  exact ⟨done, sent, asked.trans went, inTurn⟩

theorem removeAllSecondary_unlisted {e : Error} (failed : (m.list.perform w.host).1 = .error e) :
    (m.removeAllSecondary.perform w).1 = .error e ∧ ∃ asked,
      m.adb.Sent w.host (List.replicate asked listing) (m.removeAllSecondary.perform w).2.host := by
  have unlisted : ∀ users, ¬ m.adb.Lists w.host users := by
    intro users lists
    rw [(m.perform_list_of_lists lists).1] at failed
    cases failed
  obtain ⟨other, asked, left, performed, sent⟩ := m.perform_list_of_not_lists unlisted
  rw [performed] at failed
  obtain rfl := Except.error.inj failed
  rw [perform_removeAllSecondary, performed]
  exact ⟨rfl, asked, sent⟩

theorem removeAllSecondary_only {allowed : List String → Prop} (lists : allowed listing)
    (removes : ∀ user ≠ Users.owner, allowed (removal user)) :
    m.adb.Keeps (Only allowed) UserWork.host m.removeAllSecondary := by
  refine .bind ((m.list_only lists).within fun _ _ => rfl) fun users => .each fun user member => ?_
  have secondary : user ≠ Users.owner := bne_iff_ne.mp (List.mem_filter.mp member).2
  exact m.remove_only (removes user secondary) lists

end UserManager

namespace CommandLine

/-- A command that removes users. -/
def Command.RemovesUsers : Command → Prop
  | .user (.remove _) | .user .removeAll => True
  | _ => False

variable {allowed : Invocation → Prop}

/-- Work with users makes the calls that its requests lead to. -/
theorem onUsers_calls {adb : Adb} {α : Type} {work : Action UserWork α}
    (kept : adb.Keeps (Only fun request => ∀ h, allowed (adb.invocation h request)) UserWork.host work) :
    Task.Calls allowed (onUsers work) := by
  refine .onHost fun h => ?_
  obtain ⟨sent, went, held⟩ := kept ⟨h, []⟩
  refine Host.Calls.adds ⟨_, went.called, ?_⟩
  intro call member
  obtain ⟨request, sentOne, rfl⟩ := List.mem_map.mp member
  exact held request sentOne h

/-- Not told to remove the owner. -/
def Spares (call : Invocation) : Prop := ¬ call.Tells (Users.removeCommand Users.owner)

theorem spares_shell {adb : Adb} {command : String} (other : ["shell", command] ≠ removal Users.owner) (h : Host) :
    Spares (adb.invocation h ["shell", command]) := by
  intro tells
  rw [shell_tells.mp tells] at other
  exact other rfl

theorem user_spares {request : UserRequest} (removal : (Command.user request).RemovesUsers) :
    Task.Calls Spares (user request) := by
  have lists (adb : Adb) (h : Host) : Spares (adb.invocation h listing) := spares_shell (listing_ne_removal _) h
  have removes (adb : Adb) (id : Int) (other : id ≠ Users.owner) (h : Host) : Spares (adb.invocation h (Adb.removal id)) :=
    spares_shell (removal_inj.not.mpr other) h
  refine .bind (connect_calls Invocation.not_tells_devices) fun adb => .bind (.looksUp Bench.harnessSettings_looksUp) fun settings => ?_
  cases request with
  | remove id =>
    dsimp only
    split
    · exact .fail _
    next other => exact onUsers_calls (UserManager.remove_only _ (removes adb id other) (lists adb))
  | removeAll => exact onUsers_calls (UserManager.removeAllSecondary_only (lists adb) (removes adb))
  | _ => exact removal.elim

/-! Command lines that are read as such a command. -/

theorem build_of_readCommand {α : Type} {g : Grammar} {words : List String} {build : Matches → Option α} {a : α}
    (read : readCommand g words build = .ok a) : ∃ m, build m = some a := by
  obtain ⟨reading, -, read⟩ := bind_ok.mp read
  obtain ⟨m, -, read⟩ := bind_ok.mp read
  refine ⟨m, ?_⟩
  split at read
  next built => rw [built, Except.ok.inj read]
  next => cases read

theorem removeRequest?_removes {m : Matches} {request : UserRequest} (built : removeRequest? m = some request) :
    (Command.user request).RemovesUsers := by
  unfold removeRequest? at built
  split at built
  · obtain rfl := Option.some.inj built
    trivial
  · obtain rfl := Option.some.inj built
    trivial
  · cases built

theorem read_user (h : Host) (rest : List String) :
    read h ("user" :: rest) = readUser rest >>= fun command => pure ⟨loggingOf .nothing, command⟩ := by
  unfold read
  rw [Grammar.read_inner (by decide)]
  rfl

theorem readUser_remove (rest : List String) : readUser ("remove" :: rest) =
    readCommand (idGrammar [flag "all" (some 'a')]) rest removeRequest? >>= fun request => pure (.user request) := by
  unfold readUser
  rw [Grammar.read_inner (by decide)]
  rfl

theorem removesUsers_of_read {h : Host} {rest : List String} {request : Request}
    (line : read h ("user" :: "remove" :: rest) = .ok request) : request.command.RemovesUsers := by
  rw [read_user, readUser_remove] at line
  obtain ⟨command, inner, line⟩ := bind_ok.mp line
  obtain ⟨removal, removed, same⟩ := bind_ok.mp inner
  obtain rfl := Except.ok.inj same
  obtain rfl := Except.ok.inj line
  obtain ⟨m, built⟩ := build_of_readCommand removed
  exact removeRequest?_removes built

end CommandLine

open CommandLine

/-- All listed users but the owner are removed, once for each entry of the first listing and in its order, and that never
fails. Without that listing none is removed. The owner is never removed, not by a command line for removal either. -/
theorem secondary_users_removed :
    (∀ (m : UserManager) (w : UserWork) (users : List User), m.adb.Lists w.host users →
      (m.removeAllSecondary.perform w).1 = .ok () ∧ ∃ sent,
        m.adb.Sent w.host (listing :: sent) (m.removeAllSecondary.perform w).2.host ∧
        RemovedInTurn ((users.map User.id).filter (· ≠ Users.owner)) sent) ∧
    (∀ (m : UserManager) (w : UserWork) (e : Error), (m.list.perform w.host).1 = .error e →
      (m.removeAllSecondary.perform w).1 = .error e ∧ ∃ asked,
        m.adb.Sent w.host (List.replicate asked listing) (m.removeAllSecondary.perform w).2.host) ∧
    (∀ (m : UserManager) (w : UserWork), ∃ sent,
      m.adb.Sent w.host sent (m.removeAllSecondary.perform w).2.host ∧ removal Users.owner ∉ sent) ∧
    (∀ (build : Build) (words : List String) (h : Host),
      (∀ request, read h words = .ok request → request.command.RemovesUsers) →
      h.Adds Spares (execute build words h).2) ∧
    ∀ (h : Host) (rest : List String) (request : Request),
      read h ("user" :: "remove" :: rest) = .ok request → request.command.RemovesUsers := by
  refine ⟨?_, ?_, ?_, ?_, ?_⟩
  · intro m w users lists
    exact UserManager.removeAllSecondary_listed lists
  · intro m w e failed
    exact UserManager.removeAllSecondary_unlisted failed
  · intro m w
    have others : m.adb.Keeps (Only (· ≠ removal Users.owner)) UserWork.host m.removeAllSecondary :=
      UserManager.removeAllSecondary_only (listing_ne_removal _) fun user other => removal_inj.not.mpr other
    obtain ⟨sent, went, only⟩ := others w
    exact ⟨sent, went, fun member => only _ member rfl⟩
  · intro build words h removes
    refine execute_adds fun request line => ?_
    have removal := removes request line
    obtain ⟨logging, command⟩ := request
    cases command with
    | user request => exact user_spares removal
    | _ => exact removal.elim
  · intro h rest request line
    exact removesUsers_of_read line

/-- A host whose device lists three users once and then nothing that makes sense, and that loses one removal. -/
def Host.listingOnce : Host where
  environment := []
  accountHome := none
  files := ⟨[(["adb"], .program)]⟩
  workdir := []
  respond history call :=
    if call.args = ["shell", "pm remove-user 10"] then ⟨.exited 1, "", "error: device offline"⟩
    else if history.isEmpty then
      ⟨.exited 0, "Users:\n\tUserInfo\x7b0:Owner:13\x7d running\n\tUserInfo\x7b10:A:0\x7d\n\tUserInfo\x7b11:B:0\x7d\n", ""⟩
    else ⟨.exited 0, "", "Killed"⟩
  history := []
  clock := 0

theorem secondary_users_removed_two :
    let m : UserManager := ⟨⟨"/adb", none⟩, ⟨0, 0, 0⟩⟩
    let users : List User := [⟨0, "Owner", true⟩, ⟨10, "A", false⟩, ⟨11, "B", false⟩]
    let later := m.adb.after .listingOnce [listing]
    (m.adb.Lists .listingOnce users ∧ (m.removeAllSecondary.perform (.fresh .listingOnce)).1 = .ok () ∧ ∃ sent,
      m.adb.Sent .listingOnce (listing :: sent) (m.removeAllSecondary.perform (.fresh .listingOnce)).2.host ∧
      RemovedInTurn [10, 11] sent) ∧
    (∃ e, (m.list.perform later).1 = .error e ∧ (m.removeAllSecondary.perform (.fresh later)).1 = .error e) ∧
    ∀ build rest, Host.listingOnce.Adds Spares (execute build ("user" :: "remove" :: rest) .listingOnce).2 := by
  intro m users later
  obtain ⟨listed, unlisted, -, spared, lines⟩ := secondary_users_removed
  have lists : m.adb.Lists .listingOnce users := by
    let c := Host.listingOnce.respond [] ⟨"adb", listing⟩
    have completed : m.adb.reply .listingOnce listing = .ok c := by decide +kernel
    have read : Reply.userList (c.out ++ c.err) = .ok users := by decide +kernel
    exact ⟨_, ⟨c, completed, rfl, .inl rfl, rfl⟩, read⟩
  refine ⟨⟨lists, listed m (.fresh .listingOnce) users lists⟩, ?_, ?_⟩
  · have failed : (m.list.perform later).1 =
        .error (.assertion "expected `pm list users` output to start with `Users:`, got: Killed") := by decide +kernel
    exact ⟨_, failed, (unlisted m (.fresh later) _ failed).1⟩
  · intro build rest
    exact spared build _ _ (lines _ rest)

end DeviceHarness
