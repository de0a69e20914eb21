import DeviceHarness.Proofs.AdbSteps

/-! What work sends to a device while time passes. Work leaves the host as it was, but for the clock and
for the requests in its history, whatever the device answers. A rule about requests and about the failure
at their end holds of every program whose parts keep it, so a rule is checked where commands are sent and
nowhere else. -/

namespace DeviceHarness

/-- Why work failed, if it did. -/
def failure? {α : Type} : Except Error α → Option Error
  | .ok _ => none
  | .error e => some e

namespace Adb

section Sent

/-- A request among those of two parts of work is among those of the first or of the second. -/
theorem append_eq_append_cons {α : Type} {sent more before later : List α} {request : α} :
    sent ++ more = before ++ request :: later ↔
      (∃ between, sent = before ++ request :: between ∧ later = between ++ more) ∨
        ∃ between, before = sent ++ between ∧ more = between ++ request :: later := by
  rw [List.append_eq_append_iff]
  constructor
  · rintro (⟨between, rfl, rfl⟩ | ⟨between, rfl, split⟩)
    · exact .inr ⟨between, rfl, rfl⟩
    · cases between with
      | nil => exact .inr ⟨[], by simp, split.symm⟩
      | cons first rest =>
        obtain ⟨rfl, rfl⟩ := List.cons.inj split
        exact .inl ⟨rest, rfl, rfl⟩
  · rintro (⟨between, rfl, rfl⟩ | ⟨between, rfl, rfl⟩)
    · exact .inr ⟨request :: between, rfl, rfl⟩
    · exact .inl ⟨between, rfl, rfl⟩

variable (adb : Adb) (h : Host)

/-- Work that began on `h` has sent these requests, and has changed nothing else but the time. -/
structure Sent (sent : List (List String)) (left : Host) : Prop where
  host : left = { adb.after h sent with clock := left.clock }
  sendable : ∀ request ∈ sent, ∃ c, adb.reply h request = .ok c

theorem arguments_inj {request other : List String} (same : adb.arguments request = adb.arguments other) :
    request = other := by
  unfold arguments at same
  split at same
  · exact (List.cons.inj (List.cons.inj same).2).2
  · exact same

theorem reply_clock (time : Duration) (request : List String) :
    adb.reply { h with clock := time } request = adb.reply h request := by
  have unchanged : (adb.reply h request).map id = adb.reply h request := by
    cases adb.reply h request <;> rfl
  rw [← unchanged]
  exact adb.reply_map h { h with clock := time } id rfl rfl (fun _ => rfl) request

theorem after_clock (time : Duration) (sent : List (List String)) :
    adb.after { h with clock := time } sent = { adb.after h sent with clock := time } := rfl

/-- Whether a request can be sent is not changed by what was sent before. -/
theorem sendable_after (sent : List (List String)) (request : List String) :
    (∃ c, adb.reply (adb.after h sent) request = .ok c) ↔ ∃ c, adb.reply h request = .ok c := by
  rw [reply_isOk, reply_isOk]
  exact Iff.rfl

variable {adb h} {sent more : List (List String)} {left last : Host}

theorem Sent.nothing (same : left = { h with clock := left.clock }) : adb.Sent h [] left where
  host := by rw [after_nil]; exact same
  sendable := by simp

theorem Sent.refl : adb.Sent h [] h := .nothing rfl

theorem Sent.one {request : List String} {c : Completion} (completed : adb.reply h request = .ok c) :
    adb.Sent h [request] (adb.after h [request]) where
  host := rfl
  sendable := by simp [completed]

theorem Sent.reply_eq (first : adb.Sent h sent left) (request : List String) :
    adb.reply left request = adb.reply (adb.after h sent) request := by
  rw [first.host, reply_clock]

theorem Sent.reply_after (first : adb.Sent h sent left) (request : List String) :
    adb.reply (adb.after left more) request = adb.reply (adb.after h (sent ++ more)) request := by
  rw [first.host, after_clock, reply_clock, after_after]

theorem Sent.sendable_iff (first : adb.Sent h sent left) (request : List String) :
    (∃ c, adb.reply left request = .ok c) ↔ ∃ c, adb.reply h request = .ok c := by
  rw [first.reply_eq, sendable_after]

/-- The history tells what was sent. -/
theorem Sent.unique (went : adb.Sent h sent left) (again : adb.Sent h more left) : sent = more := by
  have history : h.history ++ sent.map (adb.invocation h) = h.history ++ more.map (adb.invocation h) :=
    (congrArg Host.history went.host).symm.trans (congrArg Host.history again.host)
  refine List.map_inj_right (fun request other same => ?_) |>.mp (List.append_cancel_left history)
  exact adb.arguments_inj (congrArg Invocation.args same)

theorem Sent.trans (first : adb.Sent h sent left) (rest : adb.Sent left more last) :
    adb.Sent h (sent ++ more) last where
  host := by
    have moved := rest.host
    rw [first.host, after_clock, after_after] at moved
    exact moved
  sendable := by
    intro request member
    rcases List.mem_append.mp member with earlier | later
    · exact first.sendable request earlier
    · exact (first.sendable_iff request).mp (rest.sendable request later)

theorem Sent.passed (first : adb.Sent h sent left) (time : Duration) : adb.Sent h sent { left with clock := time } := by
  have moved := first.trans (.nothing rfl : adb.Sent left [] { left with clock := time })
  rwa [List.append_nil] at moved

end Sent

/-! Rules. -/

/-- What may be asked of the requests that work sends from a host, and of the failure at their end. -/
abbrev Rule := Host → List (List String) → Option Error → Prop

/-- A rule that work keeps if its parts do. Work that sends nothing may fail as it likes. -/
class Composes (adb : Adb) (rule : Rule) : Prop where
  nothing : ∀ h failure, rule h [] failure
  onward : ∀ {h left : Host} {sent more : List (List String)} {failure : Option Error}, adb.Sent h sent left →
    rule h sent none → rule left more failure → rule h (sent ++ more) failure

section Keeps

variable (adb : Adb) (rule : Rule) {σ α β : Type}

/-- Work on a state with a host in it keeps a rule, wherever it begins and whatever the device answers. -/
def Keeps (host : σ → Host) (work : Action σ α) : Prop :=
  ∀ state, ∃ sent, adb.Sent (host state) sent (host (work.perform state).2) ∧
    rule (host state) sent (failure? (work.perform state).1)

variable {adb rule} [composes : adb.Composes rule] {host : σ → Host}

/-- Work that has kept a rule so far keeps it when it then fails without a request. -/
theorem Composes.fails {h left : Host} {sent : List (List String)} (went : adb.Sent h sent left)
    (held : rule h sent none) (failure : Option Error) : rule h sent failure := by
  have ended := composes.onward went held (composes.nothing left failure)
  rwa [List.append_nil] at ended

/-- Work that leaves the host alone, the time aside, keeps every rule. -/
theorem Keeps.still {work : Action σ α}
    (same : ∀ state, host (work.perform state).2 =
      { host state with clock := (host (work.perform state).2).clock }) : adb.Keeps rule host work :=
  fun state => ⟨[], .nothing (same state), composes.nothing ..⟩

theorem Keeps.pure (value : α) : adb.Keeps rule host (Pure.pure value : Action σ α) :=
  .still fun _ => rfl

theorem Keeps.throw (e : Error) : adb.Keeps rule host (MonadExcept.throw e : Action σ α) :=
  .still fun _ => rfl

theorem Keeps.ofResult (result : Except Error α) :
    adb.Keeps rule host (Action.ofResult result : Action σ α) :=
  .still fun _ => rfl

theorem Keeps.bind {work : Action σ α} {next : α → Action σ β} (first : adb.Keeps rule host work)
    (rest : ∀ value, adb.Keeps rule host (next value)) : adb.Keeps rule host (work >>= next) := by
  intro state
  obtain ⟨sent, began, kept⟩ := first state
  rw [Action.perform_bind]
  generalize work.perform state = outcome at *
  obtain ⟨result, left⟩ := outcome
  cases result with
  | error e => exact ⟨sent, began, kept⟩
  | ok value =>
    obtain ⟨more, went, keptOn⟩ := rest value left
    exact ⟨sent ++ more, began.trans went, composes.onward began kept keptOn⟩

theorem Keeps.request {request : List String}
    (sent : ∀ h c, adb.reply h request = .ok c → rule h [request] none) :
    adb.Keeps rule id (adb.request request) := by
  intro h
  rw [perform_request]
  cases completed : adb.reply h request with
  | error e => exact ⟨[], .refl, composes.nothing ..⟩
  | ok c => exact ⟨[request], .one completed, sent h c completed⟩

theorem Keeps.shellText {command : String}
    (sent : ∀ h c, adb.reply h ["shell", command] = .ok c →
      rule h [["shell", command]] (failure? (c.answer command))) :
    adb.Keeps rule id (adb.shellText command) := by
  intro h
  rw [perform_shellText]
  cases completed : adb.reply h ["shell", command] with
  | error e => exact ⟨[], .refl, composes.nothing ..⟩
  | ok c => exact ⟨[["shell", command]], .one completed, sent h c completed⟩

omit composes in
theorem Keeps.within {work : Action Host α} {update : Host → σ → σ} (kept : adb.Keeps rule id work)
    (updated : ∀ h state, host (update h state) = h) : adb.Keeps rule host (work.within host update) := by
  intro state
  obtain ⟨sent, went, rest⟩ := kept (host state)
  refine ⟨sent, ?_, rest⟩
  show adb.Sent (host state) sent (host (update (work.perform (host state)).2 state))
  rw [updated]
  exact went

theorem Keeps.each {work : α → Action σ Unit} {items : List α}
    (kept : ∀ item ∈ items, adb.Keeps rule host (work item)) : adb.Keeps rule host (Action.each work items) := by
  induction items with
  | nil => exact .pure ()
  | cons item rest ih =>
    refine (kept item List.mem_cons_self).bind fun _ => ih ?_
    intro other member
    exact kept other (List.mem_cons_of_mem item member)

end Keeps

/-! Polling. Between checks only time passes. -/

theorem Keeps.poll {adb : Adb} {rule : Rule} [composes : adb.Composes rule] (p : WaitPolicy) (what : String)
    (start : Duration) {check : Action Host Bool} (kept : adb.Keeps rule id check) (rounds attempt : Nat) (h : Host) :
    ∃ sent, adb.Sent h sent ((p.poll what (WaitPolicy.watch start check) rounds attempt).run h).2 ∧
      rule h sent (((p.poll what (WaitPolicy.watch start check) rounds attempt).run h).1.bind failure?) := by
  induction rounds generalizing attempt h with
  | zero => exact ⟨[], .refl, composes.nothing ..⟩
  | succ rounds ih =>
    obtain ⟨sent, began, held⟩ := kept h
    rw [WaitPolicy.run_poll_succ, WaitPolicy.run_check_watch]
    generalize check.perform h = outcome at *
    obtain ⟨result, left⟩ := outcome
    cases result with
    | error e => exact ⟨sent, began, held⟩
    | ok ready =>
      cases ready with
      | true => exact ⟨sent, began, held⟩
      | false =>
        dsimp only [WaitPolicy.run_elapsed_watch, WaitPolicy.run_pause_watch]
        cases p.pause? attempt (left.clock + 1 - start) with
        | none =>
          exact ⟨sent, began.passed (left.clock + 1), composes.fails began held _⟩
        | some time =>
          obtain ⟨more, went, heldOn⟩ := ih (attempt + 1) { left with clock := left.clock + 1 + time }
          exact ⟨sent ++ more, (began.passed _).trans went, composes.onward (began.passed _) held heldOn⟩

theorem Keeps.pollUntil {adb : Adb} {rule : Rule} [composes : adb.Composes rule] (p : WaitPolicy) (what : String)
    {check : Action Host Bool} (kept : adb.Keeps rule id check) : adb.Keeps rule id (p.pollUntil what check) := by
  intro h
  obtain ⟨sent, went, held⟩ := Keeps.poll p what h.clock kept (p.timeout + 1) 1 h
  unfold WaitPolicy.pollUntil
  show ∃ sent, adb.Sent h sent ((p.poll what (WaitPolicy.watch h.clock check) (p.timeout + 1) 1).run h).2 ∧
    rule h sent (failure? (((p.poll what (WaitPolicy.watch h.clock check) (p.timeout + 1) 1).run h).1.getD _))
  refine ⟨sent, went, ?_⟩
  generalize ((p.poll what (WaitPolicy.watch h.clock check) (p.timeout + 1) 1).run h).1 = settled at held ⊢
  cases settled with
  | some result => exact held
  | none => exact composes.fails went held _

/-! Work that sends nothing but certain requests. -/

/-- All requests are of a certain kind, however the work ends. -/
def Only (allowed : List String → Prop) : Rule := fun _ sent _ => ∀ request ∈ sent, allowed request

section Only

variable {adb : Adb} {allowed : List String → Prop} {α β : Type}

instance : adb.Composes (Only allowed) where
  nothing := by
    intro h failure request member
    cases member
  onward := by
    intro h left sent more failure went held heldOn request member
    rcases List.mem_append.mp member with earlier | later
    · exact held request earlier
    · exact heldOn request later

theorem shellText_only {command : String} (allows : allowed ["shell", command]) :
    adb.Keeps (Only allowed) id (adb.shellText command) := by
  refine .shellText ?_
  intro h c completed request member
  obtain rfl := List.mem_singleton.mp member
  exact allows

/-- Work whose failure is only a value has sent what it has sent. -/
theorem outcome_only {work : Action Host α} (kept : adb.Keeps (Only allowed) id work) :
    adb.Keeps (Only allowed) id work.outcome := kept

/-- Work that begins with a shell command sends nothing, or the command and then what follows. -/
theorem shellText_then {command : String} {next : String → Action Host β}
    (rest : ∀ reply, adb.Keeps (Only allowed) id (next reply)) (h : Host) :
    ((∃ e, adb.reply h ["shell", command] = .error e) ∧ ((adb.shellText command >>= next).perform h).2 = h) ∨
      ∃ later, adb.Sent h (["shell", command] :: later) ((adb.shellText command >>= next).perform h).2 ∧
        ∀ request ∈ later, allowed request := by
  rw [Action.perform_bind, perform_shellText]
  cases completed : adb.reply h ["shell", command] with
  | error e => exact .inl ⟨⟨e, rfl⟩, rfl⟩
  | ok c =>
    dsimp only
    cases c.answer command with
    | error e => exact .inr ⟨[], .one completed, by simp⟩
    | ok reply =>
      obtain ⟨later, went, held⟩ := rest reply (adb.after h [["shell", command]])
      exact .inr ⟨later, (Sent.one completed).trans went, held⟩

end Only

end Adb
end DeviceHarness
