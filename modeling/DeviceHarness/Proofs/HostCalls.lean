import DeviceHarness.Proofs.ActionRelations
import DeviceHarness.Proofs.AdbTraffic

/-! The programs that work has the host run, whichever client they were run by. -/

namespace DeviceHarness

/-- The run is that of a client which is told a shell command. -/
def Invocation.Tells (call : Invocation) (command : String) : Prop := ∃ front, call.args = front ++ ["shell", command]

/-- A call tells one command at most. -/
theorem Invocation.Tells.unique {call : Invocation} {command other : String} (tells : call.Tells command)
    (again : call.Tells other) : command = other := by
  obtain ⟨front, same⟩ := tells
  obtain ⟨start, sameAgain⟩ := again
  obtain ⟨-, ends⟩ := List.append_inj' (same.symm.trans sameAgain) rfl
  simpa using ends

namespace Host

/-- Work that began on `h` has made these calls, and has changed nothing else but the time. -/
def Called (h : Host) (calls : List Invocation) (left : Host) : Prop :=
  left = { h with history := h.history ++ calls, clock := left.clock }

variable {h mid left : Host} {calls more : List Invocation} {allowed : Invocation → Prop}

/-- Nothing but time has passed. -/
theorem Called.passed (time : Duration) : h.Called [] { h with clock := time } := by simp [Called]

theorem Called.refl : h.Called [] h := .passed h.clock

theorem Called.trans (first : h.Called calls mid) (rest : mid.Called more left) : h.Called (calls ++ more) left := by
  unfold Called at *
  rw [first] at rest
  rw [rest]
  simp

/-- The history tells which calls were made. -/
theorem Called.unique (called : h.Called calls left) (again : h.Called more left) : calls = more :=
  List.append_cancel_left ((congrArg Host.history called).symm.trans (congrArg Host.history again))

/-- All calls that work makes are of a certain kind. -/
def Calls (allowed : Invocation → Prop) (h left : Host) : Prop :=
  ∃ calls, h.Called calls left ∧ ∀ call ∈ calls, allowed call

theorem Calls.passed (time : Duration) : h.Calls allowed { h with clock := time } := ⟨[], .passed time, by simp⟩

theorem Calls.refl : h.Calls allowed h := .passed h.clock

theorem Calls.trans (first : h.Calls allowed mid) (rest : mid.Calls allowed left) : h.Calls allowed left := by
  obtain ⟨calls, went, held⟩ := first
  obtain ⟨more, wentOn, heldOn⟩ := rest
  exact ⟨calls ++ more, went.trans wentOn, List.forall_mem_append.mpr ⟨held, heldOn⟩⟩

theorem Calls.mono {more : Invocation → Prop} (made : h.Calls allowed left)
    (implies : ∀ call, allowed call → more call) : h.Calls more left := by
  obtain ⟨calls, called, held⟩ := made
  exact ⟨calls, called, fun call member => implies call (held call member)⟩

instance : Std.Refl (Calls allowed) := ⟨fun _ => .refl⟩

instance : IsTrans Host (Calls allowed) := ⟨fun _ _ _ => .trans⟩

end Host

namespace Adb

variable {adb : Adb} {h left : Host} {sent : List (List String)} {α : Type}

theorem Sent.called (went : adb.Sent h sent left) : h.Called (sent.map (adb.invocation h)) left := went.host

/-- What a request that was sent came to is how the host responds to the call. -/
theorem reply_eq_respond {request : List String} {c : Completion} (completed : adb.reply h request = .ok c) :
    c = h.respond h.history (adb.invocation h request) := by
  simp only [reply, Adb.request, Host.run, Action.perform, ExceptT.run, ExceptT.mk, StateT.run] at completed
  split at completed
  · cases completed
  · split at completed
    · cases completed
    next name found =>
      have call : adb.invocation h request = ⟨name, adb.arguments request⟩ := by
        simp [invocation, found, Except.toOption]
      split at completed
      · cases completed
      · rw [call]
        exact (Except.ok.inj completed).symm

theorem invocation_tells (adb : Adb) (h : Host) (front : List String) {first last command : String} :
    (adb.invocation h (front ++ [first, last])).Tells command ↔ first = "shell" ∧ last = command := by
  unfold Invocation.Tells invocation
  dsimp only
  rw [arguments_eq]
  constructor
  · rintro ⟨other, same⟩
    rw [← List.append_assoc] at same
    obtain ⟨-, ends⟩ := List.append_inj' same rfl
    simpa using ends
  · rintro ⟨rfl, rfl⟩
    exact ⟨adb.arguments [] ++ front, by simp⟩

theorem shell_tells {command other : String} : (adb.invocation h ["shell", command]).Tells other ↔ command = other := by
  have tells : (adb.invocation h ([] ++ ["shell", command])).Tells other ↔ _ := adb.invocation_tells h []
  simpa using tells

/-- Whether a request can be sent is not changed by calls. -/
theorem sendable_called {calls : List Invocation} (called : h.Called calls left) (request : List String) :
    (∃ c, adb.reply left request = .ok c) ↔ ∃ c, adb.reply h request = .ok c := by
  rw [called, reply_isOk, reply_isOk]
  exact Iff.rfl

/-- Work with one client makes the calls that its requests lead to. -/
theorem Keeps.leads_calls {allowed : Invocation → Prop} {work : Action Host α}
    (kept : adb.Keeps (Only fun request => ∀ h, allowed (adb.invocation h request)) id work) :
    Action.Leads (Host.Calls allowed) work := by
  intro h
  obtain ⟨sent, went, held⟩ := kept h
  refine ⟨_, went.called, ?_⟩
  intro call member
  obtain ⟨request, sentOne, rfl⟩ := List.mem_map.mp member
  exact held request sentOne h

theorem request_calls {allowed : Invocation → Prop} {request : List String}
    (allows : ∀ h, allowed (adb.invocation h request)) : Action.Leads (Host.Calls allowed) (adb.request request) := by
  refine Keeps.leads_calls (.request ?_)
  intro h c completed sent member
  obtain rfl := List.mem_singleton.mp member
  exact allows

end Adb
end DeviceHarness
