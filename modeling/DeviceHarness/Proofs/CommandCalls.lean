import DeviceHarness.CommandLine.Program
import DeviceHarness.Proofs.AsideCalls
import DeviceHarness.Proofs.TaskRelations

/-! The calls that a command line leads to. A command is made of work on the bench, and while it is carried out the
history only grows, by the calls that its parts make. -/

namespace DeviceHarness

open Bench (LooksUp)

namespace Host

/-- The history has grown by calls of a certain kind. -/
def Adds (allowed : Invocation → Prop) (h left : Host) : Prop :=
  ∃ calls, left.history = h.history ++ calls ∧ ∀ call ∈ calls, allowed call

variable {allowed : Invocation → Prop} {h mid left : Host}

theorem Adds.still (same : left.history = h.history) : h.Adds allowed left := ⟨[], by simp [same], by simp⟩

theorem Adds.trans (first : h.Adds allowed mid) (rest : mid.Adds allowed left) : h.Adds allowed left := by
  obtain ⟨calls, grown, held⟩ := first
  obtain ⟨more, grownOn, heldOn⟩ := rest
  refine ⟨calls ++ more, ?_, List.forall_mem_append.mpr ⟨held, heldOn⟩⟩
  rw [grownOn, grown, List.append_assoc]

theorem Calls.adds (made : h.Calls allowed left) : h.Adds allowed left := by
  obtain ⟨calls, called, held⟩ := made
  exact ⟨calls, congrArg Host.history called, held⟩

end Host

/-- A client that lists the devices is told no shell command. -/
theorem Invocation.not_tells_devices {command : String} (name : String) :
    ¬ (⟨name, ["devices", "-l"]⟩ : Invocation).Tells command := by
  rintro ⟨front, same⟩
  change [] ++ ["devices", "-l"] = _ at same
  obtain ⟨-, ends⟩ := List.append_inj' same rfl
  exact absurd (List.cons.inj ends).1 (by decide)

theorem Adb.connectedDevices_calls {allowed : Invocation → Prop} (adb : Adb)
    (allows : ∀ name, allowed ⟨name, ["devices", "-l"]⟩) : Action.Leads (Host.Calls allowed) adb.connectedDevices := by
  -- the devices are listed by a client that names none of them
  have listed : Action.Leads (Host.Calls allowed) (Adb.request ⟨adb.program, none⟩ ["devices", "-l"]) :=
    request_calls fun h => allows _
  refine listed.bind fun c => ?_
  split
  · exact .throw _
  · exact .pure _

namespace CommandLine

variable {allowed : Invocation → Prop} {α β : Type}

/-- All calls that were made in between are of a certain kind. -/
def Console.Adds (allowed : Invocation → Prop) (console left : Console) : Prop :=
  console.bench.host.Adds allowed left.bench.host

instance : Std.Refl (Console.Adds allowed) := ⟨fun _ => .still rfl⟩

instance : IsTrans Console (Console.Adds allowed) := ⟨fun _ _ _ => .trans⟩

/-- All calls that a task has the host make are of a certain kind. -/
abbrev Task.Calls (allowed : Invocation → Prop) (task : Task α) : Prop := Task.Leads (Console.Adds allowed) task

namespace Task

theorem Calls.bind {task : Task α} {next : α → Task β} (first : Calls allowed task)
    (rest : ∀ value, Calls allowed (next value)) : Calls allowed (task >>= next) := Leads.bind first rest

theorem Calls.onBench {work : Action Bench α} (adds : ∀ b : Bench, b.host.Adds allowed (work.perform b).2.host) :
    Calls allowed (Task.onBench work) := Leads.onBench fun console => adds console.bench

theorem Calls.onHost {work : Action Host α} (adds : ∀ h : Host, h.Adds allowed (work.perform h).2) :
    Calls allowed (Task.onHost work) := .onBench fun b => adds b.host

theorem Calls.looksUp {work : Action Bench α} (looks : LooksUp work) : Calls allowed (Task.onBench work) :=
  .onBench fun b => (looks.calls b).adds

end Task

theorem connect_calls (allows : ∀ name, allowed ⟨name, ["devices", "-l"]⟩) : Task.Calls allowed connect := by
  refine .bind (.looksUp Bench.find_looksUp) fun adb => ?_
  refine .bind (.onHost fun h => (adb.connectedDevices_calls allows h).adds) fun devices => ?_
  exact .bind (checkChoice_leads adb devices) fun _ => .pure adb

/-- The calls of a command line are those of the command that it is read as. Without one there are none. -/
theorem execute_adds {build : Build} {words : List String} {h : Host}
    (made : ∀ request, read h words = .ok request → Task.Calls allowed (taskOf build request.command)) :
    h.Adds allowed (execute build words h).2 := by
  unfold execute
  cases line : read h words with
  | error halt => exact .still rfl
  | ok request =>
    have carried : Task.Calls allowed (carryOut build request) := by
      unfold carryOut
      split
      · have creates (folder : String) : Task.Calls allowed (Task.onHost (Host.createFolders folder).outcome) :=
          .onHost fun h => .still rfl
        exact (request.logging.start_leads creates).bind fun _ => made request line
      · exact made request line
    exact carried ⟨.ofHost h, ""⟩

end CommandLine
end DeviceHarness
