import DeviceHarness.CommandLine.Tasks
import Mathlib.Order.Defs.Unbundled

/-! Relations between the consoles before and after a task, as they are there for other work. -/

namespace DeviceHarness.CommandLine

variable {rel : Console → Console → Prop} {α β : Type}

namespace Task

/-- Wherever the task begins and however it ends, the console that it leaves is related to the one before. -/
def Leads (rel : Console → Console → Prop) (task : Task α) : Prop :=
  ∀ console, rel console (task.run.run console).2

theorem Leads.still [refl : Std.Refl rel] {task : Task α} (same : ∀ console, (task.run.run console).2 = console) :
    Leads rel task := by
  intro console
  rw [same]
  exact refl.refl console

theorem Leads.pure [Std.Refl rel] (value : α) : Leads rel (Pure.pure value : Task α) := .still fun _ => rfl

theorem Leads.throw [Std.Refl rel] (stop : Stop) : Leads rel (MonadExcept.throw stop : Task α) := .still fun _ => rfl

theorem Leads.fail [Std.Refl rel] (message : String) : Leads rel (fail message : Task α) := .throw _

theorem Leads.bind [trans : IsTrans Console rel] {task : Task α} {next : α → Task β} (first : Leads rel task)
    (rest : ∀ value, Leads rel (next value)) : Leads rel (task >>= next) := by
  intro console
  have began := first console
  rw [run_bind]
  generalize task.run.run console = outcome at *
  obtain ⟨result, left⟩ := outcome
  cases result with
  | error stop => exact began
  | ok value => exact trans.trans _ _ _ began (rest value left)

theorem Leads.onBench {work : Action Bench α}
    (updated : ∀ console, rel console { console with bench := (work.perform console.bench).2 }) :
    Leads rel (Task.onBench work) := by
  intro console
  have ran : ((Task.onBench work).run.run console).2 = { console with bench := (work.perform console.bench).2 } := by
    show ((Task.ofResult (work.perform console.bench).1).run.run _).2 = _
    cases (work.perform console.bench).1 <;> rfl
  rw [ran]
  exact updated console

end Task

theorem checkChoice_leads [Std.Refl rel] (adb : Adb) (devices : List String) : Task.Leads rel (checkChoice adb devices) := by
  unfold checkChoice
  split
  · exact .fail _
  · exact .pure ()

/-- Preparing the log creates folders, but does nothing else. -/
theorem Logging.start_leads [Std.Refl rel] [IsTrans Console rel]
    (creates : ∀ folder, Task.Leads rel (Task.onHost (Host.createFolders folder).outcome)) (logging : Logging) : Task.Leads rel logging.start := by
  have required (what spec : String) : Task.Leads rel (Logging.requireSpec what spec) := by
    unfold Logging.requireSpec
    split
    · exact .pure ()
    · exact .throw _
  have checked (h : Host) : Task.Leads rel (logging.checkSpec h) := by
    unfold Logging.checkSpec
    split
    · exact required _ _
    · split
      · split
        · exact required _ _
        · exact .pure ()
      · exact .pure ()
  have opened (folder : String) : Task.Leads rel (Logging.openFolder folder) := by
    refine (creates folder).bind fun result => ?_
    split
    · exact .pure ()
    · exact .throw _
  refine .bind (.still fun _ => rfl) fun console => .bind (checked _) fun _ => ?_
  split
  · exact .pure ()
  · split
    · exact .throw _
    · split
      · exact .throw _
      · exact opened _

end DeviceHarness.CommandLine
