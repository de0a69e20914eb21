import DeviceHarness.CommandLine.Tasks
import DeviceHarness.Proofs.DeviceAccess
import DeviceHarness.Proofs.DeviceListing

/-! Which device the commands work with. The serial is that of the configuration, or else that of the environment.
Before a command starts the devices are listed: without a serial there has to be just one, but with a serial any
device will do, whether or not it is the one that is named. -/

namespace DeviceHarness

open Toml (valueAt? textAt?)

namespace Bench

/-- The configuration of the project, if it is known or can be read. -/
def knownConfig? (b : Bench) : Option Config :=
  match b.findings.config with
  | some config => config
  | none => b.host.readConfig.toOption.join

/-- The serial that the configuration names, or else the environment. -/
def namedSerial? (b : Bench) : Option String :=
  (b.knownConfig?.bind fun c => textAt? ["device", "adb", "serial"] c.table).or
    (b.host.envValue? Adb.serialVariable)

theorem config_outcome (b : Bench) :
    ∃ result left, config.perform b = (result, left) ∧ left.host = b.host ∧ b.knownConfig? = result.toOption.join := by
  rw [perform_config, knownConfig?]
  cases b.findings.config with
  | some config => exact ⟨_, b, rfl, rfl, rfl⟩
  | none => cases b.host.readConfig <;> exact ⟨_, _, rfl, rfl, rfl⟩

end Bench

theorem Config.device_serial {c : Config} {settings : DeviceSettings} (read : c.device = .ok settings) :
    settings.adb.bind AdbSettings.serial = textAt? ["device", "adb", "serial"] c.table := by
  rw [device_eq] at read
  cases bad : firstMistyped? c.table with
  | some key =>
    rw [bad] at read
    cases read
  | none =>
    rw [bad] at read
    obtain rfl := Except.ok.inj read
    dsimp only
    cases adb : valueAt? ["device", "adb"] c.table with
    | some _ => rfl
    | none =>
      rw [textAt?_outside adb]
      rfl

namespace Adb

variable {b left : Bench} {adb : Adb}

theorem ofEnvironment_serial (found : ofEnvironment.perform b = (.ok adb, left)) :
    adb.serial = b.host.envValue? serialVariable := by
  obtain ⟨program, mid, located, rest⟩ := Action.perform_bind_eq_ok.mp found
  have looked := Bench.program_looksUp "adb" b
  rw [located] at looked
  obtain rfl := Except.ok.inj (Prod.mk.inj rest).1
  exact congrArg (·.envValue? serialVariable) looked.host

/-- The program first, and then the serial. -/
theorem ofSettings_eq (settings : AdbSettings) : ofSettings settings = (do
    let program ← settings.executable.elim (Bench.program "adb") pure
    let serial ← settings.serial.elim (Bench.look (·.host.envValue? serialVariable)) (pure ∘ some)
    return ⟨program, serial⟩) := by
  unfold ofSettings
  cases settings.executable <;> cases settings.serial <;> rfl

theorem ofSettings_serial {settings : AdbSettings} (found : (ofSettings settings).perform b = (.ok adb, left)) :
    adb.serial = settings.serial.or (b.host.envValue? serialVariable) := by
  rw [ofSettings_eq] at found
  obtain ⟨program, mid, located, rest⟩ := Action.perform_bind_eq_ok.mp found
  obtain ⟨serial, last, named, made⟩ := Action.perform_bind_eq_ok.mp rest
  obtain rfl := Except.ok.inj (Prod.mk.inj made).1
  have same : mid.host = b.host := by
    cases said : settings.executable with
    | some path =>
      rw [said] at located
      obtain rfl := (Prod.mk.inj located).2
      rfl
    | none =>
      have looked := Bench.program_looksUp "adb" b
      rw [said, Option.elim_none] at located
      rw [located] at looked
      exact looked.host
  rw [← same]
  generalize settings.serial = said at named ⊢
  cases said <;> exact (Except.ok.inj (Prod.mk.inj named).1).symm

theorem ofDevice_serial {settings : DeviceSettings} (found : (ofDevice settings).perform b = (.ok adb, left)) :
    adb.serial = (settings.adb.bind AdbSettings.serial).or (b.host.envValue? serialVariable) := by
  unfold ofDevice at found
  split at found
  · cases found
  · split at found
    next settings present =>
      rw [present]
      exact ofSettings_serial found
    next absent =>
      rw [absent]
      exact ofEnvironment_serial found

theorem find_serial (found : find.perform b = (.ok adb, left)) : adb.serial = b.namedSerial? := by
  obtain ⟨result, mid, read, same, known⟩ := b.config_outcome
  rw [find, Action.perform_bind, Action.perform_outcome, read] at found
  rw [Bench.namedSerial?, known, ← same]
  dsimp only at found
  split at found
  next c =>
    obtain ⟨settings, _, said, rest⟩ := Action.perform_bind_eq_ok.mp found
    rw [Action.perform_ofResult] at said
    obtain ⟨read, rfl⟩ := Prod.mk.inj said
    rw [ofDevice_serial rest, Config.device_serial read]
    rfl
  next unsaid =>
    have unknown : result.toOption.join = none := by
      cases result with
      | error e => rfl
      | ok config =>
        cases config with
        | none => rfl
        | some c => exact absurd rfl (unsaid c)
    rw [unknown]
    exact ofEnvironment_serial found

end Adb

/-- The device that is meant is connected: the one with this serial, or without a serial the only one. -/
def Adb.Meant (named : Option String) (connected : List String) : Prop :=
  match named with
  | some serial => serial ∈ connected
  | none => connected.length = 1

instance (named : Option String) (connected : List String) : Decidable (Adb.Meant named connected) :=
  match named with
  | some serial => inferInstanceAs (Decidable (serial ∈ connected))
  | none => inferInstanceAs (Decidable (connected.length = 1))

namespace CommandLine

variable {α β : Type}

/-- Work on the bench fails with its message, and otherwise the task goes on from where it left. -/
theorem Task.onBench_run (work : Action Bench α) (next : α → Task β) (console : Console) :
    (Task.onBench work >>= next).run.run console =
      match work.perform console.bench with
      | (.ok value, left) => (next value).run.run { console with bench := left }
      | (.error e, left) => (.error (.failed e.message []), { console with bench := left }) := by
  have ran : (Task.onBench work).run.run console =
      (Task.ofResult (work.perform console.bench).1).run.run { console with bench := (work.perform console.bench).2 } := rfl
  rw [Task.run_bind, ran]
  generalize work.perform console.bench = performed
  obtain ⟨result, left⟩ := performed
  cases result <;> rfl

theorem checkChoice_run (adb : Adb) (devices : List String) (next : Unit → Task β) (console : Console) :
    (checkChoice adb devices >>= next).run.run console =
      if adb.serial = none ∧ 1 < devices.length then
        (.error (.failed ("multiple devices connected (" ++ commaSeparated devices ++
          "), set ANDROID_SERIAL or the device.adb.serial config") []), console)
      else (next ()).run.run console := by
  unfold checkChoice
  cases adb.serial with
  | some serial => rfl
  | none =>
    by_cases several : 1 < devices.length
    · simp only [several, Option.isNone_none, Bool.true_and, decide_true, if_true, and_self]
      rfl
    · simp only [several, Option.isNone_none, Bool.true_and, decide_false, Bool.false_eq_true, if_false, and_false]
      rfl

/-- With a client at hand, a command gets it if the devices can be listed and the listing will do. -/
theorem connect_ok_of_find {console : Console} {adb chosen : Adb} {left : Bench}
    (found : Adb.find.perform console.bench = (.ok adb, left)) :
    (connect.run.run console).1 = .ok chosen ↔
      chosen = adb ∧ ∃ c last, (Host.run adb.program ["devices", "-l"]).perform left.host = (.ok c, last) ∧
        Adb.listedSerials c.out ≠ [] ∧ ¬ (adb.serial = none ∧ 1 < (Adb.listedSerials c.out).length) := by
  unfold connect Task.onHost
  rw [Task.onBench_run, found]
  dsimp only
  rw [Task.onBench_run, Bench.perform_onHost, Adb.perform_connectedDevices]
  generalize (Host.run adb.program ["devices", "-l"]).perform left.host = listed
  obtain ⟨result, last⟩ := listed
  cases result with
  | error e =>
    refine iff_of_false nofun ?_
    rintro ⟨-, c, _, ⟨⟩, -⟩
  | ok c =>
    dsimp only
    by_cases empty : Adb.listedSerials c.out = []
    · rw [if_pos empty]
      refine iff_of_false nofun ?_
      rintro ⟨-, _, _, ⟨⟩, filled, -⟩
      exact filled empty
    · rw [if_neg empty]
      dsimp only
      rw [checkChoice_run]
      split
      next several =>
        refine iff_of_false nofun ?_
        rintro ⟨-, _, _, ⟨⟩, -, single⟩
        exact single several
      next single =>
        constructor
        · intro got
          exact ⟨(Except.ok.inj got).symm, c, last, rfl, empty, single⟩
        · rintro ⟨rfl, -⟩
          rfl

/-- What the commands ask of a listing: it is not empty, and without a serial it has one device only. A listing that
has what is meant will do, but so will one that lacks the device that is named. -/
theorem goodListing_iff (named : Option String) (connected : List String) :
    connected ≠ [] ∧ ¬ (named = none ∧ 1 < connected.length) ↔
      Adb.Meant named connected ∨ ∃ serial, named = some serial ∧ serial ∉ connected ∧ connected ≠ [] := by
  cases named with
  | none =>
    rw [← List.length_pos_iff]
    simp only [Adb.Meant, reduceCtorEq, false_and, exists_false, or_false, true_and]
    omega
  | some serial =>
    by_cases there : serial ∈ connected
    · simp [Adb.Meant, there, List.ne_nil_of_mem there]
    · simp [Adb.Meant, there]

/-- A command gets a client exactly if the listing of the devices has the one that is meant, or if it has other devices
in place of the one that is named. -/
theorem connect_ok_iff (console : Console) (chosen : Adb) :
    let named := console.bench.namedSerial?
    (connect.run.run console).1 = .ok chosen ↔
      ∃ left c last, Adb.find.perform console.bench = (.ok chosen, left) ∧ chosen.serial = named ∧
        (Host.run chosen.program ["devices", "-l"]).perform left.host = (.ok c, last) ∧
        let connected := Adb.listedSerials c.out
        (Adb.Meant named connected ∨ ∃ serial, named = some serial ∧ serial ∉ connected ∧ connected ≠ []) := by
  intro named
  simp only [← goodListing_iff]
  constructor
  · intro got
    obtain ⟨adb, left, found⟩ : ∃ adb left, Adb.find.perform console.bench = (.ok adb, left) := by
      unfold connect at got
      rw [Task.onBench_run] at got
      split at got
      next adb left found => exact ⟨adb, left, found⟩
      next => cases got
    obtain ⟨rfl, c, last, listed, good⟩ := (connect_ok_of_find found).mp got
    rw [Adb.find_serial found] at good
    exact ⟨left, c, last, found, Adb.find_serial found, listed, good⟩
  · rintro ⟨left, c, last, found, serial, listed, good⟩
    rw [← serial] at good
    exact (connect_ok_of_find found).mpr ⟨rfl, c, last, listed, good⟩

/-- A host on which the listing shows one device, while the environment names another. -/
def hostWithoutNamed : Host where
  environment := [("ANDROID_SERIAL", "gone"), ("PATH", "/bin")]
  accountHome := none
  files := ⟨[(["bin"], .folder), (["bin", "adb"], .program)]⟩
  workdir := []
  respond _ call :=
    if call.args = ["devices", "-l"] then ⟨.exited 0, "List of devices attached\nother device usb:1-1\n", ""⟩
    else ⟨.exited 1, "", "adb: device 'gone' not found\n"⟩
  history := []
  clock := 0

/-- The commands go on with a device that is named but not connected. -/
theorem missing_device_accepted :
    let console : Console := ⟨.ofHost hostWithoutNamed, ""⟩
    let adb : Adb := ⟨"/bin/adb", some "gone"⟩
    (Adb.find.perform console.bench).1.toOption = some adb ∧ console.bench.namedSerial? = some "gone" ∧
      (adb.connectedDevices.perform hostWithoutNamed).1.toOption = some ["other"] ∧
      ¬ Adb.Meant (some "gone") ["other"] ∧ (connect.run.run console).1.toOption = some adb := by
  decide +kernel

end CommandLine
end DeviceHarness
