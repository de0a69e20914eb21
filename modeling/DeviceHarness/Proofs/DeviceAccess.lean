import DeviceHarness.Proofs.BenchMemory

/-! How the configuration file of a project decides about the client of the device. A key that is of the wrong
type is blamed by its full name, and a project can refuse the device altogether. A file that cannot be read
decides nothing, and then the environment describes the client. -/

namespace DeviceHarness

namespace Toml

/-- The value that keys lead to, each in the table of the one before it. -/
def valueAt? : List String → Table → Option Value
  | [], _ => none
  | [key], t => Dictionary.get? t key
  | key :: rest, t =>
    match Dictionary.get? t key with
    | some (.table entries) => valueAt? rest entries
    | _ => none

def textAt? (path : List String) (t : Table) : Option String :=
  match valueAt? path t with
  | some (.string text) => some text
  | _ => none

inductive Kind where
  | table
  | string
  deriving DecidableEq

namespace Kind

def name : Kind → String
  | table => "table"
  | string => "string"

def admits : Kind → Value → Bool
  | table, .table _ => true
  | string, .string _ => true
  | _, _ => false

end Kind
end Toml

open Toml (Kind valueAt? textAt?)

/-- The keys that describe the client, each after those around it, with the kinds of their values. -/
def deviceKeys : List (List String × Kind) :=
  [(["device"], .table), (["device", "adb"], .table), (["device", "adb", "serial"], .string),
    (["device", "adb", "executable"], .string)]

/-- Whether a key is there with a value of another kind. -/
def mistyped (t : Toml.Table) (key : List String × Kind) : Bool :=
  (valueAt? key.1 t).any fun value => !key.2.admits value

def firstMistyped? (t : Toml.Table) : Option (List String × Kind) := deviceKeys.find? (mistyped t)

/-- The complaint about a key of another kind. -/
def mistypedError (file : String) (key : List String × Kind) : Error :=
  .invalidConfig file
    ("invalid value for key: " ++ String.intercalate "." key.1 ++ " (expected type: " ++ key.2.name ++ ")")

/-- Whether the project says that the device may not be used. -/
def forbidsDevice (t : Toml.Table) : Bool :=
  match valueAt? ["can-adb"] t with
  | some (.boolean false) => true
  | _ => false

namespace Section

theorem invalidKey_eq (s : Section) (key : String) (kind : Kind) :
    s.invalidKey key kind.name = mistypedError s.file (s.path ++ [key], kind) := rfl

theorem optionalSection_eq (s : Section) (key : String) :
    s.optionalSection key = match Dictionary.get? s.table key with
      | none => .ok none
      | some (.table entries) => .ok (some ⟨s.file, s.path ++ [key], entries⟩)
      | some _ => .error (mistypedError s.file (s.path ++ [key], .table)) := by
  rw [← invalidKey_eq]
  unfold optionalSection blame section? typed?
  cases Dictionary.get? s.table key with
  | none => rfl
  | some value => cases value <;> rfl

theorem optionalString_eq (s : Section) (key : String) :
    s.optionalString key =
      if mistyped s.table ([key], .string) then .error (mistypedError s.file (s.path ++ [key], .string))
      else .ok (textAt? [key] s.table) := by
  rw [← invalidKey_eq]
  unfold optionalString blame string? typed? mistyped textAt? valueAt?
  cases Dictionary.get? s.table key with
  | none => rfl
  | some value => cases value <;> rfl

/-- Only the boolean itself forbids. -/
theorem switch_canAdb (s : Section) : s.switch "can-adb" true = !forbidsDevice s.table := by
  unfold switch forbidsDevice valueAt?
  cases Dictionary.get? s.table "can-adb" with
  | none => rfl
  | some value =>
    cases value with
    | boolean b => cases b <;> rfl
    | _ => rfl

end Section

theorem textAt?_outside {t : Toml.Table} (absent : valueAt? ["device", "adb"] t = none) (key : String) :
    textAt? ["device", "adb", key] t = none := by
  unfold textAt? valueAt?
  cases device : Dictionary.get? t "device" with
  | none => rfl
  | some value =>
    cases value with
    | table entries =>
      have missing : Dictionary.get? entries "adb" = none := by simpa [valueAt?, device] using absent
      simp [valueAt?, missing]
    | _ => rfl

namespace Config

theorem adbSettings_eq (s : Section) :
    adbSettings s =
      if mistyped s.table (["serial"], .string) then .error (mistypedError s.file (s.path ++ ["serial"], .string))
      else if mistyped s.table (["executable"], .string) then
        .error (mistypedError s.file (s.path ++ ["executable"], .string))
      else .ok ⟨textAt? ["serial"] s.table, textAt? ["executable"] s.table⟩ := by
  rw [adbSettings, Section.optionalString_eq, Section.optionalString_eq]
  split
  · rfl
  · split <;> rfl

/-- The first key of another kind is the one to blame. -/
theorem device_eq (c : Config) :
    c.device = match firstMistyped? c.table with
      | some key => .error (mistypedError c.file key)
      | none => .ok ⟨!forbidsDevice c.table,
          (valueAt? ["device", "adb"] c.table).map fun _ =>
            ⟨textAt? ["device", "adb", "serial"] c.table, textAt? ["device", "adb", "executable"] c.table⟩⟩ := by
  have root : c.root.table = c.table := rfl
  rw [device, Section.switch_canAdb, Section.optionalSection_eq, root]
  cases device : Dictionary.get? c.table "device" with
  | none => simp [firstMistyped?, deviceKeys, mistyped, valueAt?, device, bind, Except.bind, pure, Except.pure]
  | some value =>
    cases value with
    | table entries =>
      dsimp only [bind, Except.bind]
      rw [Section.optionalSection_eq]
      dsimp only
      cases adb : Dictionary.get? entries "adb" with
      | none => simp [firstMistyped?, deviceKeys, mistyped, valueAt?, device, adb, pure, Except.pure, Kind.admits]
      | some value =>
        cases value with
        | table settings =>
          have inside (key : String) : valueAt? ["device", "adb", key] c.table = valueAt? [key] settings := by
            simp [valueAt?, device, adb]
          have same (key : String) (kind : Kind) :
              mistyped c.table (["device", "adb", key], kind) = mistyped settings ([key], kind) := by
            unfold mistyped
            rw [inside]
          have first : firstMistyped? c.table =
              [(["device", "adb", "serial"], Kind.string), (["device", "adb", "executable"], Kind.string)].find?
                (mistyped c.table) := by
            simp [firstMistyped?, deviceKeys, mistyped, valueAt?, device, adb, Kind.admits]
          dsimp only
          rw [adbSettings_eq, first, List.find?_cons, List.find?_cons, same, same]
          cases mistyped settings (["serial"], .string) with
          | true => rfl
          | false =>
            cases mistyped settings (["executable"], .string) with
            | true => rfl
            | false =>
              simp only [textAt?, inside]
              simp [valueAt?, device, adb, pure, Except.pure]
        | _ => simp [firstMistyped?, deviceKeys, mistyped, valueAt?, device, adb, Kind.admits, Config.root]
    | _ => simp [firstMistyped?, deviceKeys, mistyped, valueAt?, device, bind, Except.bind, Kind.admits, Config.root]

end Config

namespace Host

/-- What a configuration file says, if it can be read and is a document. -/
def documentAt? (h : Host) (file : String) : Option Toml.Table := do
  let text ← (h.readFile file).toOption
  (Toml.document text).toOption

/-- The client with a program and a serial. The environment gives what is not said. -/
def client (h : Host) (program serial : Option String) : Except Error Adb :=
  match program.or (h.programPath? "adb") with
  | some program => .ok ⟨program, serial.or (h.envValue? Adb.serialVariable)⟩
  | none => .error (.missingProgram "adb")

variable {h : Host} {file : String}

theorem readConfig_of_present (place : h.configFile = .ok file) (there : h.present file = true) :
    match h.documentAt? file with
    | some t => h.readConfig = .ok (some ⟨file, t⟩)
    | none => ∃ e, h.readConfig = .error e := by
  unfold readConfig documentAt? Config.ofText
  rw [place]
  dsimp only
  rw [if_pos there]
  cases h.readFile file with
  | error e => exact ⟨e, rfl⟩
  | ok text =>
    dsimp only [Except.toOption, bind, Except.bind, Option.bind]
    cases Toml.document text with
    | error line => exact ⟨_, rfl⟩
    | ok t => rfl

end Host

namespace Adb

/-- Where no program is known yet. -/
theorem perform_ofEnvironment {b : Bench} (fresh : b.findings.programs = []) :
    (ofEnvironment.perform b).1 = b.host.client none none := by
  rw [ofEnvironment, Action.perform_bind, Bench.perform_program, fresh, Host.client, Option.none_or]
  cases b.host.programPath? "adb" <;> rfl

theorem perform_ofSettings {b : Bench} (fresh : b.findings.programs = []) (settings : AdbSettings) :
    ((ofSettings settings).perform b).1 = b.host.client settings.executable settings.serial := by
  obtain ⟨serial, executable⟩ := settings
  cases executable with
  | some path => cases serial <;> rfl
  | none =>
    rw [ofSettings]
    dsimp only
    rw [Action.perform_bind, Bench.perform_program, fresh, Host.client, Option.none_or]
    cases b.host.programPath? "adb" with
    | none => rfl
    | some path => cases serial <;> rfl

theorem perform_ofDevice {b : Bench} (fresh : b.findings.programs = []) (settings : DeviceSettings) :
    ((ofDevice settings).perform b).1 =
      if settings.canAdb then
        b.host.client (settings.adb.bind AdbSettings.executable) (settings.adb.bind AdbSettings.serial)
      else .error .adbDisabled := by
  obtain ⟨canAdb, adb⟩ := settings
  cases canAdb with
  | false => rfl
  | true =>
    cases adb with
    | some adb => exact perform_ofSettings fresh adb
    | none => exact perform_ofEnvironment fresh

theorem find_result (h : Host) :
    (find.perform (.ofHost h)).1 = match h.readConfig with
      | .ok (some c) => c.device.bind fun settings =>
        if settings.canAdb then
          h.client (settings.adb.bind AdbSettings.executable) (settings.adb.bind AdbSettings.serial)
        else .error .adbDisabled
      | _ => h.client none none := by
  rw [find, Action.perform_bind, Action.perform_outcome, Bench.perform_config]
  dsimp only [Bench.ofHost, Findings.none]
  cases h.readConfig with
  | error e => exact perform_ofEnvironment rfl
  | ok config =>
    cases config with
    | none => exact perform_ofEnvironment rfl
    | some c =>
      dsimp only
      rw [Action.perform_bind, Action.perform_ofResult]
      cases c.device with
      | error e => rfl
      | ok settings => exact perform_ofDevice rfl settings

variable {h : Host} {file : String}

/-- Where a project has a configuration file that is a document, there is a client only if all keys that describe
one are of the right kinds and the device is not forbidden, and a complaint otherwise. Where the file cannot be
read, the client is that of the environment. -/
theorem find_closed_if_read (place : h.configFile = .ok file) (there : h.present file = true) :
    let result := (find.perform (.ofHost h)).1
    (∀ t, h.documentAt? file = some t →
      (∀ adb, result = .ok adb ↔ firstMistyped? t = none ∧ forbidsDevice t = false ∧
        h.client (textAt? ["device", "adb", "executable"] t) (textAt? ["device", "adb", "serial"] t) = .ok adb) ∧
      (∀ key, firstMistyped? t = some key → result = .error (mistypedError file key)) ∧
      (firstMistyped? t = none → forbidsDevice t = true → result = .error .adbDisabled)) ∧
    (h.documentAt? file = none → result = h.client none none) := by
  intro result
  have read := h.readConfig_of_present place there
  have found : result = _ := find_result h
  constructor
  · intro t document
    rw [document] at read
    replace read : h.readConfig = _ := read
    rw [read] at found
    dsimp only at found
    rw [Config.device_eq] at found
    cases bad : firstMistyped? t with
    | some key =>
      have blamed : result = .error (mistypedError file key) := by
        rw [found, bad]
        rfl
      rw [blamed]
      refine ⟨fun adb => ⟨nofun, fun allowed => nomatch allowed.1⟩, ?_, nofun⟩
      rintro _ ⟨⟩
      rfl
    | none =>
      have said : result = if (!forbidsDevice t) = true then
          h.client (textAt? ["device", "adb", "executable"] t) (textAt? ["device", "adb", "serial"] t)
          else .error .adbDisabled := by
        rw [found, bad]
        dsimp only [Except.bind]
        cases adb : valueAt? ["device", "adb"] t with
        | some _ => rfl
        | none =>
          -- Without the table there are no texts in it, so the environment decides.
          rw [textAt?_outside adb, textAt?_outside adb]
          rfl
      cases forbidden : forbidsDevice t with
      | true =>
        rw [forbidden] at said
        rw [said]
        exact ⟨fun adb => ⟨nofun, fun allowed => nomatch allowed.2.1⟩, nofun, fun _ _ => rfl⟩
      | false =>
        rw [forbidden] at said
        rw [said]
        exact ⟨fun adb => ⟨fun opened => ⟨rfl, rfl, opened⟩, fun allowed => allowed.2.2⟩, nofun, nofun⟩
  · intro unread
    rw [unread] at read
    obtain ⟨e, failed⟩ := read
    rwa [failed] at found

end Adb

/-- A host with a program for the device and a project in which the configuration file has this text. -/
def Host.withProject (text : String) : Host where
  environment := [("HOSTCTS_PROJECT_HOME", "/project"), ("PATH", "/bin")]
  accountHome := none
  files := ⟨[(["bin"], .folder), (["bin", "adb"], .program), (["project"], .folder),
    (["project", "hostcts.toml"], .file text)]⟩
  workdir := []
  respond _ _ := ⟨.exited 0, "", ""⟩
  history := []
  clock := 0

theorem find_closed_if_read_serial :
    let h : Host := .withProject "can-adb = true\n[device.adb]\nserial = \"five\"\n"
    h.configFile = .ok "/project/hostcts.toml" ∧ h.present "/project/hostcts.toml" = true ∧
      (Adb.find.perform (.ofHost h)).1 = .ok ⟨"/bin/adb", some "five"⟩ := by
  intro h
  have place : h.configFile = .ok "/project/hostcts.toml" := rfl
  have there : h.present "/project/hostcts.toml" = true := by decide +kernel
  have allowed : (h.documentAt? "/project/hostcts.toml").any (fun t =>
      firstMistyped? t = none && !forbidsDevice t && decide ((h.client (textAt? ["device", "adb", "executable"] t)
        (textAt? ["device", "adb", "serial"] t)).toOption = some ⟨"/bin/adb", some "five"⟩)) = true := by
    decide +kernel
  clear_value h
  obtain ⟨t, document, good⟩ := (Option.any_eq_true _ _).mp allowed
  have opens := ((Adb.find_closed_if_read place there).1 t document).1 ⟨"/bin/adb", some "five"⟩
  simp only [Bool.and_eq_true, decide_eq_true_eq, Bool.not_eq_true'] at good
  obtain ⟨⟨typed, allowed⟩, client⟩ := good
  refine ⟨place, there, opens.mpr ⟨typed, allowed, ?_⟩⟩
  generalize h.client _ _ = found at client ⊢
  cases found with
  | error e => cases client
  | ok adb => exact congrArg Except.ok (Option.some.inj client)

/-- A project that means to forbid the device does not, when its file has a mistake elsewhere or a text in place of
the boolean. -/
theorem project_ignored :
    let file := "/project/hostcts.toml"
    let torn : Host := .withProject "can-adb = false\n[device\n"
    let quoted : Host := .withProject "can-adb = \"false\"\n"
    (torn.configFile.toOption = some file ∧ torn.present file = true ∧ (torn.documentAt? file).isNone = true ∧
      (Adb.find.perform (.ofHost torn)).1.toOption = some ⟨"/bin/adb", none⟩) ∧
    (quoted.configFile.toOption = some file ∧ quoted.present file = true ∧
      (quoted.documentAt? file).any (fun t => textAt? ["can-adb"] t = some "false") = true ∧
      (Adb.find.perform (.ofHost quoted)).1.toOption = some ⟨"/bin/adb", none⟩) := by
  decide +kernel

end DeviceHarness
