import DeviceHarness.Proofs.DocumentOrder
import DeviceHarness.Proofs.KeyRules

/-! The settings of the harness in the configuration file of a project. They can be had if every key is as it has to be.
Then each setting is the value of its own key, or what it is by default, whatever else the file says. -/

namespace DeviceHarness

open Toml (Kind Value valueAt? textAt?)

namespace Toml

/-- The texts among the entries of a table, each with its key. -/
def texts (entries : List (String × Value)) : List (String × String) :=
  entries.filterMap fun (key, v) =>
    match v with
    | .string text => some (key, text)
    | _ => none

/-- Where all entries are texts, none is left out. -/
theorem map_texts {entries : List (String × Value)} (all : ∀ entry ∈ entries, Kind.string.admits entry.2 = true) :
    (texts entries).map (fun (key, text) => (key, Value.string text)) = entries := by
  induction entries with
  | nil => rfl
  | cons entry rest ih =>
    obtain ⟨key, v⟩ := entry
    obtain ⟨first, later⟩ := List.forall_mem_cons.mp all
    cases v with
    | string text => exact congrArg ((key, .string text) :: ·) (ih later)
    | _ => cases first

end Toml

open Toml (countAt? flagAt? texts)

/-- The ABIs that the document gives an APK. -/
def splitNames (t : Toml.Table) : List String :=
  match valueAt? ["abi-splits"] t with
  | some (.table entries) => Dictionary.keys entries
  | _ => []

/-- The keys whose names do not depend on the document. -/
def fixedRules : List KeyRule :=
  [(["harness"], .kind .table), (["harness", "apk-dir"], .kind .string), (["harness", "abi"], .kind .string),
    (["harness", "instrumentation-runner"], .kind .string), (["harness", "wait"], .kind .table),
    (["harness", "wait", "timeout-secs"], .count), (["harness", "wait", "initial-interval-ms"], .count),
    (["harness", "wait", "max-interval-ms"], .count), (["abi-splits"], .kind .table)]

/-- The keys of the settings, in the order in which they are looked at. -/
def harnessRules (t : Toml.Table) : List KeyRule :=
  fixedRules ++ (splitNames t).map fun name => (["abi-splits", name], .kind .string)

/-- How long the table at a path says to wait. -/
def givenWait (path : List String) (t : Toml.Table) : WaitPolicy where
  timeout := ((countAt? (path ++ ["timeout-secs"]) t).map Duration.seconds).getD (Duration.seconds 60)
  initial := ((countAt? (path ++ ["initial-interval-ms"]) t).map Duration.milliseconds).getD
    (Duration.milliseconds 250)
  max := ((countAt? (path ++ ["max-interval-ms"]) t).map Duration.milliseconds).getD (Duration.milliseconds 5000)

/-- The splits that a document gives; a table of them leaves none of the usual ones. -/
def givenSplits (t : Toml.Table) : AbiSplits :=
  match valueAt? ["abi-splits"] t with
  | some (.table entries) => ⟨texts entries⟩
  | _ => ⟨["x86", "x86_64", "armeabi-v7a", "armeabi", "arm64-v8a", "mips64", "mips"].map fun abi =>
      (abi, "CtsSplitApp_" ++ abi ++ ".apk")⟩

/-- The settings that a document gives. -/
def givenSettings (t : Toml.Table) : HarnessSettings where
  apkDir := textAt? ["harness", "apk-dir"] t
  abi := textAt? ["harness", "abi"] t
  runner := (textAt? ["harness", "instrumentation-runner"] t).getD "android.test.InstrumentationTestRunner"
  wait := givenWait ["harness", "wait"] t
  splits := givenSplits t
  skipPreconditions := (flagAt? ["harness", "skip-preconditions"] t).getD false

namespace Config

theorem givenWait_inside {t : Toml.Table} {key : String} {entries : List (String × Value)}
    (here : Dictionary.get? t key = some (.table entries)) (path : List String) :
    givenWait (key :: path) t = givenWait path entries := by
  simp [givenWait, countAt?, Toml.valueAt?_inside here]

theorem givenWait_outside {t : Toml.Table} {key : String}
    (absent : ∀ entries, Dictionary.get? t key ≠ some (.table entries)) (path : List String) :
    givenWait (key :: path) t = .default := by
  simp [givenWait, countAt?, Toml.valueAt?_outside absent, WaitPolicy.default]

def waitRules : List KeyRule :=
  [(["timeout-secs"], .count), (["initial-interval-ms"], .count), (["max-interval-ms"], .count)]

theorem waitPolicy_judged (s : Section) : waitPolicy s = s.judged waitRules (givenWait [] s.table) := by
  unfold waitPolicy
  rw [durationOr_judged, durationOr_judged, durationOr_judged]
  exact Section.judged_bind (Section.judged_bind (Section.judged_bind rfl))

theorem optionalWait_judged (s : Section) :
    (do match ← s.optionalSection "wait" with
        | none => pure WaitPolicy.default
        | some wait => waitPolicy wait) =
      s.judged ((["wait"], .kind .table) :: waitRules.map (KeyRule.below "wait")) (givenWait ["wait"] s.table) := by
  refine Section.optionalSection_judged (by decide) (fun absent => ?_) (fun entries present => ?_)
  · exact congrArg Except.ok (givenWait_outside (by rw [absent]; nofun) []).symm
  · rw [givenWait_inside present]
    exact waitPolicy_judged _

/-- The rules inside the section `harness`. -/
def sectionRules : List KeyRule :=
  [(["apk-dir"], .kind .string), (["abi"], .kind .string), (["instrumentation-runner"], .kind .string)] ++
    (["wait"], .kind .table) :: waitRules.map (KeyRule.below "wait")

/-- The settings that the section `harness` gives. -/
def sectionSettings (t : Toml.Table) : HarnessSettings where
  apkDir := textAt? ["apk-dir"] t
  abi := textAt? ["abi"] t
  runner := (textAt? ["instrumentation-runner"] t).getD "android.test.InstrumentationTestRunner"
  wait := givenWait ["wait"] t
  splits := .default
  skipPreconditions := (flagAt? ["skip-preconditions"] t).getD false

theorem harnessSection_judged (s : Section) :
    harnessSection s = s.judged sectionRules (sectionSettings s.table) := by
  unfold harnessSection
  rw [Section.optionalString_judged, Section.optionalString_judged, Section.optionalString_judged, Section.switch_eq]
  refine Section.judged_bind (Section.judged_bind (Section.judged_bind ?_))
  calc
    _ = ((do match ← s.optionalSection "wait" with
              | none => pure WaitPolicy.default
              | some wait => waitPolicy wait) >>= fun wait => pure { sectionSettings s.table with wait := wait }) := by
      cases s.optionalSection "wait" with
      | error e => rfl
      | ok found => cases found <;> rfl
    _ = _ := by
      rw [optionalWait_judged]
      exact Section.judged_bind_pure _

/-- The texts of the rest of a table. -/
theorem allStrings_judged {s : Section} {rest : List (String × Value)}
    (inside : ∀ entry ∈ rest, Dictionary.get? s.table entry.1 = some entry.2) :
    allStrings s (Dictionary.keys rest) =
      s.judged ((Dictionary.keys rest).map fun name => ([name], .kind .string)) (texts rest) := by
  induction rest with
  | nil => rfl
  | cons entry rest ih =>
    obtain ⟨key, v⟩ := entry
    obtain ⟨here, later⟩ := List.forall_mem_cons.mp inside
    have found : valueAt? [key] s.table = some v := here
    rw [show Dictionary.keys ((key, v) :: rest) = key :: Dictionary.keys rest from rfl, allStrings, ih later,
      Section.requiredString_eq, here, List.map_cons, Section.judged_cons, Section.fault?, found]
    cases v with
    | string text => exact Section.judged_bind_pure _
    | _ => rfl

theorem settings_inside {t : Toml.Table} {entries : List (String × Value)}
    (here : Dictionary.get? t "harness" = some (.table entries)) :
    { givenSettings t with splits := .default } = sectionSettings entries := by
  unfold givenSettings sectionSettings
  rw [givenWait_inside here]
  simp only [textAt?, flagAt?, Toml.valueAt?_inside here, ne_eq, List.cons_ne_nil, not_false_eq_true]

theorem settings_outside {t : Toml.Table}
    (absent : ∀ entries, Dictionary.get? t "harness" ≠ some (.table entries)) :
    { givenSettings t with splits := .default } = HarnessSettings.default := by
  unfold givenSettings
  rw [givenWait_outside absent]
  simp only [textAt?, flagAt?, Toml.valueAt?_outside absent, ne_eq, List.cons_ne_nil, not_false_eq_true]
  rfl

theorem optionalHarness_judged (c : Config) :
    (do match ← c.root.optionalSection "harness" with
        | none => pure HarnessSettings.default
        | some s => harnessSection s) =
      c.root.judged ((["harness"], .kind .table) :: sectionRules.map (KeyRule.below "harness"))
        { givenSettings c.table with splits := .default } := by
  refine Section.optionalSection_judged (by decide) (fun absent => ?_) (fun entries present => ?_)
  · exact congrArg Except.ok (settings_outside (t := c.root.table) (by rw [absent]; nofun)).symm
  · rw [settings_inside (t := c.table) present]
    exact harnessSection_judged _

theorem names_of_texts_sublist (entries : List (String × Value)) :
    ((texts entries).map Prod.fst).Sublist (Dictionary.keys entries) := by
  induction entries with
  | nil => exact List.Sublist.slnil
  | cons entry rest ih =>
    obtain ⟨key, v⟩ := entry
    cases v with
    | string text => exact ih.cons_cons key
    | _ => exact ih.cons key

theorem splits_of_ascending {entries : List (String × Value)} (ascending : (Dictionary.keys entries).Pairwise (· < ·)) :
    AbiSplits.ofList (texts entries) = ⟨texts entries⟩ := by
  refine AbiSplits.ofList_of_distinct ((ascending.sublist (names_of_texts_sublist entries)).imp ?_)
  exact fun below same => String.lt_irrefl _ (same ▸ below)

theorem optionalSplits_judged {c : Config} (ordered : (Value.table c.table).Ordered) {settings : HarnessSettings}
    (usual : settings.splits = .default) :
    (do match ← c.root.optionalSection "abi-splits" with
        | none => return settings
        | some splits => return { settings with splits := .ofList (← allStrings splits splits.keys) }) =
      c.root.judged
        ((["abi-splits"], .kind .table) :: (splitNames c.table).map fun name => (["abi-splits", name], .kind .string))
        { settings with splits := givenSplits c.table } := by
  have below : (splitNames c.table).map (fun name => (["abi-splits", name], .kind .string)) =
      ((splitNames c.table).map fun name => ([name], .kind .string)).map (KeyRule.below "abi-splits") := by
    rw [List.map_map]
    rfl
  rw [below]
  refine Section.optionalSection_judged ?_ (fun absent => ?_) (fun entries present => ?_)
  · intro rule member
    obtain ⟨name, -, rfl⟩ := List.mem_map.mp member
    exact List.cons_ne_nil _ _
  · have none : valueAt? ["abi-splits"] c.table = none := absent
    have seven : givenSplits c.table = AbiSplits.default := by
      rw [givenSplits, none]
      exact (AbiSplits.ofList_of_distinct (by decide)).symm
    rw [seven, ← usual]
    rfl
  · have given : valueAt? ["abi-splits"] c.table = some (.table entries) := present
    have ascending := (ordered.of_get? present).ascending
    rw [givenSplits, splitNames, given]
    dsimp only
    rw [← splits_of_ascending ascending]
    show (allStrings _ (Dictionary.keys entries) >>= fun pairs => pure { settings with splits := .ofList pairs }) = _
    rw [allStrings_judged fun entry member => Dictionary.get?_of_mem ascending member]
    exact Section.judged_bind_pure fun pairs => { settings with splits := AbiSplits.ofList pairs }

theorem map_givenSplits {t : Toml.Table} (ordered : (Value.table t).Ordered) {entries : List (String × Value)}
    (obeyed : ∀ rule ∈ harnessRules t, Obeys t rule) (given : valueAt? ["abi-splits"] t = some (.table entries)) :
    (givenSplits t).entries.map (fun (abi, apk) => (abi, .string apk)) = entries := by
  have names : splitNames t = Dictionary.keys entries := by rw [splitNames, given]
  have splits : givenSplits t = ⟨texts entries⟩ := by rw [givenSplits, given]
  rw [splits]
  refine Toml.map_texts fun entry member => ?_
  have looked : (["abi-splits", entry.1], .kind .string) ∈ harnessRules t :=
    List.mem_append_right _ (List.mem_map.mpr ⟨entry.1, names ▸ List.mem_map_of_mem member, rfl⟩)
  refine obeyed _ looked entry.2 ?_
  rw [Toml.valueAt?_inside given (List.cons_ne_nil _ _)]
  exact Dictionary.get?_of_mem (ordered.of_get? given).ascending member

/-- The settings are judged by all the keys, in their order. -/
theorem harness_judged {c : Config} (ordered : (Value.table c.table).Ordered) :
    c.harness = c.root.judged (harnessRules c.table) (givenSettings c.table) := by
  calc
    _ = ((do match ← c.root.optionalSection "harness" with
              | none => pure HarnessSettings.default
              | some s => harnessSection s) >>= fun settings => do
          match ← c.root.optionalSection "abi-splits" with
          | none => return settings
          | some splits => return { settings with splits := .ofList (← allStrings splits splits.keys) }) := by
      unfold harness
      cases c.root.optionalSection "harness" with
      | error e => rfl
      | ok found => cases found <;> rfl
    _ = _ := by
      rw [optionalHarness_judged]
      exact Section.judged_bind (optionalSplits_judged ordered rfl)

theorem ordered_of_document {file text : String} {c : Config} (read : ofText file text = .ok c) :
    c.file = file ∧ (Value.table c.table).Ordered := by
  unfold ofText at read
  split at read
  next t document =>
    cases read
    exact ⟨rfl, Toml.document_ordered document⟩
  next => cases read

end Config

/-- The keys that hold the settings. -/
def settingKeys : List (List String) :=
  [["harness", "apk-dir"], ["harness", "abi"], ["harness", "instrumentation-runner"], ["harness", "skip-preconditions"],
    ["harness", "wait", "timeout-secs"], ["harness", "wait", "initial-interval-ms"],
    ["harness", "wait", "max-interval-ms"], ["abi-splits"]]

/-- The tables that hold settings beside keys of other names. -/
def sectionKeys : List (List String) := [["harness"], ["harness", "wait"]]

/-- Two documents that differ in keys of other names only. Of a table that may hold such keys it matters only whether
something else is in its place. -/
structure SameSettings (t u : Toml.Table) : Prop where
  values : ∀ path ∈ settingKeys, valueAt? path u = valueAt? path t
  tables : ∀ path ∈ sectionKeys, mistyped u (path, .table) = mistyped t (path, .table)

namespace SameSettings

variable {t u : Toml.Table}

theorem names (same : SameSettings t u) : splitNames u = splitNames t := by
  unfold splitNames
  rw [same.values ["abi-splits"] (by decide)]

theorem rules (same : SameSettings t u) : harnessRules u = harnessRules t := by
  unfold harnessRules
  rw [same.names]

theorem settings (same : SameSettings t u) : givenSettings u = givenSettings t := by
  have apkDir := same.values ["harness", "apk-dir"] (by decide)
  have abi := same.values ["harness", "abi"] (by decide)
  have runner := same.values ["harness", "instrumentation-runner"] (by decide)
  have skip := same.values ["harness", "skip-preconditions"] (by decide)
  have timeout := same.values ["harness", "wait", "timeout-secs"] (by decide)
  have initial := same.values ["harness", "wait", "initial-interval-ms"] (by decide)
  have max := same.values ["harness", "wait", "max-interval-ms"] (by decide)
  have splits := same.values ["abi-splits"] (by decide)
  simp only [givenSettings, givenWait, givenSplits, textAt?, countAt?, flagAt?, List.cons_append, List.nil_append,
    apkDir, abi, runner, skip, timeout, initial, max, splits]

theorem fault (same : SameSettings t u) (file : String) {rule : KeyRule} (looked : rule ∈ harnessRules t) :
    Section.fault? ⟨file, [], u⟩ rule = Section.fault? ⟨file, [], t⟩ rule := by
  rcases List.mem_append.mp looked with fixed | split
  · have known : ∀ rule ∈ fixedRules, rule.1 ∈ settingKeys ∨ rule.1 ∈ sectionKeys ∧ rule.2 = .kind .table := by decide
    rcases known rule fixed with setting | ⟨table, demand⟩
    · exact Section.fault?_congr rfl rfl (same.values rule.1 setting)
    · obtain ⟨path, _⟩ := rule
      cases demand
      have tables := same.tables path table
      rw [Section.fault?_table, Section.fault?_table]
      dsimp only
      rw [tables]
  · obtain ⟨name, -, rfl⟩ := List.mem_map.mp split
    exact Section.fault?_congr rfl rfl (Toml.valueAt?_congr (same.values ["abi-splits"] (by decide)))

end SameSettings

namespace Config

/-- For every document: the settings can be had if and only if all their keys are as they have to be, and then each is
what its own key says, or what it is by default. Otherwise the first key that is not is to blame, by its full name.
The splits are looked at in the order of their names, and keys of other names are of no account. -/
theorem harness_of_document {file text : String} {c : Config} (read : ofText file text = .ok c) :
    (∀ s, c.harness = .ok s ↔ (∀ rule ∈ harnessRules c.table, Obeys c.table rule) ∧ s = givenSettings c.table) ∧
    (∀ s entries, c.harness = .ok s → valueAt? ["abi-splits"] c.table = some (.table entries) →
      entries = s.splits.entries.map fun (abi, apk) => (abi, .string apk)) ∧
    (∀ e, c.harness = .error e ↔ ∃ before rule after v, harnessRules c.table = before ++ rule :: after ∧
      (∀ earlier ∈ before, Obeys c.table earlier) ∧ valueAt? rule.1 c.table = some v ∧ rule.2.admits v = false ∧
      e = blamed file rule v) ∧
    (splitNames c.table).Pairwise (· < ·) ∧
    ∀ otherText other, ofText file otherText = .ok other → SameSettings c.table other.table →
      other.harness = c.harness := by
  obtain ⟨named, ordered⟩ := ordered_of_document read
  have judged := harness_judged ordered
  refine ⟨fun s => ?_, fun s entries settled table => ?_, fun e => ?_, ?_, fun otherText other otherRead same => ?_⟩
  · rw [judged, Section.judged_eq_ok_iff]
    rfl
  · rw [judged, Section.judged_eq_ok_iff] at settled
    obtain ⟨obeyed, rfl⟩ := settled
    exact (map_givenSplits ordered obeyed table).symm
  · rw [judged, Section.judged_eq_error_iff, ← named]
    rfl
  · unfold splitNames
    split
    next entries there => exact (ordered.of_get? there).ascending
    next => exact List.Pairwise.nil
  · obtain ⟨otherNamed, otherOrdered⟩ := ordered_of_document otherRead
    rw [judged, harness_judged otherOrdered, same.rules, same.settings, root, root, named, otherNamed]
    exact Section.judged_congr _ fun rule looked => same.fault file looked

/-- A document with one wait setting of three, a key of another name, and a table of splits that is empty. -/
def partlySet : String :=
  "[harness]\nabi = \"x86\"\nowner = 7\n[harness.wait]\ntimeout-secs = 5\n[abi-splits]\n"

theorem harness_of_document_partly_set :
    ∃ c, ofText "hostcts.toml" partlySet = .ok c ∧
      c.harness = .ok
        { apkDir := none
          abi := some "x86"
          runner := "android.test.InstrumentationTestRunner"
          wait := ⟨Duration.seconds 5, Duration.milliseconds 250, Duration.milliseconds 5000⟩
          splits := ⟨[]⟩
          skipPreconditions := false } := by
  generalize expected : HarnessSettings.mk _ _ _ _ _ _ = settings
  have good : (ofText "hostcts.toml" partlySet).toOption.any (fun c : Config =>
      decide (∀ rule ∈ harnessRules c.table, Obeys c.table rule) &&
        decide (settings = givenSettings c.table)) = true := by
    subst expected
    decide +kernel
  cases read : ofText "hostcts.toml" partlySet with
  | error e =>
    rw [read] at good
    cases good
  | ok c =>
    rw [read] at good
    obtain ⟨obeyed, given⟩ := Bool.and_eq_true_iff.mp good
    exact ⟨c, rfl, ((harness_of_document read).1 settings).mpr ⟨of_decide_eq_true obeyed, of_decide_eq_true given⟩⟩

end Config
end DeviceHarness
