import DeviceHarness.Checkin.Validator
import DeviceHarness.Proofs.LayoutFit

/-! Which dumps are valid, line by line and without a validator, and what the report on a valid dump
says. A line is judged at the version of the nearest `vers` line before it. The reading of the dump
and the validator each keep track of the version; on valid lines the two agree with that rule. -/

namespace DeviceHarness.Checkin

/-- The lines of a dump that are records. -/
def recordLines (text : String) : List String := (Text.lines text).filter (!Text.blank ·)

namespace Format

variable (format : Format)

def tagOf (line : String) : String := ((format.split line)[format.tagIndex]?).getD ""

/-- The integer after the tag of a line. -/
def integerAfterTag? (line : String) : Option Int :=
  ((format.split line)[format.tagIndex + 1]?).bind (Integer.ofText? 64)

/-- The version in force after lines: the integer of the last `vers` line among them. -/
def versionAfter (lines : List String) : Option Int :=
  ((lines.filter fun line => format.tagOf line == "vers").getLast?).bind format.integerAfterTag?

/-- Batterystats lines start with two integers and the letter of an aggregation. -/
def LeadFits : Format → List String → Prop
  | procstats, _ => True
  | batterystats, fields =>
    (∃ value, fields[0]? = some value ∧ IsInteger value) ∧
      (∃ value, fields[1]? = some value ∧ IsInteger value) ∧
      ∃ letter ∈ ["i", "l", "c", "u"], fields[2]? = some letter

/-- A tag that is in no entry of the table. -/
def Unlisted (tag : String) : Prop := ∀ entry ∈ format.table, tag ∉ entry.tags

/-- A line is a valid record after the given lines. -/
structure Accepts (before : List String) (line : String) : Prop where
  tagged : format.tagIndex < (format.split line).length
  lead : format.LeadFits (format.split line)
  layout :
    (∃ layout, format.table.resolve (format.tagOf line) (format.versionAfter before) = some layout ∧
      layout.Fits format.tagIndex (format.split line)) ∨
    format.Unlisted (format.tagOf line)

end Format

/-- A text is a valid dump. -/
structure IsDump (format : Format) (text : String) : Prop where
  answered : Text.blank text = false
  lines : InTurn format.Accepts (recordLines text)
  complete : ∀ tag ∈ format.requiredTags, ∃ line ∈ recordLines text, format.tagOf line = tag

/-- The version that the reading of a dump ends with. -/
def Dump.lastVersion (items : List Item) : Option Int := items.getLast?.bind Item.versionAfter

/-- What a report says about the text it is on. Both sets are in ascending order, so they are
determined by what is in them. -/
structure Report.Describes (report : Report) (format : Format) (text : String) : Prop where
  kind : report.format = format
  records : report.records = (recordLines text).length
  seen : ∀ tag, tag ∈ report.seenTags ↔ ∃ line ∈ recordLines text, format.tagOf line = tag
  unknown : ∀ tag, tag ∈ report.unknownTags ↔ tag ∈ report.seenTags ∧ format.Unlisted tag
  ascending : report.seenTags.Pairwise (· < ·) ∧ report.unknownTags.Pairwise (· < ·)
  version : report.version = format.versionAfter (recordLines text)
  reading : ∀ items, Dump.items format text = .ok items → Dump.lastVersion items = report.version

section Line

variable {format : Format} {before : List String} {line : String}

private theorem integerAt_exists {r : Record} {index : Nat} :
    (∃ n, r.integerAt? index = .ok n) ↔ ∃ value, r.fields[index]? = some value ∧ IsInteger value := by
  simp only [Record.integerAt_ok, IsInteger, Option.bind_eq_some_iff, Option.isSome_iff_exists]
  constructor
  · rintro ⟨n, value, found, read⟩
    exact ⟨value, found, n, read⟩
  · rintro ⟨value, found, n, read⟩
    exact ⟨n, value, found, read⟩

theorem Format.checkLead_ok {r : Record} : format.checkLead r = .ok () ↔ format.LeadFits r.fields := by
  cases format with
  | procstats => simp [Format.checkLead, Format.LeadFits]
  | batterystats =>
    simp only [Format.checkLead, Format.LeadFits, Batterystats.checkLead, bind_ok, Check.require_ok,
      List.contains_iff_mem]
    rw [← integerAt_exists, ← integerAt_exists]
    constructor
    · rintro ⟨first, one, second, two, letter, third, known⟩
      refine ⟨⟨first, one⟩, ⟨second, two⟩, letter, known, ?_⟩
      unfold Record.field? at third
      split at third
      next found => cases third; exact found
      next => cases third
    · rintro ⟨⟨first, one⟩, ⟨second, two⟩, letter, known, third⟩
      exact ⟨first, one, second, two, letter, by simp [Record.field?, third], known⟩

theorem Format.unlisted_iff {tag : String} : format.Unlisted tag ↔ format.table.knows tag = false := by
  simp [Format.Unlisted, Table.knows]

theorem checkLayout_ok {r : Record} :
    Validator.checkLayout format r = .ok () ↔
      (∃ layout, format.table.resolve r.tag r.version = some layout ∧
        layout.Fits r.tagIndex r.fields) ∨ format.Unlisted r.tag := by
  unfold Validator.checkLayout
  cases found : format.table.resolve r.tag r.version with
  | some layout =>
    have listed : ¬ format.Unlisted r.tag := by
      simp only [Table.resolve, Option.map_eq_some_iff] at found
      obtain ⟨entry, selected, -⟩ := found
      have covers := List.find?_some selected
      simp only [Bool.and_eq_true, List.contains_iff_mem] at covers
      exact fun unlisted => unlisted entry (List.mem_of_find?_eq_some selected) covers.1
    simp [Layout.check_ok, listed]
  | none =>
    rw [Format.unlisted_iff]
    cases format.table.knows r.tag <;> simp [Record.blame]

theorem Layout.Fits.integer_after_tag {l : Layout} {tagIndex : Nat} {fields : List String}
    (fits : l.Fits tagIndex fields) (first : l.fields[0]? = some .int) :
    ∃ n, (fields[tagIndex + 1]?).bind (Integer.ofText? 64) = some n := by
  have inside : tagIndex + 1 < fields.length := by
    have some_type : 0 < l.fields.length := (List.getElem?_eq_some_iff.mp first).1
    have enough := fits.enough
    omega
  have found : fields[tagIndex + 1]? = some fields[tagIndex + 1] := List.getElem?_eq_getElem inside
  have integer : IsInteger fields[tagIndex + 1] := fits.typed 0 .int _ first found
  rw [found]
  exact Option.isSome_iff_exists.mp integer

theorem resolve_vers (format : Format) (version : Option Int) :
    ∃ layout, format.table.resolve "vers" version = some layout ∧ layout.fields[0]? = some .int ∧
      (format = .procstats → layout.arity = .exactly 2) := by
  cases format with
  | procstats => cases version <;> exact ⟨_, rfl, rfl, fun _ => rfl⟩
  | batterystats => cases version <;> exact ⟨_, rfl, rfl, fun impossible => by cases impossible⟩

theorem not_unlisted_vers (format : Format) : ¬ format.Unlisted "vers" := by
  intro unlisted
  cases format with
  | procstats => exact unlisted _ List.mem_cons_self (by decide)
  | batterystats => exact unlisted _ List.mem_cons_self (by decide)

/-- A `vers` record that fits its layout declares the integer after its tag. -/
theorem declares_of_fits {r : Record} {version : Option Int} {layout : Layout}
    (resolved : format.table.resolve "vers" version = some layout) (fits : layout.Fits format.tagIndex r.fields)
    (tag : r.tag = "vers") :
    ∃ n, (r.fields[format.tagIndex + 1]?).bind (Integer.ofText? 64) = some n ∧ format.declaredVersion r = some n := by
  obtain ⟨other, same, first, arity⟩ := resolve_vers format version
  obtain rfl : layout = other := Option.some.inj (resolved.symm.trans same)
  obtain ⟨n, read⟩ := fits.integer_after_tag first
  refine ⟨n, read, ?_⟩
  cases format with
  | procstats =>
    have two : r.fields.length = 2 := by
      have count := fits.arity
      rwa [arity rfl] at count
    have integer : r.integerAt? 1 = .ok n := Record.integerAt_ok.mpr read
    simp [Format.declaredVersion, tag, two, integer, Except.toOption]
  | batterystats =>
    have integer : r.integerAt? (Batterystats.leadLength + 1) = .ok n := Record.integerAt_ok.mpr read
    simp [Format.declaredVersion, tag, integer, Except.toOption]

theorem declares_of_accepts {r : Record} (accepted : format.Accepts before line)
    (fields : r.fields = format.split line) (index : r.tagIndex = format.tagIndex)
    (vers : format.tagOf line = "vers") :
    ∃ n, format.integerAfterTag? line = some n ∧ format.declaredVersion r = some n := by
  have tag : r.tag = "vers" := by rw [Record.tag, fields, index]; exact vers
  rcases accepted.layout with ⟨layout, found, fits⟩ | unlisted
  · rw [vers] at found
    rw [← fields] at fits
    obtain ⟨n, read, declared⟩ := declares_of_fits found fits tag
    rw [fields] at read
    exact ⟨n, read, declared⟩
  · rw [vers] at unlisted
    exact absurd unlisted (not_unlisted_vers format)

theorem Format.versionAfter_append (format : Format) (before : List String) (line : String) :
    format.versionAfter (before ++ [line]) =
      if format.tagOf line = "vers" then format.integerAfterTag? line else format.versionAfter before := by
  unfold Format.versionAfter
  by_cases vers : format.tagOf line = "vers"
  · simp [List.filter_append, vers]
  · simp [List.filter_append, vers]

/-- The version that an accepted line leaves behind, by the rule of both trackers. -/
theorem versionAfter_of_accepts {r : Record} (accepted : format.Accepts before line)
    (fields : r.fields = format.split line) (index : r.tagIndex = format.tagIndex) :
    (format.declaredVersion r).or (format.versionAfter before) =
      format.versionAfter (before ++ [line]) := by
  rw [Format.versionAfter_append]
  by_cases vers : format.tagOf line = "vers"
  · obtain ⟨n, read, declared⟩ := declares_of_accepts accepted fields index vers
    simp [vers, read, declared]
  · have tag : r.tag = format.tagOf line := by rw [Record.tag, fields, index]; rfl
    simp [vers, Format.declaredVersion, tag]

end Line

/-- A validator that has counted records with exactly the given tags. -/
structure Validator.Tallies (v : Validator) (format : Format) (tags : List String) : Prop where
  kind : v.format = format
  records : v.records = tags.length
  seen : ∀ tag, tag ∈ v.seenTags ↔ tag ∈ tags
  unknown : ∀ tag, tag ∈ v.unknownTags ↔ tag ∈ v.seenTags ∧ format.Unlisted tag
  ascending : v.seenTags.Pairwise (· < ·) ∧ v.unknownTags.Pairwise (· < ·)

/-- A validator that has checked exactly the given lines, all of them valid. -/
structure Validator.Reflects (v : Validator) (format : Format) (before : List String) : Prop where
  kind : v.format = format
  records : v.records = before.length
  seen : ∀ tag, tag ∈ v.seenTags ↔ ∃ line ∈ before, format.tagOf line = tag
  unknown : ∀ tag, tag ∈ v.unknownTags ↔ tag ∈ v.seenTags ∧ format.Unlisted tag
  ascending : v.seenTags.Pairwise (· < ·) ∧ v.unknownTags.Pairwise (· < ·)
  version : v.version = format.versionAfter before

namespace Validator

variable {format : Format} {v next : Validator} {before tags : List String} {line : String}

theorem tallies_new (format : Format) : (new format).Tallies format [] where
  kind := rfl
  records := rfl
  seen tag := by simp [new]
  unknown tag := by simp [new]
  ascending := ⟨List.Pairwise.nil, List.Pairwise.nil⟩

theorem Tallies.note (tallies : v.Tallies format tags) (r : Record) :
    (v.note r).Tallies format (tags ++ [r.tag]) where
  kind := tallies.kind
  records := by simp [Validator.note, tallies.records]
  seen other := by
    simp only [Validator.note, NameSet.mem_insert, tallies.seen, List.mem_append, List.mem_singleton]
    exact or_comm
  unknown other := by
    simp only [Validator.note, NameSet.mem_insert, tallies.kind]
    split
    next known =>
      have listed : ¬ format.Unlisted r.tag := by simp [Format.unlisted_iff, known]
      rw [tallies.unknown]
      exact ⟨fun ⟨seen, unlisted⟩ => ⟨Or.inr seen, unlisted⟩, fun
        | ⟨Or.inl same, unlisted⟩ => absurd (same ▸ unlisted) listed
        | ⟨Or.inr seen, unlisted⟩ => ⟨seen, unlisted⟩⟩
    next unknown =>
      have unlisted : format.Unlisted r.tag := by simpa [Format.unlisted_iff] using unknown
      rw [NameSet.mem_insert, tallies.unknown]
      constructor
      · rintro (rfl | ⟨seen, absent⟩)
        · exact ⟨Or.inl rfl, unlisted⟩
        · exact ⟨Or.inr seen, absent⟩
      · rintro ⟨rfl | seen, absent⟩
        · exact Or.inl rfl
        · exact Or.inr ⟨seen, absent⟩
  ascending := by
    refine ⟨NameSet.ascending_insert tallies.ascending.1, ?_⟩
    simp only [Validator.note]
    split
    · exact tallies.ascending.2
    · exact NameSet.ascending_insert tallies.ascending.2

theorem reflects_iff : v.Reflects format before ↔
    v.Tallies format (before.map format.tagOf) ∧ v.version = format.versionAfter before := by
  constructor
  · intro reflects
    refine ⟨⟨reflects.kind, ?_, fun tag => ?_, reflects.unknown, reflects.ascending⟩, reflects.version⟩
    · rw [List.length_map]
      exact reflects.records
    · rw [List.mem_map]
      exact reflects.seen tag
  · rintro ⟨tallies, version⟩
    refine ⟨tallies.kind, ?_, fun tag => ?_, tallies.unknown, tallies.ascending, version⟩
    · rw [tallies.records, List.length_map]
    · rw [tallies.seen, List.mem_map]

theorem reflects_new (format : Format) : (new format).Reflects format [] :=
  reflects_iff.mpr ⟨tallies_new format, rfl⟩

theorem check_ok {r : Record} :
    v.check r = (.ok (), next) ↔
      v.format.checkLead r = .ok () ∧ checkLayout v.format r = .ok () ∧
        next = { v.note r with version := (v.format.declaredVersion r).or v.version } := by
  unfold check
  cases lead : v.format.checkLead r with
  | error mismatch => simp [Record.blame]
  | ok =>
    cases layout : checkLayout v.format r with
    | error e => simp [Record.blame]
    | ok => simp [Record.blame, eq_comm]

theorem Reflects.noted {r : Record} (reflects : v.Reflects format before)
    (tag : r.tag = format.tagOf line) (accepted : format.Accepts before line)
    (fields : r.fields = format.split line) (index : r.tagIndex = format.tagIndex) :
    { v.note r with version := (format.declaredVersion r).or v.version }.Reflects format
      (before ++ [line]) := by
  obtain ⟨tallies, version⟩ := reflects_iff.mp reflects
  have noted := tallies.note r
  refine reflects_iff.mpr ⟨?_, ?_⟩
  · rw [List.map_append, List.map_singleton, ← tag]
    exact ⟨noted.kind, noted.records, noted.seen, noted.unknown, noted.ascending⟩
  · rw [version]
    exact versionAfter_of_accepts accepted fields index

/-- One line: the validator passes the record of a line exactly if the line is valid after those
before it, and then reflects that line too. -/
theorem Reflects.step (reflects : v.Reflects format before) (number : Nat)
    (tagged : format.tagIndex < (format.split line).length) :
    v.check ⟨number, format.versionAfter before, format.tagIndex, format.split line⟩ = (.ok (), next) →
      format.Accepts before line ∧ next.Reflects format (before ++ [line]) := by
  intro checked
  obtain ⟨lead, layout, rfl⟩ := check_ok.mp checked
  rw [reflects.kind] at lead layout ⊢
  have accepted : format.Accepts before line :=
    ⟨tagged, Format.checkLead_ok.mp lead, checkLayout_ok.mp layout⟩
  exact ⟨accepted, reflects.noted rfl accepted rfl rfl⟩

theorem Reflects.accepts (reflects : v.Reflects format before) (number : Nat)
    (accepted : format.Accepts before line) :
    ∃ next, v.check ⟨number, format.versionAfter before, format.tagIndex, format.split line⟩ =
      (.ok (), next) := by
  refine ⟨_, check_ok.mpr ⟨?_, ?_, rfl⟩⟩
  · rw [reflects.kind]
    exact Format.checkLead_ok.mpr accepted.lead
  · rw [reflects.kind]
    exact checkLayout_ok.mpr accepted.layout

end Validator

/-! Whole dumps, line after line. -/

section Run

variable {format : Format} {v last : Validator} {before lines : List String} {line : String}

theorem Dump.item_of_tagged (number : Nat) (version : Option Int)
    (tagged : format.tagIndex < (format.split line).length) :
    Dump.item format number version line =
      ⟨.ok ⟨number, version, format.tagIndex, format.split line⟩,
        (format.declaredVersion ⟨number, version, format.tagIndex, format.split line⟩).or version⟩ := by
  simp [Dump.item, Nat.not_le.mpr tagged]

theorem Dump.item_of_untagged (number : Nat) (version : Option Int)
    (untagged : ¬ format.tagIndex < (format.split line).length) :
    ∃ e, (Dump.item format number version line).content = .error e := by
  simp [Dump.item, Nat.not_lt.mp untagged]

/-- The lines are valid one after the other, the given lines being before them all. -/
abbrev AcceptsAll (format : Format) (before lines : List String) : Prop :=
  InTurn (fun earlier => format.Accepts (before ++ earlier)) (lines.filter (!Text.blank ·))

theorem acceptsAll_blank (blank : Text.blank line = true) :
    AcceptsAll format before (line :: lines) ↔ AcceptsAll format before lines := by
  simp [AcceptsAll, blank]

theorem acceptsAll_cons (spoken : Text.blank line = false) :
    AcceptsAll format before (line :: lines) ↔
      format.Accepts before line ∧ AcceptsAll format (before ++ [line]) lines := by
  simp [AcceptsAll, spoken, InTurn.cons_iff]

theorem Dump.item_of_accepts (number : Nat) (accepted : format.Accepts before line) :
    Dump.item format number (format.versionAfter before) line =
      ⟨.ok ⟨number, format.versionAfter before, format.tagIndex, format.split line⟩,
        format.versionAfter (before ++ [line])⟩ := by
  rw [Dump.item_of_tagged number _ accepted.tagged, versionAfter_of_accepts accepted rfl rfl]

theorem Validator.Reflects.run (reflects : v.Reflects format before) (number : Nat)
    (passed : v.checkItems (Dump.itemsFrom format number (format.versionAfter before) lines) = .ok last) :
    AcceptsAll format before lines ∧ last.Reflects format (before ++ lines.filter (!Text.blank ·)) := by
  induction lines generalizing v before number with
  | nil =>
    cases passed
    exact ⟨InTurn.nil, by simpa using reflects⟩
  | cons line rest ih =>
    cases spoken : Text.blank line with
    | true =>
      rw [Dump.itemsFrom, if_pos spoken] at passed
      rw [acceptsAll_blank spoken]
      simpa [spoken] using ih reflects (number + 1) passed
    | false =>
      rw [Dump.itemsFrom, if_neg (by simp [spoken])] at passed
      by_cases tagged : format.tagIndex < (format.split line).length
      · cases checked : v.check ⟨number, format.versionAfter before, format.tagIndex, format.split line⟩ with
        | mk outcome next =>
          cases outcome with
          | error e =>
            simp [Dump.item_of_tagged _ _ tagged, Validator.checkItems, checked] at passed
          | ok =>
            obtain ⟨accepted, reflectsNext⟩ := reflects.step number tagged checked
            rw [Dump.item_of_accepts number accepted] at passed
            simp only [Validator.checkItems, checked] at passed
            obtain ⟨later, reflectsLast⟩ := ih reflectsNext (number + 1) passed
            refine ⟨(acceptsAll_cons spoken).mpr ⟨accepted, later⟩, ?_⟩
            simpa [spoken] using reflectsLast
      · obtain ⟨e, failed⟩ := Dump.item_of_untagged number (format.versionAfter before) tagged
        simp [Validator.checkItems, failed] at passed

theorem Validator.Reflects.accepts_all (reflects : v.Reflects format before) (number : Nat)
    (accepted : AcceptsAll format before lines) :
    ∃ last, v.checkItems (Dump.itemsFrom format number (format.versionAfter before) lines) = .ok last := by
  induction lines generalizing v before number with
  | nil => exact ⟨v, rfl⟩
  | cons line rest ih =>
    cases spoken : Text.blank line with
    | true =>
      rw [Dump.itemsFrom, if_pos spoken]
      exact ih reflects (number + 1) ((acceptsAll_blank spoken).mp accepted)
    | false =>
      obtain ⟨first, later⟩ := (acceptsAll_cons spoken).mp accepted
      obtain ⟨next, checked⟩ := reflects.accepts number first
      obtain ⟨-, reflectsNext⟩ := reflects.step number first.tagged checked
      rw [Dump.itemsFrom, if_neg (by simp [spoken]), Dump.item_of_accepts number first]
      simpa only [Validator.checkItems, checked] using ih reflectsNext (number + 1) later

/-- The reading of valid lines ends with the version that is in force after them. -/
theorem Dump.itemsFrom_version (number : Nat) (accepted : AcceptsAll format before lines) :
    (((Dump.itemsFrom format number (format.versionAfter before) lines).getLast?).map Item.versionAfter).getD
        (format.versionAfter before) =
      format.versionAfter (before ++ lines.filter (!Text.blank ·)) := by
  induction lines generalizing before number with
  | nil => simp [Dump.itemsFrom]
  | cons line rest ih =>
    cases spoken : Text.blank line with
    | true =>
      rw [Dump.itemsFrom, if_pos spoken]
      simpa [spoken] using ih (number + 1) ((acceptsAll_blank spoken).mp accepted)
    | false =>
      obtain ⟨first, later⟩ := (acceptsAll_cons spoken).mp accepted
      rw [Dump.itemsFrom, if_neg (by simp [spoken]), Dump.item_of_accepts number first]
      have rest_version := ih (number + 1) later
      simp only [List.append_assoc, List.singleton_append] at rest_version
      simp only [List.getLast?_cons, spoken, Bool.not_false, List.filter_cons_of_pos, Option.map_some,
        Option.getD_some]
      rw [← rest_version]
      cases (Dump.itemsFrom format (number + 1) (format.versionAfter (before ++ [line])) rest).getLast? <;> rfl

end Run

theorem Validator.missingTag_none {v : Validator} :
    v.missingTag? = none ↔ ∀ tag ∈ v.format.requiredTags, tag ∈ v.seenTags := by
  simp [Validator.missingTag?]

theorem Validator.finish_ok {v : Validator} {report : Report} :
    v.finish = .ok report ↔ (∀ tag ∈ v.format.requiredTags, tag ∈ v.seenTags) ∧
      report = ⟨v.format, v.records, v.version, v.seenTags, v.unknownTags⟩ := by
  rw [← Validator.missingTag_none]
  unfold Validator.finish
  cases v.missingTag? <;> simp [eq_comm]

theorem Dump.items_ok {format : Format} {text : String} {items : List Item} :
    Dump.items format text = .ok items ↔
      Text.blank text = false ∧ items = Dump.itemsFrom format 1 none (Text.lines text) := by
  unfold Dump.items
  cases Text.blank text <;> simp [eq_comm]

theorem verify_ok {format : Format} {text : String} {report : Report} :
    verify format text = .ok report ↔ Text.blank text = false ∧
      ∃ last, (Validator.new format).checkItems (Dump.itemsFrom format 1 none (Text.lines text)) = .ok last ∧
        last.finish = .ok report := by
  unfold verify
  rw [bind_ok]
  simp only [Dump.items_ok, bind_ok]
  constructor
  · rintro ⟨_, ⟨answered, rfl⟩, last, passed, finished⟩
    exact ⟨answered, last, passed, finished⟩
  · rintro ⟨answered, last, passed, finished⟩
    exact ⟨_, ⟨answered, rfl⟩, last, passed, finished⟩

theorem isDump_of_verify {format : Format} {text : String} {report : Report}
    (verified : verify format text = .ok report) : IsDump format text ∧ report.Describes format text := by
  obtain ⟨answered, last, passed, finished⟩ := verify_ok.mp verified
  obtain ⟨accepted, reflects⟩ := (Validator.reflects_new format).run 1 passed
  obtain ⟨complete, rfl⟩ := Validator.finish_ok.mp finished
  rw [List.nil_append] at reflects
  refine ⟨⟨answered, accepted, ?_⟩, ⟨reflects.kind, reflects.records, reflects.seen, reflects.unknown,
    reflects.ascending, reflects.version, ?_⟩⟩
  · rw [reflects.kind] at complete
    exact fun tag required => (reflects.seen tag).mp (complete tag required)
  · intro items read
    obtain ⟨-, rfl⟩ := Dump.items_ok.mp read
    have version := Dump.itemsFrom_version 1 accepted
    rw [List.nil_append, ← reflects.version] at version
    rw [← version, Dump.lastVersion]
    cases h : (Dump.itemsFrom format 1 none (Text.lines text)).getLast? <;>
      simp [h, Format.versionAfter]

/-- The validator passes exactly the valid dumps, and its report describes the dump. -/
theorem verify_ok_iff_isDump (format : Format) (text : String) :
    ((∃ report, verify format text = .ok report) ↔ IsDump format text) ∧
      ∀ report, verify format text = .ok report → report.Describes format text := by
  refine ⟨⟨fun ⟨report, verified⟩ => (isDump_of_verify verified).1, fun valid => ?_⟩,
    fun report verified => (isDump_of_verify verified).2⟩
  obtain ⟨last, passed⟩ := (Validator.reflects_new format).accepts_all 1 valid.lines
  obtain ⟨-, reflects⟩ := (Validator.reflects_new format).run 1 passed
  rw [List.nil_append] at reflects
  have complete : ∀ tag ∈ last.format.requiredTags, tag ∈ last.seenTags := by
    rw [reflects.kind]
    exact fun tag required => (reflects.seen tag).mpr (valid.complete tag required)
  exact ⟨_, verify_ok.mpr ⟨valid.answered, last, passed, Validator.finish_ok.mpr ⟨complete, rfl⟩⟩⟩

end DeviceHarness.Checkin
