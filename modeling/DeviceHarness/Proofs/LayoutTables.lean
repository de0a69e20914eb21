import DeviceHarness.Proofs.DumpVerification
import Mathlib.Data.List.Perm.Basic

/-! The tables that describe the dumps. Of the entries that list a tag, either one serves every version, or one serves
those before some version and another those since. So the order of a table is of no account, and a tag that is listed
at all has a layout at every version. The number of fields that a layout asks for leaves room for its types. -/

namespace DeviceHarness

theorem Text.head?_append {s : String} {c : Char} (starts : s.toList.head? = some c) (rest : String) :
    (s ++ rest).toList.head? = some c := by
  rw [String.toList_append, List.head?_append, starts, Option.some_or]

namespace Checkin

namespace VersionRange

@[simp] theorem contains_any (version : Option Int) : any.contains version = true := by
  cases version <;> rfl

@[simp] theorem contains_below (bound : Int) (version : Option Int) :
    (below bound).contains version = !version.any (bound ≤ ·) := by
  cases version with
  | none => rfl
  | some n =>
    show (true && decide (n < bound)) = !decide (bound ≤ n)
    rw [Bool.true_and, ← decide_not, decide_eq_decide]
    exact Int.not_le.symm

@[simp] theorem contains_atLeast (bound : Int) (version : Option Int) :
    (atLeast bound).contains version = version.any (bound ≤ ·) := by
  cases version with
  | none => rfl
  | some n => simp [contains, atLeast]

/-- Ranges that leave no version out and have none in common. -/
inductive Divide : List VersionRange → Prop where
  | never : Divide [any]
  | since (bound : Int) : Divide [below bound, atLeast bound]

theorem Divide.one {ranges : List VersionRange} (divide : Divide ranges) (version : Option Int) :
    (ranges.filter (·.contains version)).length = 1 := by
  cases divide with
  | never => simp
  | since bound => cases later : version.any (bound ≤ ·) <;> simp [later]

end VersionRange

namespace Table

variable {table other : Table} {tag : String} {version later : Option Int}

def entriesFor (table : Table) (tag : String) (version : Option Int) : List Entry :=
  table.filter fun e => e.tags.contains tag && e.versions.contains version

def rangesOf (table : Table) (tag : String) : List VersionRange :=
  (table.filter (·.tags.contains tag)).map Entry.versions

theorem resolve_eq_head? (table : Table) (tag : String) (version : Option Int) :
    table.resolve tag version = (table.entriesFor tag version).head?.map Entry.layout := by
  rw [resolve, entriesFor, List.head?_filter]

theorem length_entriesFor (table : Table) (tag : String) (version : Option Int) :
    (table.entriesFor tag version).length = ((table.rangesOf tag).filter (·.contains version)).length := by
  rw [entriesFor, rangesOf, List.filter_map, List.length_map, List.filter_filter]
  simp only [Function.comp_apply, Bool.and_comm]

theorem entriesFor_unlisted (unlisted : ∀ e ∈ table, tag ∉ e.tags) (version : Option Int) :
    table.entriesFor tag version = [] := by
  apply List.filter_eq_nil_iff.mpr
  intro e member
  simp [unlisted e member]

theorem entriesFor_listed (divide : ∀ tag ∈ table.flatMap Entry.tags, VersionRange.Divide (table.rangesOf tag))
    (listed : ¬ ∀ e ∈ table, tag ∉ e.tags) (version : Option Int) : ∃ e, table.entriesFor tag version = [e] := by
  apply List.length_eq_one_iff.mp
  rw [length_entriesFor]
  apply VersionRange.Divide.one
  apply divide
  rw [List.mem_flatMap]
  simpa using listed

/-- Where a table has no more than one entry, it does not matter in which order they are. -/
theorem resolve_perm (perm : other.Perm table) (few : (table.entriesFor tag version).length ≤ 1) :
    other.resolve tag version = table.resolve tag version := by
  have same : (other.entriesFor tag version).Perm (table.entriesFor tag version) := perm.filter _
  rw [resolve_eq_head?, resolve_eq_head?]
  match single : table.entriesFor tag version, few with
  | [], _ =>
    rw [single] at same
    rw [same.eq_nil]
  | [entry], _ =>
    rw [single] at same
    rw [List.perm_singleton.mp same]

/-- Versions between which no range of a table makes a difference have the same layouts. -/
theorem resolve_congr (alike : ∀ e ∈ table, e.versions.contains version = e.versions.contains later) :
    table.resolve tag version = table.resolve tag later := by
  rw [resolve_eq_head?, resolve_eq_head?, entriesFor, entriesFor]
  congr 2
  apply List.filter_congr
  intro e member
  rw [alike e member]

theorem mem_of_resolve {layout : Layout} (resolved : table.resolve tag version = some layout) :
    ∃ e ∈ table, e.layout = layout := by
  obtain ⟨e, found, rfl⟩ := Option.map_eq_some_iff.mp resolved
  exact ⟨e, List.mem_of_find?_eq_some found, rfl⟩

end Table

def Arity.least : Arity → Nat
  | exactly n => n
  | atLeast n => n

theorem Arity.least_le {arity : Arity} {found : Nat} (admits : arity.Admits found) : arity.least ≤ found := by
  cases arity with
  | exactly n => exact Nat.le_of_eq (Eq.symm admits)
  | atLeast n => exact admits

/-- A layout asks for enough fields for its types, and leaves none over that it says nothing of. -/
structure Layout.Counts (l : Layout) (tagIndex : Nat) : Prop where
  room : tagIndex + 1 + l.fields.length ≤ l.arity.least
  full : l.arity = .exactly l.arity.least → l.rest = .unchecked → l.arity.least ≤ tagIndex + 1 + l.fields.length

instance (l : Layout) (tagIndex : Nat) : Decidable (l.Counts tagIndex) :=
  decidable_of_iff
    (tagIndex + 1 + l.fields.length ≤ l.arity.least ∧
      (l.arity = .exactly l.arity.least → l.rest = .unchecked → l.arity.least ≤ tagIndex + 1 + l.fields.length))
    ⟨fun ⟨room, full⟩ => ⟨room, full⟩, fun counts => ⟨counts.room, counts.full⟩⟩

theorem Layout.Counts.covers {l : Layout} {r : Record} {n : Nat} (counts : l.Counts r.tagIndex)
    (admits : l.arity.Admits r.fields.length) (exact : l.arity = .exactly n) (silent : l.rest = .unchecked) :
    ∀ i, r.tagIndex < i → i < r.fields.length → ∃ type, l.fields[i - (r.tagIndex + 1)]? = some type := by
  intro i behind inside
  have full := counts.full (by rw [exact]; rfl) silent
  rw [exact] at admits full
  have count : r.fields.length = n := admits
  have bound : n ≤ r.tagIndex + 1 + l.fields.length := full
  exact ⟨_, List.getElem?_eq_getElem (by omega)⟩

/-! The tables of both formats. -/

theorem Procstats.ranges : ∀ tag ∈ table.flatMap Entry.tags,
    table.rangesOf tag = [.any] ∨ table.rangesOf tag = [.below appVersionSince, .atLeast appVersionSince] := by
  decide +kernel

theorem Batterystats.ranges : ∀ tag ∈ table.flatMap Entry.tags, table.rangesOf tag = [.any] := by
  decide +kernel

namespace Format

variable {format : Format} {tag : String}

theorem counts (format : Format) : ∀ e ∈ format.table, e.layout.Counts format.tagIndex := by
  cases format <;> decide +kernel

theorem divides (format : Format) :
    ∀ tag ∈ format.table.flatMap Entry.tags, VersionRange.Divide (format.table.rangesOf tag) := by
  intro tag listed
  cases format with
  | procstats =>
    rcases Procstats.ranges tag listed with always | split
    · exact always ▸ .never
    · exact split ▸ .since _
  | batterystats => exact Batterystats.ranges tag listed ▸ .never

theorem resolve_listed (listed : ¬ format.Unlisted tag) (version : Option Int) :
    ∃ layout, format.table.resolve tag version = some layout := by
  obtain ⟨e, single⟩ := Table.entriesFor_listed format.divides listed version
  rw [Table.resolve_eq_head?, single]
  exact ⟨_, rfl⟩

theorem resolve_alike {version later : Option Int}
    (alike : format = .procstats → version.any (4 ≤ ·) = later.any (4 ≤ ·)) (tag : String) :
    format.table.resolve tag version = format.table.resolve tag later := by
  apply Table.resolve_congr
  intro e member
  cases format with
  | procstats =>
    have ranges : ∀ e ∈ Procstats.table, e.versions ∈ [.any, .below 4, .atLeast 4] := by decide +kernel
    have range := ranges e member
    simp only [List.mem_cons, List.not_mem_nil, or_false] at range
    rcases range with same | same | same <;> simp [same, alike rfl]
  | batterystats =>
    have ranges : ∀ e ∈ Batterystats.table, e.versions = .any := by decide +kernel
    simp [ranges e member]

/-- What is wrong with a record, in the order in which it is looked at. -/
inductive Fault (format : Format) (r : Record) (mismatch : Mismatch) : Prop where
  | lead (found : format.checkLead r = .error mismatch)
  | layout {layout : Layout} (lead : format.LeadFits r.fields)
      (resolved : format.table.resolve r.tag r.version = some layout) (found : layout.checkFields r = .error mismatch)

end Format

namespace Validator

theorem checkLayout_error {format : Format} {r : Record} {e : Error} :
    checkLayout format r = .error e ↔ ∃ layout mismatch, format.table.resolve r.tag r.version = some layout ∧
      layout.checkFields r = .error mismatch ∧ e = r.complaint mismatch.message := by
  unfold checkLayout
  cases found : format.table.resolve r.tag r.version with
  | some layout => simp [Layout.check, Record.blame_error]
  | none =>
    have unlisted : format.Unlisted r.tag := by
      apply Classical.byContradiction
      intro listed
      obtain ⟨layout, resolved⟩ := Format.resolve_listed listed r.version
      cases found.symm.trans resolved
    simp [Format.unlisted_iff.mp unlisted]

theorem check_outcome (v : Validator) (r : Record) :
    (v.check r).1 = r.blame (v.format.checkLead r) >>= fun _ => checkLayout v.format r := by
  unfold check
  cases v.format.checkLead r with
  | error mismatch => rfl
  | ok =>
    dsimp only [Record.blame]
    cases checkLayout v.format r <;> rfl

/-- A check complains of the lead of a record or of its layout, and of nothing else. -/
theorem check_error {v : Validator} {r : Record} {e : Error} :
    (v.check r).1 = .error e ↔ ∃ mismatch, v.format.Fault r mismatch ∧ e = r.complaint mismatch.message := by
  rw [check_outcome, bind_error, Record.blame_error, checkLayout_error]
  constructor
  · rintro (⟨mismatch, found, complaint⟩ | ⟨_, lead, layout, mismatch, resolved, found, complaint⟩)
    · exact ⟨mismatch, .lead found, complaint⟩
    · exact ⟨mismatch, .layout (Format.checkLead_ok.mp (Record.blame_ok.mp lead)) resolved found, complaint⟩
  · intro ⟨mismatch, fault, complaint⟩
    cases fault with
    | lead found => exact .inl ⟨mismatch, found, complaint⟩
    | layout lead resolved found =>
      exact .inr ⟨(), Record.blame_ok.mpr (Format.checkLead_ok.mpr lead), _, mismatch, resolved, found, complaint⟩

end Validator

/-! A missing layout is nothing that the check of a record complains of. -/

section Complaints

variable {mismatch : Mismatch} {version : Option Int}

theorem bind_ne {ε α β : Type} {first : Except ε α} {next : α → Except ε β} {e : ε} (one : first ≠ .error e)
    (two : ∀ value, next value ≠ .error e) : (first >>= next) ≠ .error e := by
  intro failed
  rcases bind_error.mp failed with early | ⟨value, -, late⟩
  · exact one early
  · exact two value late

theorem Check.require_ne {holds : Bool} {otherwise : Mismatch} (other : otherwise ≠ mismatch) :
    Check.require holds otherwise ≠ .error mismatch := by
  cases holds <;> simp [Check.require, other]

theorem Check.all_ne {α : Type} {check : α → Check} (each : ∀ item, check item ≠ .error mismatch) (items : List α) :
    Check.all check items ≠ .error mismatch := by
  induction items with
  | nil => nofun
  | cons item rest ih => exact bind_ne (each item) fun _ => ih

theorem integer?_ne (value : String) : integer? value ≠ .error (.noLayout version) := by
  unfold integer?
  split <;> simp

theorem checkInteger_ne (value : String) : checkInteger value ≠ .error (.noLayout version) := by
  unfold checkInteger integer?
  split <;> simp [Except.map]

theorem Record.integerAt?_ne (r : Record) (index : Nat) : r.integerAt? index ≠ .error (.noLayout version) := by
  apply bind_ne
  · unfold Record.field?
    split <;> simp
  · exact integer?_ne

theorem Format.checkLead_ne (format : Format) (r : Record) : format.checkLead r ≠ .error (.noLayout version) := by
  cases format with
  | procstats => nofun
  | batterystats =>
    apply bind_ne (r.integerAt?_ne 0)
    intro _
    apply bind_ne (r.integerAt?_ne 1)
    intro _
    apply bind_ne
    · unfold Record.field?
      split <;> simp
    · intro letter
      exact Check.require_ne nofun

theorem Field.check_ne (type : Field) (value : String) : type.check value ≠ .error (.noLayout version) := by
  cases type with
  | text => nofun
  | int => exact checkInteger_ne value
  | double =>
    unfold Field.check double?
    dsimp only
    split <;> simp [Except.map]
  | literal expected => exact Check.require_ne nofun
  | intOr placeholder =>
    unfold Field.check
    dsimp only
    split
    · nofun
    · exact checkInteger_ne value
  | ints n => exact bind_ne (Check.require_ne nofun) fun _ => Check.all_ne checkInteger_ne _

theorem checkStateCode_ne (ofProcess : Bool) (code : String) :
    checkStateCode ofProcess code ≠ .error (.noLayout version) := Check.require_ne nofun

theorem checkState_ne (ofProcess : Bool) (values : Nat) (field : String) :
    checkState ofProcess values field ≠ .error (.noLayout version) := by
  unfold checkState
  cases valuesOf field with
  | nil =>
    intro failed
    cases failed
  | cons code numbers =>
    apply bind_ne
    · exact Check.require_ne nofun
    · intro _
      exact bind_ne (checkStateCode_ne _ _) fun _ => Check.all_ne checkInteger_ne _

theorem checkTotals_ne (fields : List String) : checkTotals fields ≠ .error (.noLayout version) := by
  induction fields with
  | nil => nofun
  | cons field rest ih =>
    unfold checkTotals
    split
    · apply bind_ne (checkStateCode_ne _ _)
      intro _
      split
      · nofun
      · exact bind_ne (checkInteger_ne _) fun _ => ih
    · nofun

theorem Rest.check_ne (rest : Rest) (fields : List String) : rest.check fields ≠ .error (.noLayout version) := by
  cases rest with
  | unchecked => nofun
  | states ofProcess values => exact Check.all_ne (checkState_ne ofProcess values) fields
  | totals => exact checkTotals_ne fields
  | trailingInts n => exact Check.all_ne checkInteger_ne _

theorem Layout.checkTyped_ne (types : List Field) (values : List String) :
    checkTyped types values ≠ .error (.noLayout version) := by
  induction types generalizing values with
  | nil => nofun
  | cons type types ih =>
    cases values with
    | nil => nofun
    | cons value values => exact bind_ne (type.check_ne value) fun _ => ih values

theorem Layout.checkFields_ne (l : Layout) (r : Record) : l.checkFields r ≠ .error (.noLayout version) := by
  apply bind_ne
  · cases l.arity <;> exact Check.require_ne nofun
  · intro _
    apply bind_ne
    · exact Check.require_ne nofun
    · intro _
      exact bind_ne (checkTyped_ne _ _) fun _ => l.rest.check_ne _

theorem Format.Fault.ne_noLayout {format : Format} {r : Record} (fault : format.Fault r mismatch) :
    mismatch ≠ .noLayout version := by
  rintro rfl
  cases fault with
  | lead found => exact format.checkLead_ne r found
  | layout _ _ found => exact Layout.checkFields_ne _ r found

end Complaints

def Mismatch.initial : Mismatch → Char
  | missingField _ | badStateCode _ | badAggregation _ => 'm'
  | noProcessStates _ => 'p'
  | noLayout _ => 'n'
  | _ => 'e'

theorem Mismatch.head?_message (m : Mismatch) : m.message.toList.head? = some m.initial := by
  -- The equations of `message` are slow to generate, so it is opened as it stands.
  delta message
  cases m
  all_goals simp only [String.append_assoc]
  all_goals exact Text.head?_append rfl _

/-- No other mismatch is worded like a missing layout. -/
theorem Mismatch.eq_noLayout {m : Mismatch} {version : Option Int} (same : m.message = (noLayout version).message) :
    ∃ other, m = .noLayout other := by
  have first : some m.initial = some 'n' := by
    rw [← m.head?_message, same]
    exact (noLayout version).head?_message
  cases m with
  | noLayout other => exact ⟨other, rfl⟩
  | _ => cases first

theorem Record.complaint_inj {r : Record} {text other : String} (same : r.complaint text = r.complaint other) :
    text = other :=
  (String.append_right_inj _).mp (Error.assertion.inj same)

theorem Validator.check_ne_noLayout (v : Validator) (r : Record) (version : Option Int) :
    (v.check r).1 ≠ .error (r.complaint (Mismatch.noLayout version).message) := by
  intro failed
  obtain ⟨mismatch, fault, same⟩ := check_error.mp failed
  obtain ⟨other, missing⟩ := Mismatch.eq_noLayout (Record.complaint_inj same).symm
  exact fault.ne_noLayout missing

/-- Every tag of a table has one layout at every version, whatever the order of the entries, and a record with as many
fields as its layout asks for has a field for each of its types. -/
theorem Format.one_layout (format : Format) :
    (∀ tag version, (format.Unlisted tag → format.table.entriesFor tag version = []) ∧
      (¬ format.Unlisted tag → ∃ entry, format.table.entriesFor tag version = [entry])) ∧
    (∀ other : Table, other.Perm format.table → ∀ tag version,
      other.resolve tag version = format.table.resolve tag version) ∧
    (∀ (v : Validator) (r : Record) (version : Option Int),
      (v.check r).1 ≠ .error (r.complaint (Mismatch.noLayout version).message)) ∧
    (∀ (tag : String) (version later : Option Int),
      (format = .procstats → version.any (4 ≤ ·) = later.any (4 ≤ ·)) →
        format.table.resolve tag version = format.table.resolve tag later) ∧
    ∀ (r : Record) (layout : Layout), r.tagIndex = format.tagIndex →
      format.table.resolve r.tag r.version = some layout → layout.arity.Admits r.fields.length →
        r.tagIndex + 1 + layout.fields.length ≤ r.fields.length ∧
        ∀ n, layout.arity = .exactly n → layout.rest = .unchecked → ∀ i, r.tagIndex < i → i < r.fields.length →
          ∃ type, layout.fields[i - (r.tagIndex + 1)]? = some type := by
  have unlisted (tag : String) (absent : format.Unlisted tag) (version : Option Int) :
      format.table.entriesFor tag version = [] := Table.entriesFor_unlisted absent version
  have listed (tag : String) (present : ¬ format.Unlisted tag) (version : Option Int) :
      ∃ entry, format.table.entriesFor tag version = [entry] :=
    Table.entriesFor_listed format.divides present version
  refine ⟨fun tag version => ⟨(unlisted tag · version), (listed tag · version)⟩, ?_, Validator.check_ne_noLayout, ?_, ?_⟩
  · intro other perm tag version
    apply Table.resolve_perm perm
    by_cases absent : format.Unlisted tag
    · simp [unlisted tag absent version]
    · obtain ⟨entry, single⟩ := listed tag absent version
      simp [single]
  · intro tag version later alike
    exact Format.resolve_alike alike tag
  · intro r layout index resolved admits
    obtain ⟨entry, member, rfl⟩ := Table.mem_of_resolve resolved
    have counts := format.counts entry member
    rw [← index] at counts
    refine ⟨Nat.le_trans counts.room (Arity.least_le admits), ?_⟩
    intro n exact silent
    exact counts.covers admits exact silent

end Checkin
end DeviceHarness
