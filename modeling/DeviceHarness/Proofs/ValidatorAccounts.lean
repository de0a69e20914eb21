import DeviceHarness.Proofs.DumpVerification

/-! What a validator knows after any records, if whoever calls it goes on after failures. A record whose lead
is malformed leaves no trace. Every other record is counted with its tag before its layout is checked, so
that failures there do not hide it, but only a record that passes declares a version. -/

namespace DeviceHarness.Checkin

/-- The integer after the tag of a record. -/
def Record.integerAfterTag? (r : Record) : Option Int := (r.fields[r.tagIndex + 1]?).bind (Integer.ofText? 64)

namespace Format

instance (format : Format) (fields : List String) : Decidable (format.LeadFits fields) :=
  decidable_of_iff ((format.checkLead ⟨0, none, 0, fields⟩).isOk = true) <| by
    refine Iff.trans ?_ (checkLead_ok (r := ⟨0, none, 0, fields⟩))
    cases format.checkLead ⟨0, none, 0, fields⟩ <;> simp [Except.isOk, Except.toBool]

/-- A record has a good lead, and the layout of its tag at its version, if its tag has one. -/
structure Passes (format : Format) (r : Record) : Prop where
  lead : format.LeadFits r.fields
  layout :
    (∃ layout, format.table.resolve r.tag r.version = some layout ∧ layout.Fits r.tagIndex r.fields) ∨
    format.Unlisted r.tag

end Format

namespace Validator

/-- Checks records in turn, whatever becomes of each. -/
def checkEach (v : Validator) : List Record → List (Record × Except Error Unit) × Validator
  | [] => ([], v)
  | r :: rest =>
    let (outcome, next) := v.check r
    let (later, last) := next.checkEach rest
    ((r, outcome) :: later, last)

/-- The tags of the records with a good lead. -/
def countedTags (format : Format) (checked : List (Record × Except Error Unit)) : List String :=
  (checked.filter fun (r, _) => format.LeadFits r.fields).map fun (r, _) => r.tag

/-- The version of the last `vers` record that passed. -/
def lastDeclared? (checked : List (Record × Except Error Unit)) : Option Int :=
  ((checked.filter fun (r, outcome) => r.tag == "vers" && outcome.isOk).getLast?).bind fun (r, _) =>
    r.integerAfterTag?

/-- What the check of a record does to a validator. -/
structure Handles (v : Validator) (r : Record) : Prop where
  ignored : ¬ v.format.LeadFits r.fields → (v.check r).2 = v
  counted : v.format.LeadFits r.fields → (v.check r).2.records = v.records + 1
  remembered : v.format.LeadFits r.fields →
    ∀ tag, tag ∈ (v.check r).2.seenTags ↔ tag = r.tag ∨ tag ∈ v.seenTags
  passed : (v.check r).1 = .ok () ↔ v.format.Passes r

/-- What a validator knows of the records that it has checked. -/
structure Accounts (v : Validator) (format : Format) (checked : List (Record × Except Error Unit)) : Prop where
  tallies : v.Tallies format (countedTags format checked)
  version : v.version = lastDeclared? checked
  /-- A `vers` record that passed does declare a version. -/
  declares : ∀ r, (r, .ok ()) ∈ checked → r.tag = "vers" → r.integerAfterTag?.isSome = true

variable {format : Format} {v : Validator} {before checked : List (Record × Except Error Unit)} {r : Record}
  {records : List Record}

/-! One record. -/

/-- A check stops at a malformed lead, or at a mismatch when the record has been noted, or not at all. -/
theorem check_cases (v : Validator) (r : Record) :
    (∃ e, ¬ v.format.LeadFits r.fields ∧ v.check r = (.error e, v)) ∨
      (∃ e, v.format.LeadFits r.fields ∧ checkLayout v.format r = .error e ∧ v.check r = (.error e, v.note r)) ∨
      v.format.LeadFits r.fields ∧ checkLayout v.format r = .ok () ∧
        v.check r = (.ok (), { v.note r with version := (v.format.declaredVersion r).or v.version }) := by
  rw [← Format.checkLead_ok]
  unfold check
  cases lead : v.format.checkLead r with
  | error mismatch => exact .inl ⟨_, nofun, rfl⟩
  | ok =>
    cases layout : checkLayout v.format r with
    | error e => exact .inr (.inl ⟨e, rfl, rfl, rfl⟩)
    | ok => exact .inr (.inr ⟨rfl, rfl, rfl⟩)

theorem handles (v : Validator) (r : Record) : v.Handles r := by
  have remembered : ∀ tag, tag ∈ (v.note r).seenTags ↔ tag = r.tag ∨ tag ∈ v.seenTags :=
    fun tag => NameSet.mem_insert
  rcases check_cases v r with ⟨e, lead, checked⟩ | ⟨e, lead, layout, checked⟩ | ⟨lead, layout, checked⟩
  · refine ⟨fun _ => by rw [checked], fun good => absurd good lead, fun good => absurd good lead, ?_⟩
    rw [checked]
    exact iff_of_false nofun fun passes => lead passes.lead
  · refine ⟨fun bad => absurd lead bad, fun _ => by rw [checked]; rfl, fun _ => by rw [checked]; exact remembered, ?_⟩
    rw [checked]
    refine iff_of_false nofun fun passes => ?_
    cases layout.symm.trans (checkLayout_ok.mpr passes.layout)
  · refine ⟨fun bad => absurd lead bad, fun _ => by rw [checked]; rfl, fun _ => by rw [checked]; exact remembered, ?_⟩
    rw [checked]
    exact iff_of_true rfl ⟨lead, checkLayout_ok.mp layout⟩

/-! Records in turn. -/

theorem checkEach_records (v : Validator) (records : List Record) :
    (v.checkEach records).1.map Prod.fst = records := by
  induction records generalizing v with
  | nil => rfl
  | cons r rest ih => exact congrArg (r :: ·) (ih (v.check r).2)

theorem countedTags_append (before : List (Record × Except Error Unit)) (r : Record) (outcome : Except Error Unit) :
    countedTags format (before ++ [(r, outcome)]) =
      countedTags format before ++ if format.LeadFits r.fields then [r.tag] else [] := by
  by_cases lead : format.LeadFits r.fields <;> simp [countedTags, List.filter_append, lead]

theorem lastDeclared?_append (before : List (Record × Except Error Unit)) (r : Record) (outcome : Except Error Unit) :
    lastDeclared? (before ++ [(r, outcome)]) =
      if r.tag = "vers" ∧ outcome.isOk = true then r.integerAfterTag? else lastDeclared? before := by
  by_cases passed : r.tag = "vers" ∧ outcome.isOk = true
  · simp [lastDeclared?, List.filter_append, passed]
  · have skipped : (r.tag == "vers" && outcome.isOk) = false := by simpa using passed
    simp [lastDeclared?, List.filter_append, skipped, passed]

/-- A record that passes declares a version exactly if it is a `vers` record. -/
theorem declaredVersion_of_passes (passes : format.Passes r) (index : r.tagIndex = format.tagIndex) :
    if r.tag = "vers" then ∃ n, r.integerAfterTag? = some n ∧ format.declaredVersion r = some n
    else format.declaredVersion r = none := by
  split
  next vers =>
    rcases passes.layout with ⟨layout, found, fits⟩ | unlisted
    · rw [vers] at found
      rw [index] at fits
      rw [Record.integerAfterTag?, index]
      exact declares_of_fits found fits vers
    · rw [vers] at unlisted
      exact absurd unlisted (not_unlisted_vers format)
  next other => simp [Format.declaredVersion, other]

theorem Accounts.step (accounts : v.Accounts format before) (index : r.tagIndex = format.tagIndex) :
    (v.check r).2.Accounts format (before ++ [(r, (v.check r).1)]) := by
  have kind := accounts.tallies.kind
  -- A record that fails declares nothing, whatever its tag.
  have failing {e : Error} : lastDeclared? (before ++ [(r, .error e)]) = lastDeclared? before := by
    rw [lastDeclared?_append, if_neg (fun passed => Bool.false_ne_true passed.2)]
  have declaring {e : Error} : ∀ other, (other, .ok ()) ∈ before ++ [(r, .error e)] → other.tag = "vers" →
      other.integerAfterTag?.isSome = true := by
    intro other member
    rcases List.mem_append.mp member with earlier | now
    · exact accounts.declares other earlier
    · simp at now
  rcases check_cases v r with ⟨e, lead, checked⟩ | ⟨e, lead, layout, checked⟩ | ⟨lead, layout, checked⟩
  all_goals
    rw [checked]
    rw [kind] at lead
  · refine ⟨?_, accounts.version.trans failing.symm, declaring⟩
    rw [countedTags_append, if_neg lead, List.append_nil]
    exact accounts.tallies
  · refine ⟨?_, accounts.version.trans failing.symm, declaring⟩
    rw [countedTags_append, if_pos lead]
    exact accounts.tallies.note r
  · rw [kind] at layout
    have noted := accounts.tallies.note r
    have declared := declaredVersion_of_passes ⟨lead, checkLayout_ok.mp layout⟩ index
    refine ⟨?_, ?_, ?_⟩
    · rw [countedTags_append, if_pos lead]
      exact ⟨noted.kind, noted.records, noted.seen, noted.unknown, noted.ascending⟩
    · rw [lastDeclared?_append, kind, accounts.version]
      split at declared
      next vers =>
        obtain ⟨n, read, found⟩ := declared
        rw [if_pos ⟨vers, rfl⟩, read, found, Option.some_or]
      next other => rw [if_neg (fun passed => other passed.1), declared, Option.none_or]
    · intro other member vers
      rcases List.mem_append.mp member with earlier | now
      · exact accounts.declares other earlier vers
      · obtain rfl : other = r := by simpa using now
        rw [if_pos vers] at declared
        obtain ⟨n, read, -⟩ := declared
        rw [read]
        rfl

theorem Accounts.run (accounts : v.Accounts format before)
    (indexed : ∀ r ∈ records, r.tagIndex = format.tagIndex) :
    (v.checkEach records).2.Accounts format (before ++ (v.checkEach records).1) := by
  induction records generalizing v before with
  | nil => simpa [checkEach] using accounts
  | cons r rest ih =>
    have next := accounts.step (indexed r List.mem_cons_self)
    have later := ih next fun other member => indexed other (List.mem_cons_of_mem r member)
    rwa [List.append_assoc] at later

theorem accounts_new (format : Format) : (new format).Accounts format [] where
  tallies := tallies_new format
  version := rfl
  declares := by simp

/-- Whatever records a validator is given, and whatever becomes of their checks, it has counted exactly those with
a good lead, it knows exactly their tags, and its version is that of the last `vers` record that passed. Whether
the dump is complete is decided by these tags alone. -/
theorem checkEach_accounts (format : Format) (records : List Record)
    (indexed : ∀ r ∈ records, r.tagIndex = format.tagIndex) :
    let checked := ((new format).checkEach records).1
    let last := ((new format).checkEach records).2
    (∀ (v : Validator) (r : Record), v.Handles r) ∧
    checked.map Prod.fst = records ∧
    last.Accounts format checked ∧
    ((∃ report, last.finish = .ok report) ↔ ∀ tag ∈ format.requiredTags, tag ∈ last.seenTags) ∧
    ∀ report, last.finish = .ok report →
      report = ⟨format, last.records, last.version, last.seenTags, last.unknownTags⟩ := by
  intro checked last
  have accounts : last.Accounts format checked := (accounts_new format).run indexed
  have finished := @finish_ok last
  rw [accounts.tallies.kind] at finished
  refine ⟨handles, checkEach_records _ _, accounts, ?_, fun report ended => (finished.mp ended).2⟩
  constructor
  · intro ⟨report, ended⟩
    exact (finished.mp ended).1
  · intro complete
    exact ⟨_, finished.mpr ⟨complete, rfl⟩⟩

/-- Of five records the first has no good lead, and the third is a `vers` record that does not pass. -/
theorem checkEach_accounts_five :
    let record (line : Nat) (fields : List String) : Record := ⟨line, none, 3, fields⟩
    let records := [record 1 ["9", "0", "q", "vers", "7", "1", "a", "b"],
      record 2 ["9", "0", "i", "vers", "14", "1", "a", "b"], record 3 ["9", "0", "i", "vers", "21"],
      record 4 ["9", "0", "i", "new"], record 5 ["9", "0", "l", "dc", "1", "2", "3", "x"]]
    let last := ((new .batterystats).checkEach records).2
    (∀ r ∈ records, r.tagIndex = Format.batterystats.tagIndex) ∧ last.records = 4 ∧ last.version = some 14 ∧
      ("new" ∈ last.unknownTags ∧ "dc" ∈ last.seenTags) ∧ ¬ ∃ report, last.finish = .ok report := by
  intro record records last
  have indexed : ∀ r ∈ records, r.tagIndex = Format.batterystats.tagIndex := by decide
  obtain ⟨-, -, accounts, complete, -⟩ := checkEach_accounts .batterystats records indexed
  have counted : countedTags .batterystats ((new .batterystats).checkEach records).1 = ["vers", "vers", "new", "dc"] := by
    decide +kernel
  have declared : lastDeclared? ((new .batterystats).checkEach records).1 = some 14 := by decide +kernel
  have tallies := accounts.tallies
  rw [counted] at tallies
  have unlisted : Format.batterystats.Unlisted "new" := Format.unlisted_iff.mpr (by decide +kernel)
  refine ⟨indexed, tallies.records, accounts.version.trans declared, ⟨?_, ?_⟩, ?_⟩
  · apply (tallies.unknown "new").mpr
    exact ⟨(tallies.seen "new").mpr (by decide), unlisted⟩
  · exact (tallies.seen "dc").mpr (by decide)
  · rw [complete]
    intro all
    have power := (tallies.seen "m").mp (all "m" (by decide))
    exact absurd power (by decide)

end Validator
end DeviceHarness.Checkin
