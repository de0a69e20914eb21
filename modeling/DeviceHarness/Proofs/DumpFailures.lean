import DeviceHarness.Proofs.LayoutTables
import DeviceHarness.Proofs.ValidatorAccounts

/-! Why a dump is refused. The first bad line is blamed, by its number among all lines and for the first thing that is
wrong with it. It is bad only in view of the lines before it, so whatever comes after it is not even looked at.
Whether a dump is complete is asked when all of its lines are good. -/

namespace DeviceHarness

namespace Text

/-- Whatever ends a line is blank. -/
theorem blank_eq_all_lines (s : String) : blank s = (lines s).all blank := by
  have feed : isBlank '\n' = true := rfl
  have carriage : isBlank '\r' = true := rfl
  have each (s : List Char) : s.all isBlank = (linesOf s).all (·.all isBlank) := by
    induction s using linesOf.induct with
    | case1 => rfl
    | case2 rest ih => simp [linesOf, feed, ih]
    | case3 rest ih => simp [linesOf, feed, carriage, ih]
    | case4 c rest other joined none ih =>
      obtain rfl := linesOf_eq_nil.mp none
      rw [linesOf.eq_4 c [] other joined, none]
      simp
    | case5 c rest other joined line more split ih =>
      rw [split] at ih
      rw [linesOf.eq_4 c rest other joined, split, List.all_cons, ih, List.all_cons, List.all_cons, List.all_cons,
        Bool.and_assoc]
  have same : blank ∘ String.ofList = (·.all isBlank) := by
    funext line
    rw [Function.comp_apply, blank, String.toList_ofList]
  rw [lines, List.all_map, same, blank, each]

end Text

namespace Checkin

namespace Format

variable (format : Format)

/-- The version that the record of a line declares. -/
def declared? (line : String) : Option Int := format.declaredVersion ⟨0, none, format.tagIndex, format.split line⟩

/-- The version in force after lines, declared by the nearest of them that declares one. -/
def inForce (before : List String) : Option Int :=
  ((before.filter (!Text.blank ·)).filterMap format.declared?).getLast?

def recordAfter (before : List String) (line : String) : Record :=
  ⟨before.length + 1, format.inForce before, format.tagIndex, format.split line⟩

/-- A line that no dump may have after the given lines: one without a tag, or with a record that does not pass. -/
structure Refuses (before : List String) (line : String) : Prop where
  spoken : Text.blank line = false
  bad : ¬ (format.tagIndex < (format.split line).length ∧ format.Passes (format.recordAfter before line))

/-- A failure that blames a line after the given lines, and names its number. -/
inductive Blames (before : List String) (line : String) : Error → Prop where
  | untagged (short : (format.split line).length ≤ format.tagIndex) :
    Blames before line (.assertion ("line " ++ Integer.text (before.length + 1 : Nat) ++ " has no tag: " ++ line))
  | record {mismatch : Mismatch} (tagged : format.tagIndex < (format.split line).length)
      (fault : format.Fault (format.recordAfter before line) mismatch) :
    Blames before line (.assertion ("`" ++ format.tagOf line ++ "` record on line " ++
      Integer.text (before.length + 1 : Nat) ++ ": " ++ mismatch.message))

structure RefusesFirst (before : List String) (line : String) : Prop where
  refused : format.Refuses before line
  earlier : InTurn (fun front other => ¬ format.Refuses front other) before

def RefusesSome (text : String) : Prop :=
  ∃ before line after, Text.lines text = before ++ line :: after ∧ format.Refuses before line

/-- The failure of a dump that lacks a required tag. -/
def incomplete (tag : String) : Error :=
  .assertion ("no line with the `" ++ tag ++ "` tag in `" ++ format.command ++ "` output")

end Format

variable {format : Format} {v : Validator} {before lines : List String} {line : String}

theorem Format.inForce_append (format : Format) (before : List String) (line : String) :
    format.inForce (before ++ [line]) =
      if Text.blank line then format.inForce before else (format.declared? line).or (format.inForce before) := by
  unfold Format.inForce
  cases spoken : Text.blank line with
  | true => simp [spoken]
  | false => cases declared : format.declared? line <;> simp [spoken, declared]

/-- What the check of a record comes to depends on the format of the validator alone. -/
theorem Validator.check_outcome_new (kind : v.format = format) (r : Record) :
    (v.check r).1 = ((Validator.new format).check r).1 := by
  rw [check_outcome, check_outcome, kind]
  rfl

theorem Validator.check_passes (kind : v.format = format) {r : Record} (passes : format.Passes r) :
    v.check r = (.ok (), (v.check r).2) := by
  rw [← kind] at passes
  exact Prod.ext ((v.handles r).passed.mpr passes) rfl

theorem Validator.check_format (v : Validator) (r : Record) : (v.check r).2.format = v.format := by
  rcases v.check_cases r with ⟨e, -, checked⟩ | ⟨e, -, -, checked⟩ | ⟨-, -, checked⟩ <;> rw [checked] <;> rfl

theorem Validator.checkItems_ok {next : Validator} {r : Record} (checked : v.check r = (.ok (), next))
    (version : Option Int) (rest : List Item) : v.checkItems (⟨.ok r, version⟩ :: rest) = next.checkItems rest := by
  simp only [checkItems, checked]

theorem Validator.checkItems_error {r : Record} {e : Error} (failed : (v.check r).1 = .error e) (version : Option Int)
    (rest : List Item) : v.checkItems (⟨.ok r, version⟩ :: rest) = .error e := by
  obtain ⟨next, checked⟩ : ∃ next, v.check r = (.error e, next) := ⟨_, Prod.ext failed rfl⟩
  simp only [checkItems, checked]

/-- Good lines are passed over, and leave the version in force after them. -/
theorem Validator.checkItems_good (kind : v.format = format) (later : List String)
    (good : InTurn (fun front other => ¬ format.Refuses (before ++ front) other) lines) :
    ∃ next : Validator, next.format = format ∧
      v.checkItems (Dump.itemsFrom format (before.length + 1) (format.inForce before) (lines ++ later)) =
        next.checkItems (Dump.itemsFrom format ((before ++ lines).length + 1) (format.inForce (before ++ lines)) later) := by
  induction lines generalizing v before with
  | nil => exact ⟨v, kind, by simp⟩
  | cons line rest ih =>
    obtain ⟨first, rest_good⟩ := InTurn.cons_iff.mp good
    rw [List.append_nil] at first
    have moved : before ++ line :: rest = (before ++ [line]) ++ rest := by simp
    have later_good : InTurn (fun front other => ¬ format.Refuses ((before ++ [line]) ++ front) other) rest := by
      simpa using rest_good
    have version := format.inForce_append before line
    rw [moved, List.cons_append, Dump.itemsFrom]
    cases spoken : Text.blank line with
    | true =>
      obtain ⟨next, same, run⟩ := ih kind later_good
      rw [spoken, if_pos rfl] at version
      rw [if_pos rfl]
      refine ⟨next, same, ?_⟩
      rw [← run, version, List.length_append, List.length_singleton]
    | false =>
      have passes : format.tagIndex < (format.split line).length ∧ format.Passes (format.recordAfter before line) := by
        apply Classical.byContradiction
        intro bad
        exact first ⟨spoken, bad⟩
      have checked := check_passes kind passes.2
      obtain ⟨next, same, run⟩ := ih ((v.check_format (format.recordAfter before line)).trans kind) later_good
      rw [spoken, if_neg Bool.false_ne_true] at version
      rw [if_neg Bool.false_ne_true, Dump.item_of_tagged _ _ passes.1]
      refine ⟨next, same, ?_⟩
      rw [← run, version, List.length_append, List.length_singleton]
      exact checkItems_ok checked _ _

/-- A bad line is blamed, whatever the validator has checked before and whatever lines come after. -/
theorem Format.Refuses.blamed (refused : format.Refuses before line) :
    ∃ e, format.Blames before line e ∧ ∀ (v : Validator) (later : List String), v.format = format →
      v.checkItems (Dump.itemsFrom format (before.length + 1) (format.inForce before) (line :: later)) = .error e := by
  have read (later : List String) :
      Dump.itemsFrom format (before.length + 1) (format.inForce before) (line :: later) =
        Dump.item format (before.length + 1) (format.inForce before) line :: Dump.itemsFrom format (before.length + 2)
          (Dump.item format (before.length + 1) (format.inForce before) line).versionAfter later := by
    rw [Dump.itemsFrom, if_neg (by simp [refused.spoken])]
  by_cases tagged : format.tagIndex < (format.split line).length
  · have fails : ¬ format.Passes (format.recordAfter before line) := fun passes => refused.bad ⟨tagged, passes⟩
    cases outcome : ((Validator.new format).check (format.recordAfter before line)).1 with
    | ok => exact absurd (((Validator.new format).handles _).passed.mp outcome) fails
    | error e =>
      obtain ⟨mismatch, fault, complaint⟩ := Validator.check_error.mp outcome
      refine ⟨e, complaint ▸ .record tagged fault, ?_⟩
      intro v later kind
      rw [read, Dump.item_of_tagged _ _ tagged]
      exact Validator.checkItems_error ((Validator.check_outcome_new kind _).trans outcome) _ _
  · have short : (format.split line).length ≤ format.tagIndex := Nat.not_lt.mp tagged
    refine ⟨_, .untagged short, ?_⟩
    intro v later _
    rw [read, Dump.item, if_pos short]
    rfl

/-! Whole dumps. -/

theorem verify_eq {text : String} (answered : Text.blank text = false) :
    verify format text = (Validator.new format).checkItems (Dump.itemsFrom format 1 none (Text.lines text)) >>=
      Validator.finish := by
  rw [verify, Dump.items, answered]
  rfl

theorem Format.RefusesFirst.blamed (first : format.RefusesFirst before line) :
    ∃ e, format.Blames before line e ∧ ∀ text after, Text.lines text = before ++ line :: after →
      verify format text = .error e := by
  obtain ⟨e, blames, failed⟩ := first.refused.blamed
  refine ⟨e, blames, ?_⟩
  intro text after split
  have answered : Text.blank text = false := by
    cases silent : Text.blank text with
    | false => rfl
    | true =>
      have member : line ∈ Text.lines text := by simp [split]
      rw [Text.blank_eq_all_lines] at silent
      have blank := List.all_eq_true.mp silent line member
      cases blank.symm.trans first.refused.spoken
  have good : InTurn (fun front other => ¬ format.Refuses ([] ++ front) other) before := first.earlier
  obtain ⟨next, kind, run⟩ := Validator.checkItems_good (v := .new format) rfl (line :: after) good
  have stopped := run.trans (failed next after kind)
  rw [verify_eq answered, split]
  exact bind_error.mpr (.inl stopped)

theorem Format.RefusesSome.blamed {text : String} (refused : format.RefusesSome text) :
    ∃ before line after e, Text.lines text = before ++ line :: after ∧ format.RefusesFirst before line ∧
      format.Blames before line e ∧
      ∀ other rest, Text.lines other = before ++ line :: rest → verify format other = .error e := by
  obtain ⟨before, line, after, split, bad, earlier⟩ := InTurn.first refused
  have first : format.RefusesFirst before line := ⟨bad, earlier⟩
  obtain ⟨e, blames, fails⟩ := first.blamed
  exact ⟨before, line, after, e, split, first, blames, fails⟩

theorem verify_of_good {text : String} (answered : Text.blank text = false) (good : ¬ format.RefusesSome text) :
    ∃ last : Validator, last.format = format ∧ verify format text = last.finish := by
  have each : InTurn (fun front other => ¬ format.Refuses ([] ++ front) other) (Text.lines text) := by
    intro before line after split refused
    exact good ⟨before, line, after, split, refused⟩
  obtain ⟨last, kind, run⟩ := Validator.checkItems_good (v := .new format) rfl [] each
  rw [List.append_nil] at run
  refine ⟨last, kind, ?_⟩
  rw [verify_eq answered]
  exact congrArg (· >>= Validator.finish) run

theorem Format.Blames.isAssertion {e : Error} (blames : format.Blames before line e) : e.isAssertion = true := by
  cases blames <;> rfl

theorem Format.Blames.ne_incomplete {e : Error} (blames : format.Blames before line e) (tag : String) :
    e ≠ format.incomplete tag := by
  -- The messages already differ in their first characters.
  have start : ("no line with the `" ++ tag ++ "` tag in `" ++ format.command ++ "` output").toList.head? = some 'n' := by
    simp only [String.append_assoc]
    exact Text.head?_append rfl _
  intro same
  cases blames with
  | untagged short =>
    rw [← Error.assertion.inj same, String.append_assoc, String.append_assoc, Text.head?_append (c := 'l') rfl] at start
    cases start
  | record tagged fault =>
    rw [← Error.assertion.inj same] at start
    simp only [String.append_assoc] at start
    rw [Text.head?_append (c := '`') rfl] at start
    cases start

theorem Validator.finish_error {last : Validator} {e : Error} (failed : last.finish = .error e) :
    ∃ tag ∈ last.format.requiredTags, e = last.format.incomplete tag := by
  unfold finish at failed
  split at failed
  next tag missing =>
    cases failed
    exact ⟨tag, List.mem_of_find?_eq_some missing, rfl⟩
  next => cases failed

theorem verify_error_isAssertion {text : String} {e : Error} (failed : verify format text = .error e) :
    e.isAssertion = true := by
  cases silent : Text.blank text with
  | true =>
    rw [verify, Dump.items, silent] at failed
    cases failed
    rfl
  | false =>
    by_cases refused : format.RefusesSome text
    · obtain ⟨before, line, after, other, split, -, blames, fails⟩ := refused.blamed
      cases failed.symm.trans (fails text after split)
      exact blames.isAssertion
    · obtain ⟨last, -, finished⟩ := verify_of_good silent refused
      obtain ⟨tag, -, rfl⟩ := Validator.finish_error (finished.symm.trans failed)
      rfl

/-- A dump is refused as an ordinary test failure. Its first bad line decides which one, also when more is printed after
it, and a tag is missed only where no line is bad. -/
theorem verify_blames_first (format : Format) :
    (∀ text e, verify format text = .error e → e.isAssertion = true) ∧
    (∀ text, format.RefusesSome text → ∃ before line after e,
      Text.lines text = before ++ line :: after ∧ format.RefusesFirst before line ∧ format.Blames before line e ∧
      verify format text = .error e ∧
      (text.toList.getLast? ≠ some '\r' → ∀ more, verify format (text ++ "\n" ++ more) = .error e)) ∧
    ∀ text tag, verify format text = .error (format.incomplete tag) → ¬ format.RefusesSome text := by
  refine ⟨fun _ _ failed => verify_error_isAssertion failed, ?_, ?_⟩
  · intro text refused
    obtain ⟨before, line, after, e, split, first, blames, fails⟩ := refused.blamed
    refine ⟨before, line, after, e, split, first, blames, fails text after split, ?_⟩
    intro kept more
    obtain ⟨later, extended⟩ := Text.lines_extend kept more
    rw [split, List.append_assoc] at extended
    exact fails _ _ extended.symm
  · intro text tag failed refused
    obtain ⟨before, line, after, e, split, -, blames, fails⟩ := refused.blamed
    exact blames.ne_incomplete tag (Except.error.inj ((fails text after split).symm.trans failed))

/-- The third line is blamed, although the fourth is bad too and tags are missing. -/
example : verify .batterystats "9,0,i,vers,14,1,a,b\n\n9,,\n9,x,i,uid,1,a" =
    .error (.assertion "line 3 has no tag: 9,,") := by
  decide +kernel

end Checkin
end DeviceHarness
