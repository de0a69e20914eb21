import DeviceHarness.Proofs.DumpFailures
import Mathlib.Data.List.Forall2

/-! Empty columns at the ends of lines. A batterystats line has the same fields with them and without them, and a dump
is judged by the fields of its lines and by which of them are blank. So such columns change no verdict: only the message
that shows a line without a tag shows them too. A procstats line keeps all of its columns. -/

namespace DeviceHarness

namespace Text

theorem intercalate_splitKeeping (sep : Char) (s : String) :
    String.intercalate (String.singleton sep) (splitKeeping sep s) = s := by
  apply String.toList_inj.mp
  rw [String.toList_intercalate, splitKeeping, List.map_map]
  have characters : String.toList ∘ String.ofList = id := funext fun _ => String.toList_ofList
  rw [characters, List.map_id, String.toList_singleton, intercalate_pieces]

theorem length_splitKeeping (sep : Char) (s : String) :
    (splitKeeping sep s).length = s.toList.count sep + 1 := by
  rw [splitKeeping, List.length_map, length_pieces, List.count]

theorem splitDropping_separators (sep : Char) (s : String) (n : Nat) :
    splitDropping sep (s ++ String.ofList (List.replicate n sep)) = splitDropping sep s := by
  induction n with
  | zero => simp
  | succ n ih =>
    have longer : (s ++ String.ofList (List.replicate (n + 1) sep)).toList =
        (s ++ String.ofList (List.replicate n sep)).toList ++ [sep] := by
      simp [List.replicate_succ']
    rw [← ih, splitDropping, longer, pieces_concat_separator, dropEmptyEnd_concat_empty, splitDropping]

end Text

theorem exists_of_forall₂_append {α : Type} {relation : α → α → Prop} {before : List α} {item : α} {after others : List α}
    (alike : List.Forall₂ relation (before ++ item :: after) others) :
    ∃ front other back, others = front ++ other :: back ∧ List.Forall₂ relation before front ∧ relation item other := by
  induction before generalizing others with
  | nil =>
    obtain ⟨other, back, same, -, rfl⟩ := List.forall₂_cons_left_iff.mp alike
    exact ⟨[], other, back, rfl, .nil, same⟩
  | cons head before ih =>
    obtain ⟨first, rest, same, later, rfl⟩ := List.forall₂_cons_left_iff.mp alike
    obtain ⟨front, other, back, rfl, fronts, items⟩ := ih later
    exact ⟨first :: front, other, back, rfl, .cons same fronts, items⟩

namespace Checkin

/-- Two lines that differ in no field, and in no more than their text. -/
structure Format.SameFields (format : Format) (line other : String) : Prop where
  blank : Text.blank line = Text.blank other
  fields : format.split line = format.split other

namespace Format

variable {format : Format} {line other : String} {before front lines others : List String}

theorem SameFields.symm (same : format.SameFields line other) : format.SameFields other line :=
  ⟨same.blank.symm, same.fields.symm⟩

theorem declared?_congr (same : format.SameFields line other) : format.declared? line = format.declared? other := by
  rw [declared?, declared?, same.fields]

theorem declarations_congr (alike : List.Forall₂ format.SameFields before front) :
    (before.filter (!Text.blank ·)).filterMap format.declared? = (front.filter (!Text.blank ·)).filterMap format.declared? := by
  induction alike with
  | nil => rfl
  | cons same rest ih =>
    rw [List.filter_cons, List.filter_cons, same.blank]
    split
    · rw [List.filterMap_cons, List.filterMap_cons, declared?_congr same, ih]
    · exact ih

theorem recordAfter_congr (alike : List.Forall₂ format.SameFields before front) (same : format.SameFields line other) :
    format.recordAfter before line = format.recordAfter front other := by
  rw [recordAfter, recordAfter, inForce, inForce, alike.length_eq, declarations_congr alike, same.fields]

theorem Refuses.congr (alike : List.Forall₂ format.SameFields before front) (same : format.SameFields line other)
    (refused : format.Refuses before line) : format.Refuses front other := by
  refine ⟨same.blank ▸ refused.spoken, ?_⟩
  rw [← same.fields, ← recordAfter_congr alike same]
  exact refused.bad

theorem forall₂_symm (alike : List.Forall₂ format.SameFields before front) :
    List.Forall₂ format.SameFields front before := alike.flip.imp fun _ _ same => same.symm

theorem RefusesFirst.congr (alike : List.Forall₂ format.SameFields before front) (same : format.SameFields line other)
    (first : format.RefusesFirst before line) : format.RefusesFirst front other := by
  refine ⟨first.refused.congr alike same, ?_⟩
  intro earlier item later split refused
  rw [split] at alike
  obtain ⟨fronts, counterpart, backs, rfl, alikeFront, sameItem⟩ := exists_of_forall₂_append (forall₂_symm alike)
  exact first.earlier fronts counterpart backs rfl (refused.congr alikeFront sameItem)

/-- A dump is refused at a line, counted from one: that is the first one to be refused, and it is blamed. -/
def RefusedAt (format : Format) (number : Nat) (text : String) : Prop :=
  ∃ before line after e, Text.lines text = before ++ line :: after ∧ before.length + 1 = number ∧
    format.RefusesFirst before line ∧ format.Blames before line e ∧ verify format text = .error e

/-- Two dumps are judged alike. -/
inductive SameVerdict (format : Format) (text other : String) : Prop where
  | accepted (report : Report) (first : verify format text = .ok report) (second : verify format other = .ok report)
  | refused (number : Nat) (first : format.RefusedAt number text) (second : format.RefusedAt number other)
  /-- All lines are good, but a required tag is missing. -/
  | incomplete (tag : String) (first : verify format text = .error (format.incomplete tag))
      (second : verify format other = .error (format.incomplete tag))
  /-- There is nothing to be judged. -/
  | silent (e : Error) (nothing : Text.blank text = true) (first : verify format text = .error e)
      (second : verify format other = .error e)

-- A line without a tag is shown in its failure, so the items are the same only where every line has one.
theorem itemsFrom_congr (alike : List.Forall₂ format.SameFields lines others) (number : Nat) (version : Option Int)
    (tagged : ∀ line ∈ lines, Text.blank line = false → format.tagIndex < (format.split line).length) :
    Dump.itemsFrom format number version lines = Dump.itemsFrom format number version others := by
  induction alike generalizing number version with
  | nil => rfl
  | @cons line other lines others same rest ih =>
    obtain ⟨first, later⟩ := List.forall_mem_cons.mp tagged
    rw [Dump.itemsFrom, Dump.itemsFrom, ← same.blank]
    cases spoken : Text.blank line with
    | true => exact ih (number + 1) version later
    | false =>
      have long := first spoken
      have item : Dump.item format number version line = Dump.item format number version other := by
        rw [Dump.item_of_tagged number version long, Dump.item_of_tagged number version (same.fields ▸ long), same.fields]
      rw [item, if_neg Bool.false_ne_true, if_neg Bool.false_ne_true]
      exact congrArg (_ :: ·) (ih (number + 1) _ later)

theorem tagged_of_good {text : String} (good : ¬ format.RefusesSome text) :
    ∀ line ∈ Text.lines text, Text.blank line = false → format.tagIndex < (format.split line).length := by
  intro line member spoken
  apply Classical.byContradiction
  intro short
  obtain ⟨before, after, split⟩ := List.append_of_mem member
  exact good ⟨before, line, after, split, spoken, fun passes => short passes.1⟩

theorem verify_congr {text other : String} (alike : List.Forall₂ format.SameFields (Text.lines text) (Text.lines other))
    (silent : Text.blank text = Text.blank other) (good : ¬ format.RefusesSome text) :
    verify format text = verify format other := by
  rw [verify, verify, Dump.items, Dump.items, silent, itemsFrom_congr alike 1 none (tagged_of_good good)]

theorem blank_congr {text other : String} (alike : List.Forall₂ format.SameFields (Text.lines text) (Text.lines other)) :
    Text.blank text = Text.blank other := by
  have all {lines others : List String} (alike : List.Forall₂ format.SameFields lines others) :
      lines.all Text.blank = others.all Text.blank := by
    induction alike with
    | nil => rfl
    | cons same rest ih => rw [List.all_cons, List.all_cons, same.blank, ih]
  rw [Text.blank_eq_all_lines, Text.blank_eq_all_lines, all alike]

/-- Dumps whose lines have the same fields are judged alike. -/
theorem sameVerdict_of_sameFields {text other : String}
    (alike : List.Forall₂ format.SameFields (Text.lines text) (Text.lines other)) : format.SameVerdict text other := by
  have silence := blank_congr alike
  by_cases refused : format.RefusesSome text
  · -- what a line is refused for lies in its fields and in the lines before it, so its counterpart is refused as well
    obtain ⟨before, line, after, e, split, first, blames, fails⟩ := refused.blamed
    rw [split] at alike
    obtain ⟨front, counterpart, back, splitOther, fronts, same⟩ := exists_of_forall₂_append alike
    have firstOther := first.congr fronts same
    obtain ⟨otherError, blamesOther, failsOther⟩ := firstOther.blamed
    refine .refused (before.length + 1) ⟨before, line, after, e, split, rfl, first, blames, fails text after split⟩ ?_
    exact ⟨front, counterpart, back, otherError, splitOther, by rw [fronts.length_eq], firstOther, blamesOther,
      failsOther other back splitOther⟩
  · have same := verify_congr alike silence refused
    cases silent : Text.blank text with
    | true =>
      have outcome : verify format text = .error (.assertion ("`" ++ format.command ++ "` produced no output")) := by
        rw [verify, Dump.items, silent]
        rfl
      exact .silent _ silent outcome (same ▸ outcome)
    | false =>
      cases outcome : verify format text with
      | ok report => exact .accepted report outcome (same ▸ outcome)
      | error e =>
        obtain ⟨last, kind, finished⟩ := verify_of_good silent refused
        obtain ⟨tag, -, missing⟩ := Validator.finish_error (finished.symm.trans outcome)
        rw [kind] at missing
        subst missing
        exact .incomplete tag outcome (same ▸ outcome)

end Format

namespace Dump

/-- A line with empty columns at its end. Blank lines get none. -/
def widenLine (columns : Nat) (line : String) : String :=
  if Text.blank line then line else line ++ String.ofList (List.replicate columns ',')

/-- A text whose lines have empty columns at their ends, so many as are given for each line. -/
def widen (columns : Nat → Nat) (text : String) : String :=
  String.intercalate "\n" ((Text.splitKeeping '\n' text).mapIdx fun i line => widenLine (columns i) line)

theorem widenLine_cases (columns : Nat) (line : String) :
    (Text.blank line = true ∧ widenLine columns line = line) ∨
      (Text.blank line = false ∧ widenLine columns line = line ++ String.ofList (List.replicate columns ',')) := by
  unfold widenLine
  cases spoken : Text.blank line with
  | true => exact .inl ⟨rfl, rfl⟩
  | false => exact .inr ⟨rfl, rfl⟩

theorem sameFields_widenLine (columns : Nat) (line : String) :
    Format.batterystats.SameFields line (widenLine columns line) := by
  rcases widenLine_cases columns line with ⟨-, same⟩ | ⟨spoken, wider⟩
  · rw [same]
    exact ⟨rfl, rfl⟩
  · rw [wider]
    constructor
    · rw [spoken, eq_comm, Text.blank, String.toList_append, List.all_append, ← Text.blank, spoken, Bool.false_and]
    · exact (Text.splitDropping_separators ',' line columns).symm

theorem mem_of_mem_widenLine {columns : Nat} {line : String} {c : Char} (other : c ≠ ',')
    (member : c ∈ (widenLine columns line).toList) : c ∈ line.toList := by
  rcases widenLine_cases columns line with ⟨-, same⟩ | ⟨-, wider⟩
  · rwa [same] at member
  · rw [wider, String.toList_append, String.toList_ofList] at member
    rcases List.mem_append.mp member with old | new
    · exact old
    · exact absurd (List.eq_of_mem_replicate new) other

theorem widenLine_eq_empty_iff {columns : Nat} {line : String} : widenLine columns line = "" ↔ line = "" := by
  rcases widenLine_cases columns line with ⟨-, same⟩ | ⟨spoken, wider⟩
  · rw [same]
  · have some : line ≠ "" := by
      rintro rfl
      cases spoken
    simp [wider, some]

theorem forall₂_widenLine (columns : Nat → Nat) (lines : List String) :
    List.Forall₂ (fun line wider => ∃ n, wider = widenLine n line) lines
      (lines.mapIdx fun i line => widenLine (columns i) line) := by
  induction lines generalizing columns with
  | nil => exact .nil
  | cons line rest ih =>
    rw [List.mapIdx_cons]
    exact .cons ⟨columns 0, rfl⟩ (ih fun i => columns (i + 1))

/-- Texts that are joined from lines have related lines, if the relation keeps empty lines empty. -/
theorem forall₂_lines_intercalate {relation : String → String → Prop} {lines others : List String}
    (alike : List.Forall₂ relation lines others) (empty : ∀ line other, relation line other → (line = "" ↔ other = ""))
    (each : ∀ line ∈ lines, '\n' ∉ line.toList ∧ line.toList.getLast? ≠ some '\r')
    (others_each : ∀ line ∈ others, '\n' ∉ line.toList ∧ line.toList.getLast? ≠ some '\r') :
    List.Forall₂ relation (Text.lines (String.intercalate "\n" lines)) (Text.lines (String.intercalate "\n" others)) := by
  have ended : lines.getLast? = some "" ↔ others.getLast? = some "" := by
    clear each others_each
    induction alike with
    | nil => exact Iff.rfl
    | @cons line other _ _ same rest ih =>
      cases rest with
      | nil => simpa using empty line other same
      | cons next rest =>
        rw [List.getLast?_cons_cons, List.getLast?_cons_cons]
        exact ih
  rw [Text.lines_intercalate each, Text.lines_intercalate others_each]
  simp only [ended]
  split
  · rw [List.dropLast_eq_take, List.dropLast_eq_take, alike.length_eq]
    exact List.forall₂_take _ alike
  · exact alike

theorem sameFields_widen (columns : Nat → Nat) {text : String} (plain : '\r' ∉ text.toList) :
    List.Forall₂ Format.batterystats.SameFields (Text.lines text) (Text.lines (widen columns text)) := by
  have each : ∀ line ∈ Text.splitKeeping '\n' text, '\n' ∉ line.toList ∧ '\r' ∉ line.toList := by
    intro line member
    obtain ⟨piece, inside, rfl⟩ := List.mem_map.mp member
    rw [String.toList_ofList]
    refine ⟨fun feed => ?_, fun carriage => plain (Text.subset_of_mem_pieces inside carriage)⟩
    simpa using Text.not_separator_of_mem_pieces inside '\n' feed
  have clean {line : String} (carriage : '\r' ∉ line.toList) : line.toList.getLast? ≠ some '\r' :=
    fun last => carriage (List.mem_of_getLast? last)
  have wider_each : ∀ wider ∈ (Text.splitKeeping '\n' text).mapIdx (fun i line => widenLine (columns i) line),
      '\n' ∉ wider.toList ∧ wider.toList.getLast? ≠ some '\r' := by
    intro wider member
    obtain ⟨i, inside, rfl⟩ := List.mem_mapIdx.mp member
    obtain ⟨feed, carriage⟩ := each _ (List.getElem_mem inside)
    exact ⟨mt (mem_of_mem_widenLine (by decide)) feed, clean (mt (mem_of_mem_widenLine (by decide)) carriage)⟩
  have alike := forall₂_lines_intercalate (forall₂_widenLine columns (Text.splitKeeping '\n' text))
    (by rintro line _ ⟨n, rfl⟩; exact widenLine_eq_empty_iff.symm)
    (fun line member => ⟨(each line member).1, clean (each line member).2⟩) wider_each
  have whole : String.intercalate "\n" (Text.splitKeeping '\n' text) = text := Text.intercalate_splitKeeping '\n' text
  rw [whole] at alike
  refine alike.imp ?_
  rintro line _ ⟨n, rfl⟩
  exact sameFields_widenLine n line

end Dump

/-- Empty columns at the ends of batterystats lines change no verdict, however many there are and wherever they stand.
A procstats line has one field more than it has commas, and its fields are all that it holds. -/
theorem trailing_columns_dropped_or_kept :
    (∀ (text : String) (columns : Nat → Nat), '\r' ∉ text.toList →
      Format.batterystats.SameVerdict text (Dump.widen columns text)) ∧
    ∀ line : String, (Format.procstats.split line).length = line.toList.count ',' + 1 ∧
      String.intercalate "," (Format.procstats.split line) = line :=
  ⟨fun _ columns plain => Format.sameVerdict_of_sameFields (Dump.sameFields_widen columns plain),
    fun line => ⟨Text.length_splitKeeping ',' line, Text.intercalate_splitKeeping ',' line⟩⟩

/-- The third line has no tag, and commas do not give it one. The blank line before it stays blank. -/
theorem trailing_columns_dropped_or_kept_third :
    let text := "9,0,i,vers,14,1,a,b\n\n9,0,i\n"
    let wide := "9,0,i,vers,14,1,a,b,\n\n9,0,i,,,\n"
    '\r' ∉ text.toList ∧ Dump.widen (· + 1) text = wide ∧ Format.batterystats.SameVerdict text wide ∧
      verify .batterystats text = .error (.assertion "line 3 has no tag: 9,0,i") ∧
      verify .batterystats wide = .error (.assertion "line 3 has no tag: 9,0,i,,,") := by
  intro text wide
  have plain : '\r' ∉ text.toList := by decide +kernel
  have wider : Dump.widen (· + 1) text = wide := by decide +kernel
  have judged := trailing_columns_dropped_or_kept.1 text (· + 1) plain
  rw [wider] at judged
  exact ⟨plain, wider, judged, by decide +kernel, by decide +kernel⟩

end Checkin
end DeviceHarness
