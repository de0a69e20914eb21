import DeviceHarness.Checkin.ProcessStates
import DeviceHarness.Proofs.LayoutFit
import DeviceHarness.Proofs.Numerals
import Mathlib.Data.List.Forall2
import Mathlib.Data.List.Induction

/-! Process states, read from records. The reading counts columns and the layouts of the table name them,
so the two could come apart. They do not: exactly the records that fit the layout of their tag are read,
and what is read stands where the layout says. -/

namespace DeviceHarness

namespace Text

/-- A text without the separators at its end. -/
def withoutEnd (sep : Char) (s : List Char) : List Char := (s.reverse.dropWhile (· == sep)).reverse

/-- A character that is no separator belongs to the last piece. -/
theorem pieces_concat {isSeparator : Char → Bool} {c : Char} (s : List Char) (other : isSeparator c = false) :
    ∃ front last, pieces isSeparator (s ++ [c]) = front ++ [last ++ [c]] := by
  unfold pieces
  induction s with
  | nil => exact ⟨[], [], by simp [List.splitOnP_cons_eq_if_modifyHead, other]⟩
  | cons first rest ih =>
    obtain ⟨front, last, split⟩ := ih
    rw [List.cons_append, List.splitOnP_cons_eq_if_modifyHead, split]
    cases isSeparator first with
    | true => exact ⟨[] :: front, last, rfl⟩
    | false =>
      cases front with
      | nil => exact ⟨[], first :: last, rfl⟩
      | cons piece more => exact ⟨(first :: piece) :: more, last, rfl⟩

/-- The pieces of a text without the empty ones at its end, joined again, are the text without the separators
at its end. -/
theorem intercalate_dropEmptyEnd (sep : Char) (s : List Char) :
    [sep].intercalate (dropEmptyEnd (pieces (· == sep) s)) = withoutEnd sep s := by
  -- On the text from its end: a separator there adds an empty piece, and any other character ends both sides.
  induction s using List.reverseRecOn with
  | nil => rfl
  | append_singleton s c ih =>
    by_cases separator : c = sep
    · subst separator
      rw [pieces_concat_separator, dropEmptyEnd_concat_empty, ih]
      simp [withoutEnd]
    · have other : (c == sep) = false := beq_eq_false_iff_ne.mpr separator
      obtain ⟨front, last, split⟩ :
          ∃ front last, pieces (· == sep) (s ++ [c]) = front ++ [last ++ [c]] := pieces_concat s other
      have kept : withoutEnd sep (s ++ [c]) = s ++ [c] := by simp [withoutEnd, other]
      rw [kept, split, dropEmptyEnd_concat front (by simp), ← split, intercalate_pieces]

end Text

namespace Checkin

theorem Screen.letter_ofLetter? {c : Char} {screen : Screen} (read : ofLetter? c = some screen) :
    screen.letter = c := by
  unfold ofLetter? at read
  split_ifs at read with off on
  · cases read; exact off.symm
  · cases read; exact on.symm

theorem Memory.letter_ofLetter? {c : Char} {memory : Memory} (read : ofLetter? c = some memory) :
    memory.letter = c := by
  unfold ofLetter? at read
  split_ifs at read with normal moderate low critical
  · cases read; exact normal.symm
  · cases read; exact moderate.symm
  · cases read; exact low.symm
  · cases read; exact critical.symm

theorem StateCode.code_ofTail? {screen : Screen} {memory : Memory} {ofProcess : Bool} {tail : List Char}
    {state : StateCode} (read : ofTail? screen memory ofProcess tail = some state) :
    screen.letter :: memory.letter :: tail = state.code ++ state.qualifier := by
  unfold ofTail? at read
  split at read <;> split_ifs at read
  · cases read; rfl
  · cases read; rfl

/-- A code is what was read: the code proper, and the qualifiers after it. -/
theorem StateCode.code_ofChars? {ofProcess : Bool} {s : List Char} {state : StateCode}
    (read : ofChars? ofProcess s = some state) : s = state.code ++ state.qualifier := by
  unfold ofChars? at read
  split at read
  next screenLetter memoryLetter tail =>
    obtain ⟨screen, screenRead, more⟩ := Option.bind_eq_some_iff.mp read
    obtain ⟨memory, memoryRead, tailRead⟩ := Option.bind_eq_some_iff.mp more
    obtain rfl := Screen.letter_ofLetter? screenRead
    obtain rfl := Memory.letter_ofLetter? memoryRead
    exact code_ofTail? tailRead
  next => cases read

namespace ProcessStates

/-- A field says how long a process was in a state: the code of the state with its qualifiers, a colon, and the
time in decimal. Colons at the end do not count. -/
def Measures (field : String) (measured : StateCode × Int) : Prop :=
  ∃ time, Integer.IsDecimal time measured.2 ∧
    Text.withoutEnd ':' field.toList = measured.1.code ++ measured.1.qualifier ++ ':' :: time

theorem state?_ok {field : String} :
    (∃ measured, state? field = .ok measured) ↔ IsState true 1 field := by
  unfold state? IsState
  constructor
  · rintro ⟨measured, read⟩
    split at read
    next code duration values =>
      split at read
      next => cases read
      next state coded =>
        refine ⟨code, [duration], values, by simp [coded], rfl, ?_⟩
        unfold integer? at read
        cases integer : Integer.ofText? 64 duration with
        | none => simp [integer, Except.map] at read
        | some n => simp [IsInteger, integer]
    next => cases read
  · rintro ⟨code, numbers, values, coded, one, integers⟩
    obtain ⟨duration, rfl⟩ := List.length_eq_one_iff.mp one
    obtain ⟨state, coded⟩ := Option.isSome_iff_exists.mp coded
    obtain ⟨time, integer⟩ := Option.isSome_iff_exists.mp (integers duration (by simp))
    refine ⟨(state, time), ?_⟩
    rw [values]
    simp [coded, integer?, integer, Except.map]

theorem measures_of_state? {field : String} {measured : StateCode × Int} (read : state? field = .ok measured) :
    Measures field measured := by
  unfold state? at read
  split at read
  next code duration values =>
    split at read
    next => cases read
    next state coded =>
      unfold integer? at read
      cases integer : Integer.ofText? 64 duration with
      | none => simp [integer, Except.map] at read
      | some time =>
        obtain rfl : (state, time) = measured := by simpa [integer, Except.map] using read
        refine ⟨duration.toList, Integer.isDecimal_of_ofText? integer, ?_⟩
        have joined := Text.intercalate_dropEmptyEnd ':' field.toList
        have parts : Text.dropEmptyEnd (Text.pieces (· == ':') field.toList) = [code.toList, duration.toList] := by
          have same := congrArg (List.map String.toList) values
          simpa [valuesOf, Text.splitDropping] using same
        rw [parts] at joined
        rw [← joined, ← StateCode.code_ofChars? coded]
        simp
  next => cases read

theorem states?_ok {fields : List String} {measured : List (StateCode × Int)} :
    states? fields = .ok measured ↔ List.Forall₂ (fun field m => state? field = .ok m) fields measured := by
  induction fields generalizing measured with
  | nil =>
    rw [List.forall₂_nil_left_iff, states?]
    exact ⟨fun same => (Except.ok.inj same).symm, fun same => congrArg _ same.symm⟩
  | cons field rest ih =>
    rw [states?, bind_ok, List.forall₂_cons_left_iff]
    constructor
    · rintro ⟨first, read, more⟩
      obtain ⟨later, restRead, same⟩ := bind_ok.mp more
      exact ⟨first, later, read, ih.mp restRead, (Except.ok.inj same).symm⟩
    · rintro ⟨first, later, read, restRead, rfl⟩
      exact ⟨first, read, bind_ok.mpr ⟨later, ih.mpr restRead, rfl⟩⟩

theorem states?_isOk {fields : List String} :
    (∃ measured, states? fields = .ok measured) ↔ ∀ field ∈ fields, IsState true 1 field := by
  induction fields with
  | nil => simp [states?]
  | cons field rest ih =>
    rw [List.forall_mem_cons, ← ih, ← state?_ok]
    constructor
    · rintro ⟨measured, read⟩
      obtain ⟨first, firstRead, more⟩ := bind_ok.mp read
      obtain ⟨later, restRead, -⟩ := bind_ok.mp more
      exact ⟨⟨first, firstRead⟩, later, restRead⟩
    · rintro ⟨⟨first, firstRead⟩, later, restRead⟩
      exact ⟨first :: later, bind_ok.mpr ⟨first, firstRead, bind_ok.mpr ⟨later, restRead, rfl⟩⟩⟩

theorem fields?_ok {r : Record} {p : ProcessStates} :
    fields? r = .ok p ↔ ∃ first, identity? r = .ok (p.appVersion, p.process, first) ∧
      r.fields[1]? = some p.package ∧ (r.fields[2]?).bind (Integer.ofText? 64) = some p.uid ∧
      states? (r.fields.drop first) = .ok p.states := by
  simp only [fields?, bind_ok, Record.field_ok, Record.integerAt_ok]
  constructor
  · rintro ⟨⟨appVersion, process, first⟩, identity, package, packageRead, uid, uidRead, states, statesRead, same⟩
    obtain rfl := Except.ok.inj same
    exact ⟨first, identity, packageRead, uidRead, statesRead⟩
  · rintro ⟨first, identity, packageRead, uidRead, statesRead⟩
    exact ⟨_, identity, _, packageRead, _, uidRead, _, statesRead, rfl⟩

end ProcessStates

/-- The layout of records that list states of a process: some columns, and then the states. -/
def Layout.ofProcess (columns : List Field) : Layout := ⟨.atLeast (columns.length + 1), columns, .states true 1⟩

/-- The fields after the tag to which a layout gives a type, in order. -/
def Layout.fieldsOf (l : Layout) (type : Field) (r : Record) : List String :=
  ((l.fields.zip (r.fields.drop (r.tagIndex + 1))).filter (·.1 = type)).map Prod.snd

theorem Layout.check_ofProcess_ok {columns : List Field} {r : Record} (start : r.tagIndex = 0) :
    (Layout.ofProcess columns).check r = .ok () ↔
      (columns.length < r.fields.length ∧ Layout.checkTyped columns (r.fields.drop 1) = .ok ()) ∧
        ∃ measured, ProcessStates.states? (r.fields.drop (columns.length + 1)) = .ok measured := by
  have enough : columns.length + 1 ≤ r.fields.length ↔ 0 + 1 + columns.length ≤ r.fields.length := by omega
  rw [ProcessStates.states?_isOk, Layout.check, Record.blame_ok]
  simp only [checkFields, ofProcess, start, Check.then_ok, Arity.check, Check.require_ok, decide_eq_true_eq, Rest.check,
    Check.all_ok, checkState_ok, enough, Nat.zero_add, Nat.add_comm 1, Nat.lt_iff_add_one_le, and_assoc, and_self_left]

namespace ProcessStates

/-- What was read stands where the layout says: the package and the process in the columns for text, the
user and the version of the app in those for integers, and each state in a field of its own after them. -/
structure ReadFrom (p : ProcessStates) (l : Layout) (r : Record) : Prop where
  texts : l.fieldsOf .text r = p.package :: p.process.toList
  integers : (l.fieldsOf .int r).map (Integer.ofText? 64) = (p.uid :: p.appVersion.toList).map some
  states : List.Forall₂ Measures (r.fields.drop (r.tagIndex + 1 + l.fields.length)) p.states

/-- A record is read exactly if it satisfies the layout, and as the layout says. -/
structure Agrees (l : Layout) (r : Record) : Prop where
  read_iff : (∃ p, ofRecord? r = .ok p) ↔ l.check r = .ok ()
  placed : ∀ p, ofRecord? r = .ok p → p.ReadFrom l r

/-- The columns before the states are read exactly if they satisfy the layout, and as it says. -/
structure ColumnsAgree (columns : List Field) (r : Record) : Prop where
  read_iff :
    (∃ appVersion process first package uid, identity? r = .ok (appVersion, process, first) ∧
      r.fields[1]? = some package ∧ (r.fields[2]?).bind (Integer.ofText? 64) = some uid) ↔
      columns.length < r.fields.length ∧ Layout.checkTyped columns (r.fields.drop 1) = .ok ()
  placed : ∀ appVersion process first package uid, identity? r = .ok (appVersion, process, first) →
    r.fields[1]? = some package → (r.fields[2]?).bind (Integer.ofText? 64) = some uid →
      first = columns.length + 1 ∧ (Layout.ofProcess columns).fieldsOf .text r = package :: process.toList ∧
        ((Layout.ofProcess columns).fieldsOf .int r).map (Integer.ofText? 64) = (uid :: appVersion.toList).map some

theorem ColumnsAgree.agrees {columns : List Field} {r : Record} (agree : ColumnsAgree columns r)
    (start : r.tagIndex = 0) : Agrees (.ofProcess columns) r where
  read_iff := by
    rw [Layout.check_ofProcess_ok start, ← agree.read_iff]
    simp only [ofRecord?, Record.blame_ok, fields?_ok]
    constructor
    · rintro ⟨p, first, identity, package, uid, states⟩
      obtain ⟨rfl, -⟩ := agree.placed _ _ _ _ _ identity package uid
      exact ⟨⟨_, _, _, _, _, identity, package, uid⟩, _, states⟩
    · rintro ⟨⟨appVersion, process, first, package, uid, identity, packageRead, uidRead⟩, states, statesRead⟩
      obtain ⟨rfl, -⟩ := agree.placed _ _ _ _ _ identity packageRead uidRead
      exact ⟨⟨package, uid, appVersion, process, states⟩, _, identity, packageRead, uidRead, statesRead⟩
  placed := by
    intro p read
    obtain ⟨first, identity, package, uid, states⟩ := fields?_ok.mp (Record.blame_ok.mp read)
    obtain ⟨rfl, texts, integers⟩ := agree.placed _ _ _ _ _ identity package uid
    refine ⟨texts, integers, ?_⟩
    have place : r.tagIndex + 1 + (Layout.ofProcess columns).fields.length = columns.length + 1 := by
      rw [start, Layout.ofProcess, Nat.add_comm]
    rw [place]
    exact (states?_ok.mp states).imp fun _ _ => measures_of_state?

/-! The columns of the three kinds of records. A record that is too short for them is read as little as it
satisfies the layout. -/

section Columns

variable {line : Nat} {version : Option Int} {fields : List String}

theorem columnsAgree_package_since (since : version.any (Procstats.appVersionSince ≤ ·) = true) :
    ColumnsAgree [.text, .int, .int, .text] ⟨line, version, 0, "pkgproc" :: fields⟩ := by
  have tag : Record.tag ⟨line, version, 0, "pkgproc" :: fields⟩ = "pkgproc" := rfl
  have identity (appVersion process first) :
      identity? ⟨line, version, 0, "pkgproc" :: fields⟩ = .ok (appVersion, process, first) ↔
        ∃ app, (fields[2]?).bind (Integer.ofText? 64) = some app ∧ ∃ name, fields[3]? = some name ∧
          some app = appVersion ∧ some name = process ∧ 5 = first := by
    simp [identity?, tag, since, bind_ok, Record.field_ok, Record.integerAt_ok, pure, Except.pure]
  rcases fields with _ | ⟨package, _ | ⟨uid, _ | ⟨app, _ | ⟨process, rest⟩⟩⟩⟩
  all_goals constructor
  all_goals simp [identity, Layout.ofProcess, Layout.checkTyped, Field.check, Check.then_ok, checkInteger_ok,
    IsInteger, Layout.fieldsOf, Option.isSome_iff_exists]
  case read_iff => exact and_comm
  case placed =>
    rintro _ _ _ _ _ app read rfl rfl rfl rfl uid
    exact ⟨rfl, ⟨rfl, rfl⟩, uid, by simp [read]⟩

theorem columnsAgree_package_before (before : version.any (Procstats.appVersionSince ≤ ·) = false) :
    ColumnsAgree [.text, .int, .text] ⟨line, version, 0, "pkgproc" :: fields⟩ := by
  have tag : Record.tag ⟨line, version, 0, "pkgproc" :: fields⟩ = "pkgproc" := rfl
  have identity (appVersion process first) :
      identity? ⟨line, version, 0, "pkgproc" :: fields⟩ = .ok (appVersion, process, first) ↔
        ∃ name, fields[2]? = some name ∧ none = appVersion ∧ some name = process ∧ 4 = first := by
    simp [identity?, tag, before, bind_ok, Record.field_ok, pure, Except.pure]
  rcases fields with _ | ⟨package, _ | ⟨uid, _ | ⟨process, rest⟩⟩⟩
  all_goals constructor
  all_goals simp [identity, Layout.ofProcess, Layout.checkTyped, Field.check, Check.then_ok, checkInteger_ok,
    IsInteger, Layout.fieldsOf, Option.isSome_iff_exists]
  case placed =>
    rintro _ _ _ _ _ rfl rfl rfl rfl uid
    exact ⟨rfl, ⟨rfl, rfl⟩, uid, rfl⟩

theorem columnsAgree_process : ColumnsAgree [.text, .int] ⟨line, version, 0, "proc" :: fields⟩ := by
  have tag : Record.tag ⟨line, version, 0, "proc" :: fields⟩ = "proc" := rfl
  have identity (appVersion process first) :
      identity? ⟨line, version, 0, "proc" :: fields⟩ = .ok (appVersion, process, first) ↔
        none = appVersion ∧ none = process ∧ 3 = first := by
    simp [identity?, tag]
  rcases fields with _ | ⟨package, _ | ⟨uid, rest⟩⟩
  all_goals constructor
  all_goals simp [identity, Layout.ofProcess, Layout.checkTyped, Field.check, Check.then_ok, checkInteger_ok,
    IsInteger, Layout.fieldsOf, Option.isSome_iff_exists]
  case placed =>
    rintro _ _ _ _ _ rfl rfl rfl rfl uid
    exact ⟨rfl, ⟨rfl, rfl⟩, uid, rfl⟩

end Columns

end ProcessStates

theorem Table.resolve_eq (table : Table) (tag : String) (version : Option Int) :
    table.resolve tag version =
      ((table.filter (·.tags.contains tag)).find? (·.versions.contains version)).map Entry.layout := by
  rw [resolve, List.find?_filter]
  simp

namespace Procstats

theorem resolve_package (version : Option Int) :
    table.resolve "pkgproc" version = some (if version.any (appVersionSince ≤ ·)
      then .ofProcess [.text, .int, .int, .text] else .ofProcess [.text, .int, .text]) := by
  have entries : table.filter (·.tags.contains "pkgproc") =
      [⟨["pkgproc"], .below appVersionSince, .ofProcess [.text, .int, .text]⟩,
        ⟨["pkgproc"], .atLeast appVersionSince, .ofProcess [.text, .int, .int, .text]⟩] := by decide
  rw [Table.resolve_eq, entries]
  cases version with
  | none => rfl
  | some n =>
    by_cases since : appVersionSince ≤ n
    · simp [VersionRange.contains, VersionRange.below, VersionRange.atLeast, since]
    · simp [VersionRange.contains, VersionRange.below, since, Int.not_le.mp since]

theorem resolve_process (version : Option Int) :
    table.resolve "proc" version = some (.ofProcess [.text, .int]) := by
  have entries : table.filter (·.tags.contains "proc") = [⟨["proc"], .any, .ofProcess [.text, .int]⟩] := by decide
  rw [Table.resolve_eq, entries]
  cases version <;> rfl

end Procstats

namespace ProcessStates

theorem ofRecord?_other {r : Record} (package : r.tag ≠ "pkgproc") (process : r.tag ≠ "proc") :
    ofRecord? r = .error (r.complaint (Mismatch.noProcessStates r.tag).message) := by
  simp [ofRecord?, fields?, identity?, package, process, Record.blame, bind, Except.bind]

/-- The reading and the table agree on the records of processes, whatever their fields and their version. A record
of processes has a layout, is read exactly if it satisfies it, and what is read stands where the layout says.
No other record is read. -/
theorem ofRecord?_agrees (line : Nat) (version : Option Int) (fields : List String) :
    let r : Record := ⟨line, version, 0, fields⟩
    (r.tag = "pkgproc" ∨ r.tag = "proc" →
      ∃ layout, Procstats.table.resolve r.tag version = some layout ∧
        ((∃ p, ofRecord? r = .ok p) ↔ layout.check r = .ok ()) ∧ ∀ p, ofRecord? r = .ok p → p.ReadFrom layout r) ∧
    (r.tag ≠ "pkgproc" → r.tag ≠ "proc" → ∃ text, ofRecord? r = .error (.assertion text)) := by
  intro r
  refine ⟨fun named => ?_, fun package process => ⟨_, ofRecord?_other package process⟩⟩
  have agrees : ∃ columns,
      Procstats.table.resolve r.tag version = some (.ofProcess columns) ∧ ColumnsAgree columns r := by
    cases fields with
    | nil => simp [r, Record.tag] at named
    | cons tag rest =>
      rcases named with rfl | rfl
      · have resolved := Procstats.resolve_package version
        cases since : version.any (Procstats.appVersionSince ≤ ·) with
        | true => exact ⟨_, by rwa [since] at resolved, columnsAgree_package_since since⟩
        | false => exact ⟨_, by rwa [since] at resolved, columnsAgree_package_before since⟩
      · exact ⟨_, Procstats.resolve_process version, columnsAgree_process⟩
  obtain ⟨columns, resolved, agree⟩ := agrees
  have both := agree.agrees rfl
  exact ⟨_, resolved, both.read_iff, both.placed⟩

end ProcessStates

end Checkin

end DeviceHarness
