import DeviceHarness.Checkin.Layout
import DeviceHarness.Proofs.InTurn

/-! When a record fits a layout, said field by field and without running a check. The checks stop at
the first mismatch; what they accept does not depend on that order. -/

namespace DeviceHarness.Checkin

theorem Check.then_ok {first second : Check} :
    (first >>= fun _ => second) = .ok () ↔ first = .ok () ∧ second = .ok () :=
  bind_ok.trans ⟨fun ⟨(), one, two⟩ => ⟨one, two⟩, fun ⟨one, two⟩ => ⟨(), one, two⟩⟩

theorem Check.require_ok {holds : Bool} {otherwise : Mismatch} :
    Check.require holds otherwise = .ok () ↔ holds = true := by
  cases holds <;> simp [Check.require]

theorem Check.all_ok {α : Type} {check : α → Check} {items : List α} :
    Check.all check items = .ok () ↔ ∀ item ∈ items, check item = .ok () := by
  induction items with
  | nil => simp [Check.all]
  | cons item rest ih => simp only [Check.all, Check.then_ok, ih, List.forall_mem_cons]

/-- A text that is a whole number of 64 bits. -/
def IsInteger (value : String) : Prop := (Integer.ofText? 64 value).isSome = true

theorem checkInteger_ok {value : String} : checkInteger value = .ok () ↔ IsInteger value := by
  unfold checkInteger integer? IsInteger
  cases Integer.ofText? 64 value <;> simp [Except.map]

/-- What a field of each type may hold. -/
def Field.Admits : Field → String → Prop
  | text, _ => True
  | int, value => IsInteger value
  | double, value => (Numeral.finite? value).isSome = true
  | literal expected, value => value = expected
  | intOr placeholder, value => value = placeholder ∨ IsInteger value
  | ints n, value => (valuesOf value).length = n ∧ ∀ number ∈ valuesOf value, IsInteger number

theorem Field.check_ok {type : Field} {value : String} :
    type.check value = .ok () ↔ type.Admits value := by
  cases type with
  | text => simp [Field.check, Field.Admits]
  | int => exact checkInteger_ok
  | double =>
    simp only [Field.check, Field.Admits, double?]
    cases Numeral.finite? value <;> simp [Except.map]
  | literal expected => simp [Field.check, Field.Admits, Check.require_ok]
  | intOr placeholder =>
    simp only [Field.check, Field.Admits, beq_iff_eq]
    by_cases same : value = placeholder
    · simp [same]
    · simp [same, checkInteger_ok]
  | ints n =>
    simp only [Field.check, Field.Admits, Check.then_ok, Check.require_ok, Check.all_ok, checkInteger_ok,
      beq_iff_eq]

/-- A state code and so many numbers, between colons. -/
def IsState (ofProcess : Bool) (values : Nat) (field : String) : Prop :=
  ∃ code numbers, valuesOf field = code :: numbers ∧ (StateCode.ofText? ofProcess code).isSome = true ∧
    numbers.length = values ∧ ∀ number ∈ numbers, IsInteger number

theorem checkState_ok {ofProcess : Bool} {values : Nat} {field : String} :
    checkState ofProcess values field = .ok () ↔ IsState ofProcess values field := by
  unfold checkState IsState
  cases valuesOf field with
  | nil => simp
  | cons code numbers =>
    simp only [Check.then_ok, Check.require_ok, Check.all_ok, checkInteger_ok, checkStateCode, beq_iff_eq]
    constructor
    · intro ⟨many, coded, integers⟩
      exact ⟨code, numbers, rfl, coded, many, integers⟩
    · rintro ⟨_, _, same, coded, many, integers⟩
      cases same
      exact ⟨many, coded, integers⟩

/-- A total that ends the totals: its value mentions `sysmemusage`. -/
def EndsTotals (field : String) : Prop :=
  ∃ code value more, valuesOf field = code :: value :: more ∧ Text.contains "sysmemusage" value = true

/-- A state code without process, and a number unless this field ends the totals. -/
def IsTotal (field : String) : Prop :=
  ∃ code value more, valuesOf field = code :: value :: more ∧
    (StateCode.ofText? false code).isSome = true ∧
    (Text.contains "sysmemusage" value = true ∨ IsInteger value)

/-- Fields of totals, up to the first that ends them. What follows that one may be anything. -/
def AreTotals (fields : List String) : Prop :=
  InTurn (fun before field => (∀ earlier ∈ before, ¬ EndsTotals earlier) → IsTotal field) fields

theorem areTotals_cons {field : String} {rest : List String} :
    AreTotals (field :: rest) ↔ IsTotal field ∧ (¬ EndsTotals field → AreTotals rest) := by
  unfold AreTotals
  rw [InTurn.cons_iff]
  constructor
  · intro ⟨first, later⟩
    refine ⟨first (by simp), fun goesOn before other after same earlier => ?_⟩
    exact later before other after same (List.forall_mem_cons.mpr ⟨goesOn, earlier⟩)
  · intro ⟨first, later⟩
    refine ⟨fun _ => first, fun before other after same earlier => ?_⟩
    obtain ⟨goesOn, earlier⟩ := List.forall_mem_cons.mp earlier
    exact later goesOn before other after same earlier

theorem checkTotals_ok {fields : List String} : checkTotals fields = .ok () ↔ AreTotals fields := by
  induction fields with
  | nil => simp [checkTotals, AreTotals, InTurn.nil]
  | cons field rest ih =>
    rw [areTotals_cons]
    unfold checkTotals
    split
    next code value more values =>
      have total : IsTotal field ↔ (StateCode.ofText? false code).isSome = true ∧
          (Text.contains "sysmemusage" value = true ∨ IsInteger value) := by
        refine ⟨?_, fun holds => ⟨code, value, more, values, holds⟩⟩
        rintro ⟨_, _, _, same, holds⟩
        cases values.symm.trans same
        exact holds
      have ends : EndsTotals field ↔ Text.contains "sysmemusage" value = true := by
        refine ⟨?_, fun holds => ⟨code, value, more, values, holds⟩⟩
        rintro ⟨_, _, _, same, holds⟩
        cases values.symm.trans same
        exact holds
      rw [total, ends, Check.then_ok, checkStateCode, Check.require_ok]
      split
      next mentioned => simp [mentioned]
      next silent => simp [silent, Check.then_ok, checkInteger_ok, ih, and_assoc]
    next other =>
      have none : ¬ IsTotal field := fun ⟨code, value, more, values, _⟩ => other code value more values
      simp [none]

/-- What the fields after the typed ones may hold. -/
def Rest.Admits : Rest → List String → Prop
  | unchecked, _ => True
  | states ofProcess values, fields => ∀ field ∈ fields, IsState ofProcess values field
  | totals, fields => AreTotals fields
  | trailingInts n, fields => ∀ value ∈ fields.drop (fields.length - n), IsInteger value

theorem Rest.check_ok {rest : Rest} {fields : List String} :
    rest.check fields = .ok () ↔ rest.Admits fields := by
  cases rest with
  | unchecked => simp [Rest.check, Rest.Admits]
  | states ofProcess values => simp only [Rest.check, Rest.Admits, Check.all_ok, checkState_ok]
  | totals => exact checkTotals_ok
  | trailingInts n => simp only [Rest.check, Rest.Admits, Check.all_ok, checkInteger_ok]

def Arity.Admits : Arity → Nat → Prop
  | exactly n, found => found = n
  | atLeast n, found => n ≤ found

theorem Arity.check_ok {arity : Arity} {found : Nat} :
    arity.check found = .ok () ↔ arity.Admits found := by
  cases arity <;> simp [Arity.check, Arity.Admits, Check.require_ok]

/-- The fields of a line fit a layout, with the tag at an index. -/
structure Layout.Fits (l : Layout) (tagIndex : Nat) (fields : List String) : Prop where
  arity : l.arity.Admits fields.length
  enough : tagIndex + 1 + l.fields.length ≤ fields.length
  typed : ∀ (i : Nat) (type : Field) (value : String), l.fields[i]? = some type →
    fields[tagIndex + 1 + i]? = some value → type.Admits value
  rest : l.rest.Admits (fields.drop (tagIndex + 1 + l.fields.length))

theorem Layout.checkTyped_ok {types : List Field} {values : List String} :
    Layout.checkTyped types values = .ok () ↔
      ∀ (i : Nat) (type : Field) (value : String), types[i]? = some type → values[i]? = some value →
        type.Admits value := by
  induction types generalizing values with
  | nil => simp [Layout.checkTyped]
  | cons type types ih =>
    cases values with
    | nil => simp [Layout.checkTyped]
    | cons value values =>
      simp only [Layout.checkTyped, Check.then_ok, Field.check_ok, ih]
      constructor
      · rintro ⟨first, more⟩ i other text atType atValue
        cases i with
        | zero => cases atType; cases atValue; exact first
        | succ i => exact more i other text (by simpa using atType) (by simpa using atValue)
      · intro each
        exact ⟨each 0 type value rfl rfl, fun i other text atType atValue =>
          each (i + 1) other text (by simpa using atType) (by simpa using atValue)⟩

theorem Layout.checkFields_ok {l : Layout} {r : Record} :
    l.checkFields r = .ok () ↔ l.Fits r.tagIndex r.fields := by
  simp only [Layout.checkFields, Check.then_ok, Arity.check_ok, Check.require_ok, decide_eq_true_eq,
    Layout.checkTyped_ok, Rest.check_ok, List.getElem?_drop]
  exact ⟨fun ⟨arity, enough, typed, rest⟩ => ⟨arity, enough, typed, rest⟩,
    fun fits => ⟨fits.arity, fits.enough, fits.typed, fits.rest⟩⟩

theorem Record.blame_ok {α : Type} {r : Record} {outcome : Except Mismatch α} {value : α} :
    r.blame outcome = .ok value ↔ outcome = .ok value := by
  cases outcome <;> simp [Record.blame]

theorem Record.blame_error {α : Type} {r : Record} {outcome : Except Mismatch α} {e : Error} :
    r.blame outcome = .error e ↔ ∃ mismatch : Mismatch, outcome = .error mismatch ∧ e = r.complaint mismatch.message := by
  cases outcome <;> simp [Record.blame, eq_comm]

theorem Record.field_ok {r : Record} {index : Nat} {value : String} :
    r.field? index = .ok value ↔ r.fields[index]? = some value := by
  unfold Record.field?
  cases r.fields[index]? <;> simp

theorem Record.integerAt_ok {r : Record} {index : Nat} {n : Int} :
    r.integerAt? index = .ok n ↔ (r.fields[index]?).bind (Integer.ofText? 64) = some n := by
  unfold Record.integerAt? Record.field? integer?
  cases r.fields[index]? with
  | none => simp [bind, Except.bind]
  | some value => cases read : Integer.ofText? 64 value <;> simp [bind, Except.bind, read]

/-- A check passes exactly on the records that fit, whatever it would complain of first. -/
theorem Layout.check_ok {l : Layout} {r : Record} :
    l.check r = .ok () ↔ l.Fits r.tagIndex r.fields :=
  Record.blame_ok.trans Layout.checkFields_ok

end DeviceHarness.Checkin
