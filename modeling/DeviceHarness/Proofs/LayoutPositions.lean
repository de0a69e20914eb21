import DeviceHarness.Proofs.LayoutFit

/-! Layouts checked by position. The bounds of a part of a record are sums and differences of three numbers: where
the tag is, how many fields have a type, and how many at the end are integers. A position outside of the record, or
outside of the values of a field, leaves a check by position without any outcome. This never happens, since every
position is read behind a comparison of lengths, and so such a check comes to what is said field by field. -/

namespace DeviceHarness.Checkin

/-- A check that reads by position. Without an outcome it has read outside of a list. -/
abbrev Positional (α : Type) := ExceptT Mismatch Option α

namespace Positional

variable {α β : Type}

/-- A check that reads no positions. -/
def of (outcome : Except Mismatch α) : Positional α := ExceptT.mk (some outcome)

def at? (items : List α) (index : Nat) : Positional α := ExceptT.lift items[index]?

/-- The part of a list from one position up to another. -/
def span? (items : List α) (start stop : Nat) : Positional (List α) :=
  ExceptT.lift (if start ≤ stop ∧ stop ≤ items.length then some ((items.take stop).drop start) else none)

example : (span? ["a", "b"] 1 3).run = none := rfl

theorem at?_eq {items : List α} {index : Nat} {item : α} (found : items[index]? = some item) :
    at? items index = of (.ok item) := by
  rw [at?, found]
  rfl

theorem span?_eq {items : List α} {start stop : Nat} (ordered : start ≤ stop) (inside : stop ≤ items.length) :
    span? items start stop = of (.ok ((items.take stop).drop start)) := by
  rw [span?, if_pos ⟨ordered, inside⟩]
  rfl

theorem span?_end {items : List α} {start : Nat} (inside : start ≤ items.length) :
    span? items start items.length = of (.ok (items.drop start)) := by
  rw [span?_eq inside (Nat.le_refl _), List.take_length]

theorem ok_bind (value : α) (next : α → Positional β) : (of (.ok value) >>= next) = next value := rfl

/-- What comes next matters only after a check that has passed. -/
theorem of_bind {outcome : Except Mismatch α} {next : α → Positional β} {other : α → Except Mismatch β}
    (continues : ∀ value, outcome = .ok value → next value = of (other value)) :
    (of outcome >>= next) = of (outcome >>= other) := by
  cases outcome with
  | error mismatch => rfl
  | ok value => exact continues value rfl

theorem forM_eq {check : α → Positional Unit} {other : α → Check} (same : ∀ item, check item = of (other item))
    (items : List α) : forM items check = of (Check.all other items) := by
  induction items with
  | nil => rfl
  | cons item rest ih =>
    rw [List.forM_cons, same item, Check.all]
    apply of_bind
    intro _ _
    exact ih

end Positional

open Positional

def stateByPosition (ofProcess : Bool) (values : Nat) (field : String) : Positional Unit := do
  let parts := valuesOf field
  of (Check.require (parts.length == values + 1) (.valueCount (values + 1) field))
  let code ← at? parts 0
  of (checkStateCode ofProcess code)
  let numbers ← span? parts 1 parts.length
  of (Check.all checkInteger numbers)

def totalsByPosition : List String → Positional Unit
  | [] => pure ()
  | field :: rest => do
    let parts := valuesOf field
    of (Check.require (2 ≤ parts.length) (.notTotal field))
    let code ← at? parts 0
    of (checkStateCode false code)
    let value ← at? parts 1
    if Text.contains "sysmemusage" value then pure ()
    else do
      of (checkInteger value)
      totalsByPosition rest

/-- Checks the fields from position `start` on. The integers at the end are counted from the end of the record, but
they never reach back before `start`. -/
def Rest.checkByPosition (rest : Rest) (fields : List String) (start : Nat) : Positional Unit := do
  let after ← span? fields start fields.length
  match rest with
  | unchecked => pure ()
  | states ofProcess values => forM after (stateByPosition ofProcess values)
  | totals => totalsByPosition after
  | trailingInts n => do
    let last ← span? fields (max (fields.length - n) start) fields.length
    of (Check.all checkInteger last)

def Layout.checkByPosition (l : Layout) (r : Record) : Positional Unit := do
  of (l.arity.check r.fields.length)
  let first := r.tagIndex + 1
  let start := first + l.fields.length
  of (Check.require (start ≤ r.fields.length) (.tooFewFields start r.fields.length))
  let typed ← span? r.fields first start
  of (Check.all (fun (type, value) => type.check value) (l.fields.zip typed))
  l.rest.checkByPosition r.fields start

theorem stateByPosition_eq (ofProcess : Bool) (values : Nat) (field : String) :
    stateByPosition ofProcess values field = of (checkState ofProcess values field) := by
  unfold stateByPosition checkState
  cases valuesOf field with
  | nil => rfl
  | cons code numbers =>
    have count : ((code :: numbers).length == values + 1) = (numbers.length == values) := by simp
    dsimp only
    rw [count]
    apply of_bind
    intro _ _
    rw [at?_eq rfl, ok_bind]
    apply of_bind
    intro _ _
    rw [span?_end (by simp), ok_bind, List.drop_one, List.tail_cons]

theorem totalsByPosition_eq (fields : List String) : totalsByPosition fields = of (checkTotals fields) := by
  induction fields with
  | nil => rfl
  | cons field rest ih =>
    unfold totalsByPosition checkTotals
    cases valuesOf field with
    | nil => rfl
    | cons code more =>
      cases more with
      | nil => rfl
      | cons value more =>
        have two : decide (2 ≤ (code :: value :: more).length) = true := by simp
        dsimp only
        rw [two, Check.require, if_pos rfl, ok_bind, at?_eq rfl, ok_bind]
        apply of_bind
        intro _ _
        rw [at?_eq rfl, ok_bind]
        split
        · rfl
        · apply of_bind
          intro _ _
          exact ih

theorem Rest.checkByPosition_eq (rest : Rest) {fields : List String} {start : Nat} (inside : start ≤ fields.length) :
    rest.checkByPosition fields start = of (rest.check (fields.drop start)) := by
  rw [checkByPosition, span?_end inside, ok_bind]
  cases rest with
  | unchecked => rfl
  | states ofProcess values => exact forM_eq (stateByPosition_eq ofProcess values) _
  | totals => exact totalsByPosition_eq _
  | trailingInts n =>
    have window : max (fields.length - n) start = start + (fields.length - start - n) := by omega
    have lastInside : start + (fields.length - start - n) ≤ fields.length := by omega
    dsimp only [Rest.check]
    rw [window, span?_end lastInside, ok_bind, List.drop_drop, List.length_drop]

theorem Layout.all_typed (types : List Field) (values : List String) :
    Check.all (fun (type, value) => type.check value) (types.zip (values.take types.length)) =
      checkTyped types values := by
  induction types generalizing values with
  | nil => cases values <;> rfl
  | cons type types ih =>
    cases values with
    | nil => rfl
    | cons value values =>
      rw [List.length_cons, List.take_succ_cons, List.zip_cons_cons, Check.all, checkTyped, ih]

theorem Layout.checkByPosition_eq (l : Layout) (r : Record) : l.checkByPosition r = of (l.checkFields r) := by
  unfold checkByPosition checkFields
  apply of_bind
  intro _ _
  apply of_bind
  intro _ enough
  rw [Check.require_ok, decide_eq_true_eq] at enough
  have typed : (r.fields.take (r.tagIndex + 1 + l.fields.length)).drop (r.tagIndex + 1) =
      (r.fields.drop (r.tagIndex + 1)).take l.fields.length := by
    rw [List.drop_take, Nat.add_sub_cancel_left]
  rw [span?_eq (by omega) enough, ok_bind, typed, all_typed]
  apply of_bind
  intro _ _
  exact l.rest.checkByPosition_eq enough

/-- Checking a record never reads outside of it. It passes exactly if the record fits the layout, and otherwise it is
the record that is blamed, as for any test that fails. -/
theorem Layout.check_stays_inside (l : Layout) (r : Record) :
    l.checkByPosition r = of (l.checkFields r) ∧
    (∀ e, l.check r = .error e → e.isAssertion = true ∧
      ∃ mismatch : Mismatch, l.checkFields r = .error mismatch ∧ e = r.complaint mismatch.message) ∧
    (l.check r = .ok () ↔ l.Fits r.tagIndex r.fields) := by
  refine ⟨l.checkByPosition_eq r, ?_, Layout.check_ok⟩
  intro e failed
  obtain ⟨mismatch, found, rfl⟩ := Record.blame_error.mp failed
  exact ⟨rfl, mismatch, found, rfl⟩

/-- Three integers are looked for at the end of a record with room for one. -/
example : (Layout.check ⟨.atLeast 2, [.text], .trailingInts 3⟩ ⟨1, none, 0, ["wr", "a", "1"]⟩).isOk = true := by
  decide +kernel

end DeviceHarness.Checkin
