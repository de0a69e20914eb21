import DeviceHarness.Proofs.InstrumentationRendering

/-! Nothing is carried from one test to the next. The outcome of a test leaves no value, no open value and no
open test behind, so an output that ends in one can be followed by any other, and each is read on its own. -/

namespace DeviceHarness.Instrumentation

/-- The last line of a text is whole and is the outcome of a test. -/
structure EndsTest (text : String) : Prop where
  whole : text.toList.getLast? = some '\n'
  outcome : ∃ line ∈ (outputLines text.toList).getLast?, ∃ code ∈ codeOf? line, code ≠ 1

instance (text : String) : Decidable (EndsTest text) :=
  decidable_of_iff (text.toList.getLast? = some '\n' ∧
    ∃ line ∈ (outputLines text.toList).getLast?, ∃ code ∈ codeOf? line, code ≠ 1)
    ⟨fun ⟨whole, outcome⟩ => ⟨whole, outcome⟩, fun ⟨whole, outcome⟩ => ⟨whole, outcome⟩⟩

theorem outputLines_after_feed {a b : List Char} (whole : a.getLast? = some '\n') :
    outputLines (a ++ b) = outputLines a ++ outputLines b := by
  obtain ⟨front, rfl⟩ := List.getLast?_eq_some_iff.mp whole
  rw [List.append_assoc, List.singleton_append, outputLines, Text.linesOf_append_feed, List.map_append]
  rfl

namespace Reading

/-- A reading goes on as another one does, but has the tests of `front` before those of the other. -/
structure Shifted (front : List TestCase) (other r : Reading) : Prop where
  pending : r.pending = other.pending
  bundle : r.bundle = other.bundle
  current : r.current = other.current
  tests : r.run.tests = front ++ other.run.tests

section Shifted

variable {front : List TestCase} {other r : Reading}

theorem Shifted.addTests (same : Shifted front other r) (tests : List TestCase) :
    Shifted front (other.addTests tests) (r.addTests tests) where
  pending := same.pending
  bundle := same.bundle
  current := same.current
  tests := by
    show r.run.tests ++ tests = front ++ (other.run.tests ++ tests)
    rw [same.tests, List.append_assoc]

theorem Shifted.bundled (same : Shifted front other r) : r.bundled = other.bundled := by
  funext status stack
  simp only [Reading.bundled, same.bundle]

theorem Shifted.continues (same : Shifted front other r) : r.continues = other.continues := by
  simp only [Reading.continues, same.bundle, same.current]

theorem Shifted.started (same : Shifted front other r) : Shifted front other.started r.started := by
  unfold Reading.started
  rw [same.current, same.bundled]
  have added := same.addTests other.current.toList
  exact ⟨added.pending, rfl, rfl, added.tests⟩

theorem Shifted.ended (same : Shifted front other r) (code : Int) :
    Shifted front (other.ended code) (r.ended code) := by
  unfold Reading.ended
  rw [same.current, same.bundled, same.bundle, same.continues]
  have added := same.addTests ((if other.continues then [] else other.current.toList) ++
    [other.bundled (.ofCode code) (other.bundle.get? "stack")])
  exact ⟨added.pending, rfl, rfl, added.tests⟩

theorem Shifted.statusCode (same : Shifted front other r) (code : Option Int) :
    Shifted front (other.statusCode code) (r.statusCode code) := by
  cases code with
  | none => exact same
  | some code =>
    unfold Reading.statusCode
    dsimp only
    split
    · exact same.started
    · exact same.ended code

theorem Shifted.continued (same : Shifted front other r) (text : String) :
    Shifted front (other.continued text) (r.continued text) := by
  unfold Reading.continued
  rw [same.pending, same.bundle]
  cases other.pending with
  | nothing => exact same
  | status key => exact ⟨rfl, rfl, same.current, same.tests⟩
  | result key => exact ⟨rfl, rfl, same.current, same.tests⟩

theorem Shifted.feed (same : Shifted front other r) (read : Line) : Shifted front (other.feed read) (r.feed read) := by
  cases read with
  | status key value => exact ⟨rfl, congrArg (Dictionary.insert key value) same.bundle, same.current, same.tests⟩
  | statusCode code =>
    have closed : Shifted front { other with pending := .nothing } { r with pending := .nothing } :=
      ⟨rfl, same.bundle, same.current, same.tests⟩
    exact closed.statusCode code
  | result | code | failed => exact ⟨rfl, same.bundle, same.current, same.tests⟩
  | continuation text => exact same.continued text

theorem Shifted.through (same : Shifted front other r) (text : List Char) :
    Shifted front (other.through text) (r.through text) := by
  unfold Reading.through
  induction (outputLines text).map Line.ofChars generalizing other r with
  | nil => exact same
  | cons read rest ih => exact ih (same.feed read)

theorem Shifted.finish (same : Shifted front other r) : r.finish.tests = front ++ other.finish.tests := by
  rw [tests_finish, tests_finish, same.tests, same.current, List.append_assoc]

end Shifted

theorem feed_closing (r : Reading) {line : List Char} {code : Int} (found : codeOf? line = some code)
    (outcome : code ≠ 1) : ∃ run, r.feed (Line.ofChars line) = between run := by
  rw [read_event found]
  exact ⟨_, if_neg outcome⟩

theorem through_closing {text : String} (ends : EndsTest text) :
    ∃ run, start.through text.toList = between run := by
  obtain ⟨line, last, code, found, outcome⟩ := ends.outcome
  obtain ⟨before, parts⟩ := List.getLast?_eq_some_iff.mp last
  rw [through, parts, List.map_append, List.foldl_append]
  exact feed_closing _ found outcome

end Reading

/-- The tests of an output that ends with the outcome of a test stay as they are when another output follows,
and so do those of the other one. -/
theorem tests_ofOutput_append {a b : String} (ends : EndsTest a) :
    (Run.ofOutput (a ++ b)).tests = (Run.ofOutput a).tests ++ (Run.ofOutput b).tests := by
  obtain ⟨run, reached⟩ := Reading.through_closing ends
  have read (text : String) : Run.ofOutput text = (Reading.start.through text.toList).finish := rfl
  have first : (Run.ofOutput a).tests = run.tests := by
    rw [read, reached, Reading.tests_finish]
    exact List.append_nil _
  have resumed : Reading.start.through (a ++ b).toList = (Reading.between run).through b.toList := by
    rw [← reached, String.toList_append, Reading.through, outputLines_after_feed ends.whole, List.map_append,
      List.foldl_append]
    rfl
  have shifted : Reading.Shifted run.tests .start (.between run) := ⟨rfl, rfl, rfl, (List.append_nil _).symm⟩
  rw [read (a ++ b), resumed, (shifted.through b.toList).finish, first, ← read b]

theorem tests_ofOutput_append_two :
    let a := "at a.b.C\nINSTRUMENTATION_STATUS: test=one\nINSTRUMENTATION_STATUS: stack=x\n\tat y\nINSTRUMENTATION_STATUS_CODE: -2\r\n"
    let b := "\tat z\nINSTRUMENTATION_STATUS_CODE: 0\nINSTRUMENTATION_CODE: -1"
    EndsTest a ∧ (Run.ofOutput (a ++ b)).tests = (Run.ofOutput a).tests ++ (Run.ofOutput b).tests ∧
      (Run.ofOutput b).tests = [⟨"", "", .passed, none⟩] := by
  intro a b
  have ends : EndsTest a := by decide +kernel
  exact ⟨ends, tests_ofOutput_append ends, by decide⟩

end DeviceHarness.Instrumentation
