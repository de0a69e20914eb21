import DeviceHarness.Proofs.InstrumentationVerdict

/-! The pending value while lines are read. A line without a mark goes on with the value of the last key that was
given, so that value has to be there: a status code takes a whole bundle of values away, and what is pending must
never be one of them. Since it is there, no line of a value is lost, and no other value is touched. -/

namespace DeviceHarness.Instrumentation

/-- A line with a mark that gives a value for a key. -/
def GivesKey (mark key : String) (line : List Char) : Prop :=
  ∃ rest, line = mark.toList ++ rest ∧ String.ofList (keyOf rest) = key

/-- What a line with a mark leaves pending. -/
def Line.opened : Line → Pending
  | .status key _ => .status key
  | .result key _ => .result key
  | .statusCode _ | .code _ | .failed _ | .continuation _ => .nothing

theorem opened_eq_status {line : List Char} {key : String} :
    (Line.ofChars line).opened = .status key ↔ GivesKey Line.statusMark key line := by
  constructor
  · generalize Line.ofChars line = read, written_ofChars line = written
    intro opened
    cases written with
    | status rest => exact ⟨rest, rfl, Pending.status.inj opened⟩
    | statusCode | result | code | failed | continuation => cases opened
  · rintro ⟨rest, rfl, rfl⟩
    show Pending.status (Line.keyValue rest).1 = _
    rw [keyValue_eq]

theorem opened_eq_result {line : List Char} {key : String} :
    (Line.ofChars line).opened = .result key ↔ GivesKey Line.resultMark key line := by
  constructor
  · generalize Line.ofChars line = read, written_ofChars line = written
    intro opened
    cases written with
    | result rest => exact ⟨rest, rfl, Pending.result.inj opened⟩
    | statusCode | status | code | failed | continuation => cases opened
  · rintro ⟨rest, rfl, rfl⟩
    show Pending.result (Line.keyValue rest).1 = _
    rw [keyValue_eq]

namespace Reading

/-- The value that is pending is stored. -/
structure Linked (r : Reading) : Prop where
  status : ∀ key, r.pending = .status key → ∃ value, r.bundle.get? key = some value
  result : ∀ key, r.pending = .result key → ∃ value, r.run.result.get? key = some value

section Feed

variable {r : Reading} {line : List Char} {key : String}

theorem Linked.nothing (closed : r.pending = .nothing) : r.Linked := by
  constructor
  all_goals
    intro key pending
    cases closed.symm.trans pending

theorem pending_statusCode (r : Reading) (code : Option Int) : (r.statusCode code).pending = r.pending := by
  cases code with
  | none => rfl
  | some code =>
    unfold statusCode
    dsimp only
    split <;> rfl

theorem continued_nothing (pending : r.pending = .nothing) (text : String) : r.continued text = r := by
  rw [continued, pending]

theorem continued_status (pending : r.pending = .status key) (text : String) :
    r.continued text = { r with bundle := r.bundle.modify key (· ++ "\n" ++ text) } := by
  rw [continued, pending]

theorem continued_result (pending : r.pending = .result key) (text : String) :
    r.continued text = { r with run := { r.run with result := r.run.result.modify key (· ++ "\n" ++ text) } } := by
  rw [continued, pending]

theorem pending_continued (r : Reading) (text : String) : (r.continued text).pending = r.pending := by
  cases pending : r.pending with
  | nothing => rw [continued_nothing pending, pending]
  | status key => rw [continued_status pending, pending]
  | result key => rw [continued_result pending, pending]

theorem Linked.continued (linked : r.Linked) (text : String) : (r.continued text).Linked := by
  have stored {d : Dictionary String} {opened key : String} (there : ∃ value, d.get? key = some value) :
      ∃ value, (d.modify opened (· ++ "\n" ++ text)).get? key = some value := by
    obtain ⟨value, found⟩ := there
    rw [Dictionary.get?_modify]
    split
    next same =>
      rw [← same, found]
      exact ⟨_, rfl⟩
    next => exact ⟨value, found⟩
  cases pending : r.pending with
  | nothing =>
    rw [continued_nothing pending]
    exact linked
  | status opened =>
    rw [continued_status pending]
    exact ⟨fun key same => stored (linked.status key same), linked.result⟩
  | result opened =>
    rw [continued_result pending]
    exact ⟨linked.status, fun key same => stored (linked.result key same)⟩

/-- A value that is given is stored before it is pending, and whatever takes the bundle away leaves nothing pending. -/
theorem Linked.feed (linked : r.Linked) (read : Line) : (r.feed read).Linked := by
  cases read with
  | status key value =>
    constructor
    · rintro _ ⟨⟩
      exact ⟨value, (Dictionary.get?_insert ..).trans (if_pos rfl)⟩
    · rintro _ ⟨⟩
  | result key value =>
    constructor
    · rintro _ ⟨⟩
    · rintro _ ⟨⟩
      exact ⟨value, (Dictionary.get?_insert ..).trans (if_pos rfl)⟩
  | statusCode code => exact .nothing (pending_statusCode _ code)
  | continuation text => exact linked.continued text
  | code | failed => exact .nothing rfl

theorem pending_feed (r : Reading) (line : List Char) :
    (r.feed (Line.ofChars line)).pending = if isMarked line then (Line.ofChars line).opened else r.pending := by
  generalize Line.ofChars line = read, written_ofChars line = written
  cases written with
  | statusCode rest => exact pending_statusCode ..
  | continuation _ plain =>
    rw [plain]
    exact pending_continued ..
  | status | result | code | failed => rfl

/-! What one more line changes. -/

/-- The pending value is stored, and a line without a mark goes on with it. -/
theorem feed_pending_status (linked : r.Linked) (pending : r.pending = .status key) :
    let next := r.feed (Line.ofChars line)
    ∃ value, r.bundle.get? key = some value ∧ (isMarked line = false →
      next.bundle.get? key = some (value ++ "\n" ++ String.ofList line) ∧ next = { r with bundle := next.bundle }) := by
  obtain ⟨value, stored⟩ := linked.status key pending
  refine ⟨value, stored, fun plain => ?_⟩
  rw [ofChars_plain plain, feed, continued_status pending]
  exact ⟨by rw [Dictionary.get?_modify, if_pos rfl, stored]; rfl, rfl⟩

theorem feed_pending_result (linked : r.Linked) (pending : r.pending = .result key) :
    let next := r.feed (Line.ofChars line)
    ∃ value, r.run.result.get? key = some value ∧ (isMarked line = false →
      next.run.result.get? key = some (value ++ "\n" ++ String.ofList line) ∧
        next = { r with run := { r.run with result := next.run.result } }) := by
  obtain ⟨value, stored⟩ := linked.result key pending
  refine ⟨value, stored, fun plain => ?_⟩
  rw [ofChars_plain plain, feed, continued_result pending]
  exact ⟨by rw [Dictionary.get?_modify, if_pos rfl, stored]; rfl, rfl⟩

theorem continued_ne (value more : String) : value ++ "\n" ++ more ≠ value := by
  intro same
  have length := congrArg String.length same
  simp only [String.length_append] at length
  have feed : "\n".length = 1 := rfl
  omega

/-- A line without a mark is lost only when no value is pending. -/
theorem feed_eq_self_iff (linked : r.Linked) (plain : isMarked line = false) :
    r.feed (Line.ofChars line) = r ↔ r.pending = .nothing := by
  constructor
  · intro same
    cases pending : r.pending with
    | nothing => rfl
    | status key =>
      obtain ⟨value, stored, onward⟩ := feed_pending_status linked pending
      have gone := (onward plain).1
      rw [same, stored] at gone
      exact (continued_ne _ _ (Option.some.inj gone).symm).elim
    | result key =>
      obtain ⟨value, stored, onward⟩ := feed_pending_result linked pending
      have gone := (onward plain).1
      rw [same, stored] at gone
      exact (continued_ne _ _ (Option.some.inj gone).symm).elim
  · intro pending
    rw [ofChars_plain plain, feed, continued_nothing pending]

/-- A value of the bundle changes when it is given or goes on, or when a status code closes the bundle. -/
theorem bundle_changed (changed : (r.feed (Line.ofChars line)).bundle.get? key ≠ r.bundle.get? key) :
    GivesKey Line.statusMark key line ∨ isMarked line = false ∧ r.pending = .status key ∨
      ∃ code, codeOf? line = some code := by
  generalize Line.ofChars line = read, written_ofChars line = written at changed
  cases written with
  | status rest =>
    by_cases same : key = String.ofList (keyOf rest)
    · exact .inl ⟨rest, rfl, same.symm⟩
    · exact (changed ((Dictionary.get?_insert ..).trans (if_neg same))).elim
  | statusCode rest =>
    cases code : Integer.ofChars? 32 (Text.trimmed rest) with
    | none =>
      rw [code] at changed
      exact absurd rfl changed
    | some code' => exact .inr (.inr ⟨code', code⟩)
  | continuation _ plain =>
    rw [feed] at changed
    cases pending : r.pending with
    | nothing =>
      rw [continued_nothing pending] at changed
      exact absurd rfl changed
    | status opened =>
      rw [continued_status pending] at changed
      by_cases same : key = opened
      · exact .inr (.inl ⟨plain, same ▸ rfl⟩)
      · rw [Dictionary.get?_modify, if_neg same] at changed
        exact absurd rfl changed
    | result opened =>
      rw [continued_result pending] at changed
      exact absurd rfl changed
  | result | code | failed => exact absurd rfl changed

/-- A value of the run changes when it is given or goes on, and never otherwise. -/
theorem result_changed (changed : (r.feed (Line.ofChars line)).run.result.get? key ≠ r.run.result.get? key) :
    GivesKey Line.resultMark key line ∨ isMarked line = false ∧ r.pending = .result key := by
  generalize Line.ofChars line = read, written_ofChars line = written at changed
  cases written with
  | result rest =>
    by_cases same : key = String.ofList (keyOf rest)
    · exact .inl ⟨rest, rfl, same.symm⟩
    · exact (changed ((Dictionary.get?_insert ..).trans (if_neg same))).elim
  | statusCode rest =>
    obtain ⟨tests, run⟩ := run_statusCode { r with pending := .nothing } (Integer.ofChars? 32 (Text.trimmed rest))
    simp [feed, run] at changed
  | continuation _ plain =>
    rw [feed] at changed
    cases pending : r.pending with
    | nothing =>
      rw [continued_nothing pending] at changed
      exact absurd rfl changed
    | status opened =>
      rw [continued_status pending] at changed
      exact absurd rfl changed
    | result opened =>
      rw [continued_result pending] at changed
      by_cases same : key = opened
      · exact .inr ⟨plain, same ▸ rfl⟩
      · rw [Dictionary.get?_modify, if_neg same] at changed
        exact absurd rfl changed
  | status | code | failed => exact absurd rfl changed

end Feed

/-! What all lines lead to. -/

theorem linked_reached (reads : List Line) : (reached reads).Linked := by
  induction reads using List.reverseRecOn with
  | nil => exact .nothing rfl
  | append_singleton before read ih =>
    rw [reached_append]
    exact ih.feed read

/-- What is pending was left so by the last line with a mark. -/
theorem pending_reached (lines : List (List Char)) :
    (reached (lines.map Line.ofChars)).pending =
      ((lines.filter isMarked).getLast?.map fun line => (Line.ofChars line).opened).getD .nothing := by
  induction lines using List.reverseRecOn with
  | nil => rfl
  | append_singleton before line ih =>
    rw [List.map_append, List.map_singleton, reached_append, pending_feed, ih]
    cases marked : isMarked line <;> simp [List.filter_append, marked]

theorem pending_reached_iff {lines : List (List Char)} {pending : Pending} (some : pending ≠ .nothing) :
    (reached (lines.map Line.ofChars)).pending = pending ↔
      ∃ last ∈ (lines.filter isMarked).getLast?, (Line.ofChars last).opened = pending := by
  rw [pending_reached]
  cases (lines.filter isMarked).getLast? with
  | none => simp [some.symm]
  | some last => simp

/-- Whatever lines were read, the pending value is stored, under the key that the last line with a mark has given. One
more line without a mark goes on with that value, and does nothing only when none is pending. A stored value is changed
by nothing but a line that gives its key, a line that goes on with it or, in the bundle, a status code that can be
read. -/
theorem pending_value_stored (lines : List (List Char)) (line : List Char) :
    let r := reached (lines.map Line.ofChars)
    let next := r.feed (Line.ofChars line)
    let lastMarked := (lines.filter isMarked).getLast?
    (∀ key, r.pending = .status key ↔ ∃ last ∈ lastMarked, GivesKey Line.statusMark key last) ∧
    (∀ key, r.pending = .result key ↔ ∃ last ∈ lastMarked, GivesKey Line.resultMark key last) ∧
    (∀ key, r.pending = .status key → ∃ value, r.bundle.get? key = some value ∧
      (isMarked line = false → next.bundle.get? key = some (value ++ "\n" ++ String.ofList line) ∧
        next = { r with bundle := next.bundle })) ∧
    (∀ key, r.pending = .result key → ∃ value, r.run.result.get? key = some value ∧
      (isMarked line = false → next.run.result.get? key = some (value ++ "\n" ++ String.ofList line) ∧
        next = { r with run := { r.run with result := next.run.result } })) ∧
    (isMarked line = false → (next = r ↔ r.pending = .nothing)) ∧
    (∀ key, next.bundle.get? key ≠ r.bundle.get? key →
      GivesKey Line.statusMark key line ∨ isMarked line = false ∧ r.pending = .status key ∨
        ∃ code, codeOf? line = some code) ∧
    ∀ key, next.run.result.get? key ≠ r.run.result.get? key →
      GivesKey Line.resultMark key line ∨ isMarked line = false ∧ r.pending = .result key := by
  intro r next lastMarked
  have linked : r.Linked := linked_reached _
  refine ⟨?_, ?_, ?_, ?_, ?_, fun key => bundle_changed, fun key => result_changed⟩
  · intro key
    simp only [r, pending_reached_iff (Pending.noConfusion : Pending.status key ≠ .nothing), opened_eq_status, lastMarked]
  · intro key
    simp only [r, pending_reached_iff (Pending.noConfusion : Pending.result key ≠ .nothing), opened_eq_result, lastMarked]
  · intro key pending
    exact feed_pending_status linked pending
  · intro key pending
    exact feed_pending_result linked pending
  · intro plain
    exact feed_eq_self_iff linked plain

end Reading
end DeviceHarness.Instrumentation
