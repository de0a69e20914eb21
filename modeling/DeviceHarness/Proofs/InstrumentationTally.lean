import DeviceHarness.Proofs.InstrumentationEntries

/-! Every status event is accounted for once. A start has an entry of its own. The event right after it gives
that entry its status if it is the outcome of the same test, and then it has no entry of its own; every other
outcome has one. So no event has a say about tests that are not next to it. -/

namespace DeviceHarness.Instrumentation

namespace Event

/-- A start and the outcome of the same test. -/
def Paired (start outcome : Event) : Prop := start.code = 1 ∧ outcome.Ends start

instance (start outcome : Event) : Decidable (start.Paired outcome) := inferInstanceAs (Decidable (_ ∧ _))

/-- What becomes of a start, by the event right after it. -/
def fate (start : Event) : Option Event → Status
  | some next => if next.Ends start then .ofCode next.code else .incomplete
  | none => .incomplete

def entry? (before : Option Event) (e : Event) (after : Option Event) : Option Entry :=
  if e.code = 1 then some (e.entry (e.fate after))
  else if before.any fun start => start.Paired e then none
  else some (e.entry (.ofCode e.code))

end Event

/-- The entry of the event at a place, by the events right before and right after it. The event before the first one
is given, if there is one. -/
def entryAt? (before : Option Event) (es : List Event) (place : Nat) : Option Entry :=
  es[place]?.bind fun e => e.entry? (if place = 0 then before else es[place - 1]?) es[place + 1]?

/-- How often a start and the outcome of the same test are next to each other. -/
def pairs (es : List Event) : Nat := (es.zip es.tail).countP fun (start, next) => start.Paired next

structure Run.AccountsFor (run : Run) (es : List Event) : Prop where
  entries : run.tests.map TestCase.entry = (List.range es.length).filterMap (entryAt? none es)
  length : run.tests.length + pairs es = es.length
  summary : ∃ (passed failed ignored : Nat) (rest : String),
    run.summary = Integer.text passed ++ " passed, " ++ Integer.text failed ++ " failed, " ++
      Integer.text ignored ++ " ignored" ++ rest ∧
    passed + failed + ignored = run.tests.length

/-! The entries of events that follow another one, each by its neighbours. -/

def entriesAfter : Option Event → List Event → List Entry
  | _, [] => []
  | before, e :: rest => (e.entry? before rest.head?).toList ++ entriesAfter (some e) rest

namespace Event

variable {start e : Event} {before after : Option Event}

theorem not_ends_start (code : e.code = 1) : ¬ e.Ends start := fun ends => ends.1 code

theorem entry?_start (code : e.code = 1) : e.entry? before after = some (e.entry (e.fate after)) := if_pos code

theorem entry?_outcome (code : e.code ≠ 1) :
    e.entry? before after = if before.any fun start => start.Paired e then none else some (e.entry (.ofCode e.code)) :=
  if_neg code

theorem entry_of_ends (ends : e.Ends start) (status : Status) : e.entry status = start.entry status := by
  simp [entry, ends.2.1, ends.2.2]

end Event

/-- The start that is still open after an event. -/
def opened (before : Option Event) : Option Event := before.filter (·.code = 1)

theorem opened_start {e : Event} (code : e.code = 1) : opened (some e) = some e := by simp [opened, code]

theorem opened_outcome {e : Event} (code : e.code ≠ 1) : opened (some e) = none := by simp [opened, code]

/-- An open test is the start right before the events, and the first of them decides about it. -/
theorem entriesFrom_opened (es : List Event) (before : Option Event) :
    entriesFrom (opened before) es =
      (opened before).toList.map (fun start => start.entry (start.fate es.head?)) ++ entriesAfter before es := by
  -- By the events, because each of them opens a test or leaves none open, whatever came before it.
  induction es generalizing before with
  | nil => cases opened before <;> rfl
  | cons e rest ih =>
    have later := ih (some e)
    rw [entriesFrom, entriesAfter, List.head?_cons]
    by_cases code : e.code = 1
    · rw [opened_start code] at later
      rw [if_pos code, later, Event.entry?_start code]
      cases opened before with
      | none => rfl
      | some start => simp [abandoned, Event.fate, Event.not_ends_start code]
    · rw [opened_outcome code] at later
      rw [if_neg code, later, Event.entry?_outcome code]
      have joined : before.any (fun start => start.Paired e) = (opened before).any fun start => e.Ends start := by
        cases before with
        | none => rfl
        | some start => by_cases began : start.code = 1 <;> simp [opened, Event.Paired, began]
      rw [joined]
      cases opened before with
      | none => rfl
      | some start =>
        by_cases ends : e.Ends start
        · simp [ends, Event.fate, Event.entry_of_ends ends]
        · simp [ends, Event.fate, abandoned]

theorem entriesAfter_eq (es : List Event) (before : Option Event) :
    entriesAfter before es = (List.range es.length).filterMap (entryAt? before es) := by
  induction es generalizing before with
  | nil => rfl
  | cons e rest ih =>
    have first : entryAt? before (e :: rest) 0 = e.entry? before rest.head? := by
      simp [entryAt?, List.head?_eq_getElem?]
    have shifted : entryAt? before (e :: rest) ∘ Nat.succ = entryAt? (some e) rest := by
      funext place
      cases place <;> simp [entryAt?]
    rw [entriesAfter, ih, List.length_cons, List.range_succ_eq_map, List.filterMap_cons, List.filterMap_map, first,
      shifted]
    cases e.entry? before rest.head? <;> rfl

/-! How many entries there are. -/

theorem pairs_cons (start e : Event) (rest : List Event) :
    pairs (start :: e :: rest) = pairs (e :: rest) + if start.Paired e then 1 else 0 := by
  simp [pairs, List.countP_cons]

/-- An event has no entry of its own exactly if it is the outcome of the event right before it. -/
theorem Event.length_entry? (e : Event) (before after : Option Event) :
    (e.entry? before after).toList.length + (if before.any fun start => start.Paired e then 1 else 0) = 1 := by
  by_cases code : e.code = 1
  · have alone : before.any (fun start => start.Paired e) = false := by
      cases before <;> simp [Event.Paired, Event.not_ends_start code]
    simp [Event.entry?_start code, alone]
  · rw [Event.entry?_outcome code]
    split <;> rfl

theorem length_entriesAfter (es : List Event) (before : Option Event) :
    (entriesAfter before es).length + pairs (before.toList ++ es) = es.length := by
  induction es generalizing before with
  | nil => cases before <;> rfl
  | cons e rest ih =>
    have later := ih (some e)
    have own := e.length_entry? before rest.head?
    have joined : pairs (before.toList ++ e :: rest) =
        pairs (e :: rest) + if before.any fun start => start.Paired e then 1 else 0 := by
      cases before with
      | none => rfl
      | some start => simpa using pairs_cons start e rest
    rw [entriesAfter, List.length_append, joined, List.length_cons]
    simp only [Option.toList_some, List.singleton_append] at later
    omega

/-! The numbers of a summary. -/

theorem Status.counted_once (status : Status) :
    (if status == .passed then 1 else 0) + (if status.isFailure then 1 else 0) +
      ((if status == .ignored then 1 else 0) + if status == .assumptionFailure then 1 else 0) = 1 := by
  cases status <;> rfl

theorem counts_add_up (run : Run) :
    run.count .passed + run.failures.length + (run.count .ignored + run.count .assumptionFailure) =
      run.tests.length := by
  unfold Run.count Run.failures
  rw [← List.countP_eq_length_filter]
  induction run.tests with
  | nil => rfl
  | cons test rest ih =>
    have once := test.status.counted_once
    simp only [List.countP_cons, List.length_cons]
    omega

/-- Each event of an output is accounted for once by the tests of its run. -/
theorem accountsFor_events (text : String) : (Run.ofOutput text).AccountsFor (events text) := by
  have entries : (Run.ofOutput text).tests.map TestCase.entry = entriesAfter none (events text) :=
    (entries_ofOutput text).trans (entriesFrom_opened (events text) none)
  refine ⟨entries.trans (entriesAfter_eq _ none), ?_, ?_⟩
  · have size := length_entriesAfter (events text) none
    rwa [← entries, List.length_map] at size
  · exact ⟨_, _, _, _, rfl, counts_add_up _⟩

example :
    (List.range 4).filterMap (entryAt? none [⟨1, "a", "x"⟩, ⟨1, "a", "y"⟩, ⟨0, "a", "y"⟩, ⟨-2, "a", "z"⟩]) =
      [⟨"a", "x", .incomplete⟩, ⟨"a", "y", .passed⟩, ⟨"a", "z", .failed⟩] := by decide

end DeviceHarness.Instrumentation
