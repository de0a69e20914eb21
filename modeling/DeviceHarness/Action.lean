import DeviceHarness.Error

/-! Work that changes a state and may fail. What was done before a failure stays done: commands that
were sent cannot be taken back. -/

namespace DeviceHarness

abbrev Action (σ α : Type) := ExceptT Error (StateM σ) α

namespace Action

variable {σ τ α : Type}

/-- The outcome and the state that is left. -/
def perform (a : Action σ α) (state : σ) : Except Error α × σ := a.run.run state

def ofResult (result : Except Error α) : Action σ α := ExceptT.mk (pure result)

/-- The outcome as a value, so that the work goes on after a failure. -/
def outcome (a : Action σ α) : Action σ (Except Error α) :=
  ExceptT.mk do
    let result ← a.run
    return .ok result

/-- Work on one part of a larger state. -/
def within (part : σ → τ) (update : τ → σ → σ) (a : Action τ α) : Action σ α :=
  ExceptT.mk fun state =>
    let (result, changed) := a.perform (part state)
    (result, update changed state)

/-- Does the same for each element, up to the first failure. -/
def each (work : α → Action σ Unit) : List α → Action σ Unit
  | [] => pure ()
  | x :: rest => do
    work x
    each work rest

@[simp] theorem perform_pure (value : α) (state : σ) :
    (pure value : Action σ α).perform state = (.ok value, state) := rfl

@[simp] theorem perform_throw (e : Error) (state : σ) :
    (throw e : Action σ α).perform state = (.error e, state) := rfl

@[simp] theorem perform_ofResult (result : Except Error α) (state : σ) :
    (ofResult result : Action σ α).perform state = (result, state) := rfl

@[simp] theorem perform_outcome (a : Action σ α) (state : σ) :
    a.outcome.perform state = (.ok (a.perform state).1, (a.perform state).2) := rfl

/-- Work goes on from where the work before it left, unless that failed. -/
theorem perform_bind {β : Type} (a : Action σ α) (next : α → Action σ β) (state : σ) :
    (a >>= next).perform state =
      match a.perform state with
      | (.ok value, state) => (next value).perform state
      | (.error e, state) => (.error e, state) := by
  show (ExceptT.bindCont next (a.perform state).1) (a.perform state).2 = _
  obtain ⟨result, left⟩ := a.perform state
  cases result <;> rfl

/-- Work that ends with a judgement of what came before it does nothing else in the end. -/
theorem perform_bind_judged {β : Type} {a : Action σ α} {next : α → Action σ β} (judge : α → Except Error β)
    (judges : ∀ value left, (next value).perform left = (judge value, left)) (state : σ) :
    (a >>= next).perform state = ((a.perform state).1 >>= judge, (a.perform state).2) := by
  rw [perform_bind]
  obtain ⟨result, left⟩ := a.perform state
  cases result with
  | error e => rfl
  | ok value => exact judges value left

/-- Work that succeeds has succeeded in all its parts. -/
theorem perform_bind_eq_ok {β : Type} {a : Action σ α} {next : α → Action σ β} {state left : σ} {value : β} :
    (a >>= next).perform state = (.ok value, left) ↔
      ∃ first between, a.perform state = (.ok first, between) ∧ (next first).perform between = (.ok value, left) := by
  rw [perform_bind]
  generalize a.perform state = performed
  obtain ⟨result, mid⟩ := performed
  constructor
  · intro done
    cases result with
    | error e => cases done
    | ok first => exact ⟨first, mid, rfl, done⟩
  · rintro ⟨first, between, performed, done⟩
    cases performed
    exact done

end Action
end DeviceHarness
