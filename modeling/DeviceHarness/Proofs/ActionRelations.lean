import DeviceHarness.Action
import Mathlib.Order.Defs.Unbundled

/-! Relations between the states before and after work. One that holds where nothing is done, and from the first
to the last state when it holds from each to the next, holds for all work whose parts keep it. -/

namespace DeviceHarness.Action

variable {σ τ α β : Type} {rel : σ → σ → Prop}

/-- Wherever the work begins and however it ends, the state that it leaves is related to the one before. -/
def Leads (rel : σ → σ → Prop) (work : Action σ α) : Prop := ∀ state, rel state (work.perform state).2

theorem Leads.mono {other : σ → σ → Prop} {work : Action σ α} (leads : Leads rel work)
    (implies : ∀ state left, rel state left → other state left) : Leads other work :=
  fun state => implies _ _ (leads state)

/-- Work whose failure is only a value. -/
theorem Leads.outcome {work : Action σ α} (leads : Leads rel work) : Leads rel work.outcome := leads

theorem Leads.within {inner : τ → τ → Prop} {part : σ → τ} {update : τ → σ → σ} {work : Action τ α}
    (leads : Leads inner work) (updated : ∀ state left, inner (part state) left → rel state (update left state)) :
    Leads rel (work.within part update) :=
  fun state => updated state _ (leads (part state))

theorem Leads.still [refl : Std.Refl rel] {work : Action σ α} (same : ∀ state, (work.perform state).2 = state) :
    Leads rel work := by
  intro state
  rw [same]
  exact refl.refl state

theorem Leads.pure [Std.Refl rel] (value : α) : Leads rel (Pure.pure value : Action σ α) := .still fun _ => rfl

theorem Leads.throw [Std.Refl rel] (e : Error) : Leads rel (MonadExcept.throw e : Action σ α) := .still fun _ => rfl

theorem Leads.ofResult [Std.Refl rel] (result : Except Error α) : Leads rel (ofResult result : Action σ α) :=
  .still fun _ => rfl

theorem Leads.bind [trans : IsTrans σ rel] {work : Action σ α} {next : α → Action σ β} (first : Leads rel work)
    (rest : ∀ value, Leads rel (next value)) : Leads rel (work >>= next) := by
  intro state
  have began := first state
  rw [perform_bind]
  generalize work.perform state = outcome at *
  obtain ⟨result, mid⟩ := outcome
  cases result with
  | error e => exact began
  | ok value => exact trans.trans _ _ _ began (rest value mid)

theorem Leads.each [Std.Refl rel] [IsTrans σ rel] {work : α → Action σ Unit} {items : List α}
    (leads : ∀ item, Leads rel (work item)) : Leads rel (each work items) := by
  induction items with
  | nil => exact .pure ()
  | cons item rest ih => exact (leads item).bind fun _ => ih

end DeviceHarness.Action
