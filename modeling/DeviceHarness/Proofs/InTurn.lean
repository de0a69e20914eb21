/-! Properties that each element of a list has in view of the elements before it. They say what holds
at every point of a run without a state that is carried along. -/

namespace DeviceHarness

variable {α : Type}

/-- Each element has the property, given the elements before it. -/
def InTurn (property : List α → α → Prop) (items : List α) : Prop :=
  ∀ before item after, items = before ++ item :: after → property before item

namespace InTurn

variable {property : List α → α → Prop}

theorem nil : InTurn property [] := by
  intro before item after same
  simp at same

theorem cons_iff {item : α} {rest : List α} :
    InTurn property (item :: rest) ↔
      property [] item ∧ InTurn (fun before => property (item :: before)) rest := by
  constructor
  · intro each
    refine ⟨each [] item rest rfl, ?_⟩
    intro before other after same
    exact each (item :: before) other after (by rw [same, List.cons_append])
  · rintro ⟨first, later⟩ before other after same
    cases before with
    | nil => cases same; exact first
    | cons head before => cases same; exact later before other after rfl

/-- If something holds of some element in view of those before it, it does so of a first one. -/
theorem first {items : List α} (some : ∃ before item after, items = before ++ item :: after ∧ property before item) :
    ∃ before item after, items = before ++ item :: after ∧ property before item ∧
      InTurn (fun front other => ¬ property front other) before := by
  induction items generalizing property with
  | nil =>
    obtain ⟨before, item, after, same, -⟩ := some
    simp at same
  | cons head rest ih =>
    by_cases now : property [] head
    · exact ⟨[], head, rest, rfl, now, nil⟩
    · have later : ∃ before item after, rest = before ++ item :: after ∧ property (head :: before) item := by
        obtain ⟨before, item, after, same, holds⟩ := some
        cases before with
        | nil =>
          cases same
          exact absurd holds now
        | cons first before =>
          cases same
          exact ⟨before, item, after, rfl, holds⟩
      obtain ⟨before, item, after, same, holds, earlier⟩ := ih later
      exact ⟨head :: before, item, after, by rw [same, List.cons_append], holds, cons_iff.mpr ⟨now, earlier⟩⟩

end InTurn
end DeviceHarness
