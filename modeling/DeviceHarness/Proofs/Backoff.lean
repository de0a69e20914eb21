import DeviceHarness.Wait

/-! How pauses grow. A pause is twice the one before it, until that would be longer than the longest pause. But a
pause doubles 31 times at most, which shows where the longest pause is longer than the first one by more than that:
then the pauses stop growing before they get there. -/

namespace DeviceHarness.WaitPolicy

/-- The first pause, doubled for every check before this one, or the longest pause where that is shorter. -/
def doubled (p : WaitPolicy) (attempt : Nat) : Duration := min p.max (p.initial * Nat.pow 2 (Nat.max attempt 1 - 1))

variable {p : WaitPolicy}

/-- The longest pause is a duration, so no product that is cut to the longest duration shows. -/
theorem backoff_eq_min (short : p.max ≤ Duration.longest) (attempt : Nat) :
    p.backoff attempt = min p.max (p.initial * Nat.pow 2 (min (attempt - 1) 31)) := by
  rw [backoff, Nat.min_assoc, Nat.min_eq_right short, Nat.min_comm]

/-- While it still doubles, a pause is made of the one before it. -/
theorem backoff_succ (short : p.max ≤ Duration.longest) {attempt : Nat} (begun : 0 < attempt) (early : attempt < 32) :
    p.backoff (attempt + 1) = min p.max (2 * p.backoff attempt) := by
  obtain ⟨doublings, rfl⟩ := Nat.exists_eq_add_of_lt begun
  have before : min (0 + doublings + 1 - 1) 31 = doublings := by omega
  have after : min (0 + doublings + 1 + 1 - 1) 31 = doublings + 1 := by omega
  have twice : Nat.pow 2 (doublings + 1) = Nat.pow 2 doublings * 2 := rfl
  rw [backoff_eq_min short, backoff_eq_min short, before, after, twice, ← Nat.mul_assoc]
  lia

theorem backoff_late (p : WaitPolicy) {attempt : Nat} (late : 32 ≤ attempt) :
    p.backoff (attempt + 1) = p.backoff attempt := by
  have before : min (attempt - 1) 31 = 31 := by omega
  have after : min (attempt + 1 - 1) 31 = 31 := by omega
  rw [backoff, backoff, before, after]

theorem doubled_eq_min (p : WaitPolicy) (attempt : Nat) :
    p.doubled attempt = min p.max (p.initial * Nat.pow 2 (attempt - 1)) := by
  have same : Nat.max attempt 1 - 1 = attempt - 1 := by lia
  rw [doubled, same]

/-- After more doublings than there are, a pause that is none stays none, and one that has reached the longest pause
stays there. Any other one should have grown on. -/
theorem doubled_late {attempt : Nat} (late : 32 < attempt) :
    min p.max (p.initial * Nat.pow 2 31) = p.doubled attempt ↔ p.initial = 0 ∨ p.max ≤ p.initial * Nat.pow 2 31 := by
  have more : Nat.pow 2 31 < Nat.pow 2 (attempt - 1) := Nat.pow_lt_pow_right (by omega) (by omega)
  rw [doubled_eq_min]
  by_cases none : p.initial = 0
  · simp [none]
  · have grows : p.initial * Nat.pow 2 31 < p.initial * Nat.pow 2 (attempt - 1) :=
      Nat.mul_lt_mul_of_pos_left more (Nat.pos_of_ne_zero none)
    lia

/-- Pauses double after every check up to the longest one, exactly as long as there are no more than 32 checks or 31
doublings are enough to get there. Each of the first 32 checks but the first doubles the pause, and no later one
changes it. -/
theorem backoff_eq_doubled_iff (p : WaitPolicy) (short : p.max ≤ Duration.longest) (attempt : Nat) :
    (p.backoff attempt = p.doubled attempt ↔ attempt ≤ 32 ∨ p.initial = 0 ∨ p.max ≤ p.initial * Nat.pow 2 31) ∧
      p.backoff (attempt + 1) =
        if 0 < attempt ∧ attempt < 32 then min p.max (2 * p.backoff attempt) else p.backoff attempt := by
  constructor
  · by_cases early : attempt ≤ 32
    · have unclamped : min (attempt - 1) 31 = attempt - 1 := by omega
      rw [backoff_eq_min short, doubled_eq_min, unclamped]
      exact iff_of_true rfl (.inl early)
    · have clamped : min (attempt - 1) 31 = 31 := by omega
      rw [backoff_eq_min short, clamped, doubled_late (Nat.lt_of_not_le early)]
      exact (or_iff_right early).symm
  · by_cases begun : attempt = 0
    · subst begun
      rfl
    · by_cases early : attempt < 32
      · rw [if_pos ⟨Nat.pos_of_ne_zero begun, early⟩]
        exact backoff_succ short (Nat.pos_of_ne_zero begun) early
      · rw [if_neg fun both => early both.2]
        exact p.backoff_late (Nat.le_of_not_lt early)

/-- From a nanosecond, 31 doublings do not get to five seconds. -/
theorem backoff_eq_doubled_iff_stalled :
    let p : WaitPolicy := ⟨Duration.seconds 60, 1, Duration.seconds 5⟩
    p.max ≤ Duration.longest ∧ p.backoff 32 = p.doubled 32 ∧ p.backoff 33 ≠ p.doubled 33 ∧
      p.backoff 33 = p.backoff 32 := by
  intro p
  have short : p.max ≤ Duration.longest := by decide
  have at32 := backoff_eq_doubled_iff p short 32
  have at33 := backoff_eq_doubled_iff p short 33
  refine ⟨short, at32.1.mpr (.inl (Nat.le_refl 32)), ?_, at32.2.trans (if_neg (by decide))⟩
  intro same
  exact absurd (at33.1.mp same) (by decide)

/-- A pause that should have become the longest one is only 31 doublings of the first. -/
theorem pause_below_longest :
    let p : WaitPolicy := ⟨Duration.seconds 60, 1, Duration.seconds 5⟩
    p.backoff 34 = 2147483648 ∧ p.doubled 34 = Duration.seconds 5 ∧ p.backoff 34 ≠ p.doubled 34 := by decide

end DeviceHarness.WaitPolicy
