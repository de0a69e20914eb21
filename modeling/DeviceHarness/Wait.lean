import DeviceHarness.Error
import DeviceHarness.Duration

/-! Waiting for a device. Changes on a device are observed by asking again and again, with pauses
that double up to a limit, until a deadline. At least one check is made, and the last pause is cut
so that it does not reach past the deadline. -/

namespace DeviceHarness

structure WaitPolicy where
  /-- How long to wait before giving up. -/
  timeout : Duration
  /-- The pause after the first unsuccessful check. -/
  initial : Duration
  /-- No pause is longer than this. -/
  max : Duration
  deriving Repr, DecidableEq

namespace WaitPolicy

def default : WaitPolicy := ⟨Duration.seconds 60, Duration.milliseconds 250, Duration.milliseconds 5000⟩

/-- The pause after the given check, counted from one: the first pause doubled for each check before
it. It stops doubling after 31 times, and a pause is never longer than a duration can be. -/
def backoff (p : WaitPolicy) (attempt : Nat) : Duration :=
  min (min (p.initial * Nat.pow 2 (min (attempt - 1) 31)) Duration.longest) p.max

/-- What follows an unsuccessful check: the pause before the next one, or none when time is up. -/
def pause? (p : WaitPolicy) (attempt : Nat) (elapsed : Duration) : Option Duration :=
  if p.timeout ≤ elapsed then none else some (min (p.backoff attempt) (p.timeout - elapsed))

/-- The failure of a wait that took too long. -/
def gaveUp (what : String) (elapsed : Duration) (checks : Nat) : Error :=
  .timeout (what ++ " (gave up after " ++ Duration.text elapsed ++ ", " ++ Integer.text checks ++
    " checks)")

end WaitPolicy

/-- What polling needs: a check, the time since polling began, and a way to let time pass. -/
structure Watch (m : Type → Type) where
  check : m (Except Error Bool)
  elapsed : m Duration
  pause : Duration → m Unit

namespace WaitPolicy

variable {m : Type → Type} [Monad m]

/-- Checks until the answer is yes, a check fails, or time is up. Answers nothing when `rounds`
checks have not settled it; `attempt` counts the check that is made next. -/
def poll (p : WaitPolicy) (what : String) (watch : Watch m) :
    (rounds attempt : Nat) → m (Option (Except Error Unit))
  | 0, _ => pure none
  | rounds + 1, attempt => do
    match ← watch.check with
    | .error e => pure (some (.error e))
    | .ok true => pure (some (.ok ()))
    | .ok false =>
      let elapsed ← watch.elapsed
      match p.pause? attempt elapsed with
      | none => pure (some (.error (gaveUp what elapsed attempt)))
      | some time => do
        watch.pause time
        poll p what watch rounds (attempt + 1)

/-- A round of polling that works on a state. -/
theorem run_poll_succ {σ : Type} (p : WaitPolicy) (what : String) (watch : Watch (StateM σ)) (rounds attempt : Nat)
    (state : σ) :
    (p.poll what watch (rounds + 1) attempt).run state =
      match watch.check.run state with
      | (.error e, checked) => (some (.error e), checked)
      | (.ok true, checked) => (some (.ok ()), checked)
      | (.ok false, checked) =>
        match p.pause? attempt (watch.elapsed.run checked).1 with
        | none =>
          (some (.error (gaveUp what (watch.elapsed.run checked).1 attempt)), (watch.elapsed.run checked).2)
        | some time =>
          (p.poll what watch rounds (attempt + 1)).run ((watch.pause time).run (watch.elapsed.run checked).2).2 := by
  rw [poll, StateT.run_bind]
  obtain ⟨result, checked⟩ := watch.check.run state
  cases result with
  | error e => rfl
  | ok ready =>
    cases ready with
    | true => rfl
    | false =>
      dsimp only
      show (match p.pause? attempt (watch.elapsed.run checked).1 with | none => _ | some time => _ : StateM _ _) _ = _
      cases p.pause? attempt (watch.elapsed.run checked).1 <;> rfl

end WaitPolicy
end DeviceHarness
