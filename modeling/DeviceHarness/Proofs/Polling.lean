import DeviceHarness.Proofs.ActionRelations
import DeviceHarness.Proofs.AdbSteps
import DeviceHarness.Users
import Mathlib.Algebra.Order.Floor.Div
import Mathlib.Algebra.Order.BigOperators.Group.List

/-! Polling, told by what it meets: the answers of its checks and the times at which it looks at the clock. The check
that settles the matter is the first one that answers yes, fails, or comes when time is up. All checks before it are
followed by a look at the clock and a pause that ends before the deadline, and nothing is asked for after it. A pause
that was cut short ends at the deadline, so it is the last one; all others are as long as the shorter of the two
intervals at least, which bounds the checks of a wait that is in vain. -/

namespace DeviceHarness

/-- What polling meets: the answer of each check, and what the clock says after it, counted from zero. -/
structure Course where
  answer : Nat → Except Error Bool
  reading : Nat → Duration

/-- What polling asks for. -/
inductive Asked where
  | check
  | time
  | pause (length : Duration)
  deriving Repr, DecidableEq

def Asked.length : Asked → Duration
  | .pause length => length
  | .check | .time => 0

namespace Course

/-- A watch that follows a course, and that writes down what it is asked for. -/
def watch (c : Course) : Watch (StateM (List Asked)) where
  check asked := (c.answer (asked.count .check), asked ++ [.check])
  elapsed asked := (c.reading (asked.count .time), asked ++ [.time])
  pause length asked := ((), asked ++ [.pause length])

variable (c : Course) (p : WaitPolicy)

/-- The pause after an unsuccessful check. -/
def pauseAfter (i : Nat) : Duration := min (p.backoff (i + 1)) (p.timeout - c.reading i)

def Settles (i : Nat) : Prop := c.answer i ≠ .ok false ∨ p.timeout ≤ c.reading i

/-- This check settles the matter, and none before it does. -/
structure SettledAt (k : Nat) : Prop where
  settles : c.Settles p k
  first : ∀ i < k, ¬ c.Settles p i

/-- What polling comes to when a check settles the matter. -/
def outcome (what : String) (k : Nat) : Except Error Unit :=
  match c.answer k with
  | .ok true => .ok ()
  | .error e => .error e
  | .ok false => .error (WaitPolicy.gaveUp what (c.reading k) (k + 1))

/-- What is asked for in the rounds whose checks did not settle the matter. -/
def asksBefore (k : Nat) : List Asked :=
  (List.range k).flatMap fun i => [.check, .time, .pause (c.pauseAfter p i)]

/-- All that is asked for. The clock is only looked at after a check that answers no. -/
def asks (k : Nat) : List Asked :=
  c.asksBefore p k ++ match c.answer k with
    | .ok false => [.check, .time]
    | _ => [.check]

end Course

namespace Watch

variable {σ : Type} (watch : Watch (StateM σ)) (p : WaitPolicy) (state : σ)

/-- The state that rounds leave whose checks did not settle the matter. -/
def left : Nat → σ
  | 0 => state
  | i + 1 =>
    let checked := (watch.check.run (left i)).2
    let (elapsed, looked) := watch.elapsed.run checked
    ((watch.pause (min (p.backoff (i + 1)) (p.timeout - elapsed))).run looked).2

/-- The course that polling takes with a watch. -/
def course : Course where
  answer i := (watch.check.run (watch.left p state i)).1
  reading i := (watch.elapsed.run (watch.check.run (watch.left p state i)).2).1

/-- The state that polling leaves when a check settles the matter. -/
def leftAt (k : Nat) : σ :=
  match watch.check.run (watch.left p state k) with
  | (.ok false, checked) => (watch.elapsed.run checked).2
  | (_, checked) => checked

end Watch

namespace Course

variable {c : Course} {p : WaitPolicy} {i k : Nat}

theorem not_settles : ¬ c.Settles p i ↔ c.answer i = .ok false ∧ c.reading i < p.timeout := by
  rw [Settles, not_or, not_not, Nat.not_le]

theorem pause_ends (early : c.reading i < p.timeout) : c.reading i + c.pauseAfter p i ≤ p.timeout := by
  calc c.reading i + c.pauseAfter p i ≤ c.reading i + (p.timeout - c.reading i) :=
        Nat.add_le_add_left (Nat.min_le_right _ _) _
    _ = p.timeout := Nat.add_sub_of_le (Nat.le_of_lt early)

theorem SettledAt.unique (settled : c.SettledAt p i) (again : c.SettledAt p k) : i = k := by
  rcases Nat.lt_trichotomy i k with before | same | after
  · exact absurd settled.settles (again.first i before)
  · exact same
  · exact absurd again.settles (settled.first k after)

theorem exists_settledAt (settles : c.Settles p i) : ∃ k ≤ i, c.SettledAt p k := by
  classical
  have some : ∃ i, c.Settles p i := ⟨i, settles⟩
  exact ⟨Nat.find some, Nat.find_min' some settles, Nat.find_spec some, fun _ earlier => Nat.find_min some earlier⟩

end Course

/-! Polling with any watch takes the course of that watch. -/

section AnyWatch

variable {σ : Type} {watch : Watch (StateM σ)} {p : WaitPolicy} {state : σ} {i k : Nat}

theorem left_succ (no : (watch.course p state).answer i = .ok false) :
    ∃ checked, watch.check.run (watch.left p state i) = (.ok false, checked) ∧
      (watch.course p state).reading i = (watch.elapsed.run checked).1 ∧
      watch.left p state (i + 1) = ((watch.pause ((watch.course p state).pauseAfter p i)).run
        (watch.elapsed.run checked).2).2 :=
  ⟨(watch.check.run (watch.left p state i)).2, Prod.ext no rfl, rfl, rfl⟩

theorem run_poll_settled (what : String) (rounds : Nat) (settles : (watch.course p state).Settles p i) :
    (p.poll what watch (rounds + 1) (i + 1)).run (watch.left p state i) =
      (some ((watch.course p state).outcome what i), watch.leftAt p state i) := by
  rw [WaitPolicy.run_poll_succ, Course.outcome, Watch.leftAt]
  unfold Course.Settles at settles
  dsimp only [Watch.course] at settles ⊢
  generalize watch.check.run (watch.left p state i) = checked at settles ⊢
  obtain ⟨result, checked⟩ := checked
  cases result with
  | error e => rfl
  | ok ready =>
    cases ready with
    | true => rfl
    | false =>
      have late : p.timeout ≤ (watch.elapsed.run checked).1 := settles.resolve_left fun some => some rfl
      dsimp only
      rw [WaitPolicy.pause?, if_pos late]

theorem run_poll_unsettled (what : String) (rounds : Nat) (unsettled : ¬ (watch.course p state).Settles p i) :
    (p.poll what watch (rounds + 1) (i + 1)).run (watch.left p state i) =
      (p.poll what watch rounds (i + 2)).run (watch.left p state (i + 1)) := by
  obtain ⟨no, early⟩ := Course.not_settles.mp unsettled
  obtain ⟨checked, answered, reading, next⟩ := left_succ no
  rw [reading] at early
  rw [WaitPolicy.run_poll_succ, answered, next, Course.pauseAfter, reading]
  dsimp only
  rw [WaitPolicy.pause?, if_neg (Nat.not_le.mpr early)]

theorem run_poll (what : String) (settled : (watch.course p state).SettledAt p k) {rounds : Nat} (enough : k < rounds) :
    (p.poll what watch rounds 1).run state =
      (some ((watch.course p state).outcome what k), watch.leftAt p state k) := by
  have from_round (rounds i : Nat) (reached : i ≤ k) (enough : k < rounds + i) :
      (p.poll what watch rounds (i + 1)).run (watch.left p state i) =
        (some ((watch.course p state).outcome what k), watch.leftAt p state k) := by
    -- on the rounds that are left: each one reaches the settling check or leaves it to the next
    induction rounds generalizing i with
    | zero => omega
    | succ rounds ih =>
      rcases Nat.lt_or_eq_of_le reached with before | here
      · rw [run_poll_unsettled what rounds (settled.first i before)]
        exact ih (i + 1) (by omega) (by omega)
      · subst here
        exact run_poll_settled what rounds settled.settles
  exact from_round rounds 0 (by omega) (by omega)

end AnyWatch

/-! A watch that follows a course, and the clock of a host. -/

namespace Course

variable {c : Course} {p : WaitPolicy} {k : Nat}

theorem asksBefore_succ (k : Nat) :
    c.asksBefore p (k + 1) = c.asksBefore p k ++ [.check, .time, .pause (c.pauseAfter p k)] := by
  simp [asksBefore, List.range_succ]

theorem count_asksBefore (k : Nat) : (c.asksBefore p k).count .check = k ∧ (c.asksBefore p k).count .time = k := by
  induction k with
  | zero => exact ⟨rfl, rfl⟩
  | succ k ih => simp [asksBefore_succ, ih.1, ih.2]

theorem count_asks (k : Nat) : (c.asks p k).count .check = k + 1 := by
  rw [asks, List.count_append, (count_asksBefore k).1]
  split <;> rfl

theorem run_check (asked : List Asked) :
    c.watch.check.run asked = (c.answer (asked.count .check), asked ++ [.check]) := rfl

theorem run_elapsed (asked : List Asked) :
    c.watch.elapsed.run asked = (c.reading (asked.count .time), asked ++ [.time]) := rfl

theorem run_pause (length : Duration) (asked : List Asked) :
    (c.watch.pause length).run asked = ((), asked ++ [.pause length]) := rfl

theorem count_time (k : Nat) : (c.asksBefore p k ++ [Asked.check]).count Asked.time = k := by
  rw [List.count_append, (count_asksBefore k).2]
  rfl

theorem left_watch (k : Nat) : c.watch.left p [] k = c.asksBefore p k := by
  induction k with
  | zero => rfl
  | succ k ih =>
    rw [Watch.left, ih, run_check, run_elapsed, count_time, asksBefore_succ]
    simp [run_pause, pauseAfter]

/-- A watch takes the course that it follows. -/
theorem course_watch : c.watch.course p [] = c := by
  simp only [Watch.course, left_watch, run_check, run_elapsed, count_time, (count_asksBefore _).1]

theorem leftAt_watch (k : Nat) : c.watch.leftAt p [] k = c.asks p k := by
  rw [Watch.leftAt, left_watch, run_check, (count_asksBefore k).1, asks]
  cases c.answer k with
  | error e => rfl
  | ok ready =>
    cases ready with
    | true => rfl
    | false => simp [run_elapsed]

theorem run_poll_watch (what : String) (settled : c.SettledAt p k) {rounds : Nat} (enough : k < rounds) :
    (p.poll what c.watch rounds 1).run [] = (some (c.outcome what k), c.asks p k) := by
  have run : (p.poll what c.watch rounds 1).run [] =
      (some ((c.watch.course p []).outcome what k), c.watch.leftAt p [] k) :=
    run_poll what (course_watch.symm ▸ settled) enough
  rwa [course_watch, leftAt_watch] at run

end Course

namespace Host

/-- The course of polling on a host. -/
def course (h : Host) (p : WaitPolicy) (check : Action Host Bool) : Course :=
  (WaitPolicy.watch h.clock check).course p h

/-- The clock was not turned back in between. -/
def NotBefore (h left : Host) : Prop := h.clock ≤ left.clock

instance : Std.Refl NotBefore := ⟨fun h => Nat.le_refl h.clock⟩

instance : IsTrans Host NotBefore := ⟨fun _ _ _ => Nat.le_trans⟩

variable {h : Host} {p : WaitPolicy} {check : Action Host Bool}

theorem clock_left (keeps : check.Leads NotBefore) (i : Nat) :
    h.clock + i ≤ ((WaitPolicy.watch h.clock check).left p h i).clock := by
  induction i with
  | zero => exact Nat.le_refl h.clock
  | succ i ih =>
    have checked := keeps ((WaitPolicy.watch h.clock check).left p h i)
    rw [NotBefore] at checked
    rw [Watch.left]
    simp only [WaitPolicy.run_check_watch, WaitPolicy.run_elapsed_watch, WaitPolicy.run_pause_watch]
    lia

theorem lt_reading (keeps : check.Leads NotBefore) (i : Nat) : i < (h.course p check).reading i := by
  have checked := keeps ((WaitPolicy.watch h.clock check).left p h i)
  rw [NotBefore] at checked
  have began := clock_left (h := h) (p := p) keeps i
  simp only [course, Watch.course, WaitPolicy.run_check_watch, WaitPolicy.run_elapsed_watch]
  lia

theorem pollUntil_course (what : String) (keeps : check.Leads NotBefore) :
    ∃ k ≤ p.timeout, (h.course p check).SettledAt p k ∧
      (p.pollUntil what check).perform h =
        ((h.course p check).outcome what k, (WaitPolicy.watch h.clock check).leftAt p h k) := by
  -- each round takes some time, so time is up at the latest when all rounds are made
  have late : (h.course p check).Settles p p.timeout := .inr (Nat.le_of_lt (lt_reading keeps p.timeout))
  obtain ⟨k, soon, settled⟩ := Course.exists_settledAt late
  refine ⟨k, soon, settled, ?_⟩
  have performed : (p.pollUntil what check).perform h =
      let polled := (p.poll what (WaitPolicy.watch h.clock check) (p.timeout + 1) 1).run h
      (polled.1.getD (.error (WaitPolicy.gaveUp what p.timeout (p.timeout + 1))), polled.2) := rfl
  rw [performed, run_poll what settled (Nat.lt_succ_of_le soon)]
  rfl

theorem shellText_notBefore (adb : Adb) (command : String) : (adb.shellText command).Leads NotBefore := by
  intro h
  rw [Adb.perform_shellText]
  cases adb.reply h ["shell", command] <;> exact Nat.le_refl h.clock

end Host

/-- Users are listed until a listing will do, a listing fails, or time is up. -/
theorem UserManager.waitUntil_course (m : UserManager) (what : String) (holds : List Reply.User → Bool) (h : Host) :
    let check : Action Host Bool := do return holds (← m.list)
    ∃ k ≤ m.wait.timeout, (h.course m.wait check).SettledAt m.wait k ∧ (m.waitUntil what holds).perform h =
      ((h.course m.wait check).outcome what k, (WaitPolicy.watch h.clock check).leftAt m.wait h k) := by
  have listing : m.list.Leads Host.NotBefore :=
    (Host.shellText_notBefore m.adb Users.listCommand).bind fun _ => .ofResult _
  exact Host.pollUntil_course what (listing.bind fun _ => .pure _)

namespace WaitPolicy

theorem backoff_le_max (p : WaitPolicy) (attempt : Nat) : p.backoff attempt ≤ p.max := Nat.min_le_right _ _

/-- Polling makes its checks up to the one that settles the matter, and comes to what that one says. Every check before
it is followed by one pause, which is no longer than the longest pause and ends by the deadline. On a host there always
is such a check. -/
theorem poll_settled (p : WaitPolicy) (what : String) :
    (∀ (c : Course) (k : Nat), c.SettledAt p k →
      (∀ rounds, k < rounds → (p.poll what c.watch rounds 1).run [] = (some (c.outcome what k), c.asks p k)) ∧
      (c.asks p k).count .check = k + 1 ∧
      ∀ i < k, c.reading i < p.timeout ∧ c.pauseAfter p i ≤ p.max ∧ c.reading i + c.pauseAfter p i ≤ p.timeout) ∧
    ∀ (h : Host) (check : Action Host Bool), check.Leads Host.NotBefore →
      ∃ k, (h.course p check).SettledAt p k ∧ (p.pollUntil what check).perform h =
        ((h.course p check).outcome what k, (watch h.clock check).leftAt p h k) := by
  constructor
  · intro c k settled
    refine ⟨fun rounds enough => Course.run_poll_watch what settled enough, Course.count_asks k, ?_⟩
    intro i before
    obtain ⟨-, early⟩ := Course.not_settles.mp (settled.first i before)
    exact ⟨early, (Nat.min_le_left _ _).trans (p.backoff_le_max (i + 1)), Course.pause_ends early⟩
  · intro h check keeps
    obtain ⟨k, -, settled, performed⟩ := Host.pollUntil_course what keeps
    exact ⟨k, settled, performed⟩

/-- Ready at the third check, after a pause that would have doubled to more than the longest one, and ready at once. -/
theorem poll_settled_third :
    let p : WaitPolicy := ⟨10, 3, 4⟩
    let c : Course := ⟨fun i => .ok (i == 2), fun i => 4 * i + 1⟩
    c.SettledAt p 2 ∧ (p.poll "third" c.watch 3 1).run [] =
      (some (.ok ()), [.check, .time, .pause 3, .check, .time, .pause 4, .check]) ∧
    ∀ h : Host, ((p.pollUntil "third" (pure true)).perform h).1 = .ok () := by
  intro p c
  have settled : c.SettledAt p 2 := by
    refine ⟨.inl (by decide), ?_⟩
    intro i before
    rw [Course.not_settles]
    have each : ∀ i < 2, c.answer i = .ok false ∧ c.reading i < p.timeout := by decide
    exact each i before
  refine ⟨settled, ((poll_settled p "third").1 c 2 settled).1 3 (by decide), ?_⟩
  intro h
  obtain ⟨k, -, performed⟩ := (poll_settled p "third").2 h (pure true) (.pure true)
  rw [performed]
  rfl

end WaitPolicy

/-! Waits that are in vain. -/

namespace Course

variable {c : Course} {p : WaitPolicy}

/-- Pauses take at least as long as they should. -/
def Passes (c : Course) (p : WaitPolicy) : Prop :=
  ∀ i, c.reading i < p.timeout → c.reading i + c.pauseAfter p i ≤ c.reading (i + 1)

theorem min_le_backoff (lasting : p.initial ≤ Duration.longest) (attempt : Nat) :
    min p.initial p.max ≤ p.backoff attempt := by
  have grown : p.initial ≤ p.initial * Nat.pow 2 (min (attempt - 1) 31) :=
    Nat.le_mul_of_pos_right _ (Nat.pow_pos Nat.two_pos)
  exact min_le_min_right _ (le_min grown lasting)

theorem uncut (lasting : p.initial ≤ Duration.longest) (passes : c.Passes p) {i : Nat} (early : c.reading i < p.timeout)
    (still : c.reading (i + 1) < p.timeout) : c.reading i + min p.initial p.max ≤ c.reading (i + 1) := by
  -- a pause that was cut short would have ended at the deadline
  have passed := passes i early
  have least := min_le_backoff lasting (i + 1)
  unfold pauseAfter at passed
  lia

theorem reading_grows (lasting : p.initial ≤ Duration.longest) (passes : c.Passes p) {n : Nat}
    (early : ∀ i ≤ n, c.reading i < p.timeout) : n * min p.initial p.max ≤ c.reading n := by
  induction n with
  | zero => simp
  | succ n ih =>
    have before := ih fun i within => early i (by omega)
    have step := uncut lasting passes (early n (by omega)) (early (n + 1) le_rfl)
    calc (n + 1) * min p.initial p.max = n * min p.initial p.max + min p.initial p.max := Nat.succ_mul _ _
      _ ≤ c.reading n + min p.initial p.max := Nat.add_le_add_right before _
      _ ≤ c.reading (n + 1) := step

theorem settles_in_vain (positive : 0 < min p.initial p.max) (lasting : p.initial ≤ Duration.longest)
    (passes : c.Passes p) : ∃ k ≤ p.timeout ⌈/⌉ min p.initial p.max, c.SettledAt p k := by
  let n := p.timeout ⌈/⌉ min p.initial p.max
  have late : ∃ i ≤ n, p.timeout ≤ c.reading i := by
    by_contra none
    have early : ∀ i ≤ n, c.reading i < p.timeout := by
      intro i within
      exact Nat.lt_of_not_le fun late => none ⟨i, within, late⟩
    have covered : p.timeout ≤ min p.initial p.max * n := (ceilDiv_le_iff_le_mul positive).mp le_rfl
    have grown := reading_grows lasting passes early
    rw [Nat.mul_comm] at grown
    exact Nat.lt_irrefl _ ((covered.trans grown).trans_lt (early n le_rfl))
  obtain ⟨i, within, late⟩ := late
  obtain ⟨k, soon, settled⟩ := exists_settledAt (.inr late)
  exact ⟨k, soon.trans within, settled⟩

theorem sum_length_asks (k : Nat) :
    ((c.asks p k).map Asked.length).sum = ((List.range k).map (c.pauseAfter p)).sum := by
  have before : ((c.asksBefore p k).map Asked.length).sum = ((List.range k).map (c.pauseAfter p)).sum := by
    induction k with
    | zero => rfl
    | succ k ih =>
      rw [asksBefore_succ, List.map_append, List.sum_append, ih, List.range_succ, List.map_append, List.sum_append]
      simp [Asked.length]
  rw [asks, List.map_append, List.sum_append, before]
  split <;> rfl

theorem sum_pauses_le_reading (passes : c.Passes p) {n : Nat} (early : ∀ i < n, c.reading i < p.timeout) :
    ((List.range n).map (c.pauseAfter p)).sum ≤ c.reading n := by
  induction n with
  | zero => exact Nat.zero_le _
  | succ n ih =>
    have before := ih fun i within => early i (by omega)
    rw [List.range_succ, List.map_append, List.sum_append]
    calc _ ≤ c.reading n + c.pauseAfter p n := Nat.add_le_add before (by simp)
      _ ≤ c.reading (n + 1) := passes n (early n (by omega))

theorem sum_pauses_le (passes : c.Passes p) {k : Nat} (settled : c.SettledAt p k) :
    ((List.range k).map (c.pauseAfter p)).sum ≤ p.timeout := by
  have early (i : Nat) (before : i < k) : c.reading i < p.timeout := (not_settles.mp (settled.first i before)).2
  -- all pauses but the last one are over when it begins, and that one ends by the deadline
  cases k with
  | zero => exact Nat.zero_le _
  | succ n =>
    have earlier := sum_pauses_le_reading (n := n) passes fun i within => early i (by omega)
    rw [List.range_succ, List.map_append, List.sum_append]
    calc _ ≤ c.reading n + c.pauseAfter p n := Nat.add_le_add earlier (by simp)
      _ ≤ p.timeout := pause_ends (early n (by omega))

end Course

theorem Host.course_passes {h : Host} {p : WaitPolicy} {check : Action Host Bool} (keeps : check.Leads NotBefore) :
    (h.course p check).Passes p := by
  intro i early
  have began := clock_left (h := h) (p := p) keeps i
  have first := keeps ((WaitPolicy.watch h.clock check).left p h i)
  have next := keeps ((WaitPolicy.watch h.clock check).left p h (i + 1))
  rw [NotBefore] at first next
  have paused : ((WaitPolicy.watch h.clock check).left p h (i + 1)).clock =
      (check.perform ((WaitPolicy.watch h.clock check).left p h i)).2.clock + 1 + (h.course p check).pauseAfter p i := rfl
  show (check.perform ((WaitPolicy.watch h.clock check).left p h i)).2.clock + 1 - h.clock +
      (h.course p check).pauseAfter p i ≤
    (check.perform ((WaitPolicy.watch h.clock check).left p h (i + 1))).2.clock + 1 - h.clock
  rw [paused] at next
  lia

/-- A wait that is in vain is given up, after a number of checks that the shorter of the two intervals bounds. -/
theorem WaitPolicy.poll_in_vain (p : WaitPolicy) (what : String) (positive : 0 < p.initial ∧ 0 < p.max)
    (lasting : p.initial ≤ Duration.longest) :
    (∀ c : Course, (∀ i, c.answer i = .ok false) → c.Passes p → ∃ checks elapsed asked,
      (∀ rounds, checks ≤ rounds →
        (p.poll what c.watch rounds 1).run [] = (some (.error (gaveUp what elapsed checks)), asked)) ∧
      asked.count .check = checks ∧ checks ≤ p.timeout ⌈/⌉ min p.initial p.max + 1 ∧
      (asked.map Asked.length).sum ≤ p.timeout) ∧
    ∀ (h : Host) (check : Action Host Bool), check.Leads Host.NotBefore → (∀ h, (check.perform h).1 = .ok false) →
      ∃ checks elapsed, ((p.pollUntil what check).perform h).1 = .error (gaveUp what elapsed checks) ∧
        checks ≤ p.timeout ⌈/⌉ min p.initial p.max + 1 := by
  have least : 0 < min p.initial p.max := lt_min positive.1 positive.2
  have given {c : Course} (k : Nat) (no : c.answer k = .ok false) :
      c.outcome what k = .error (gaveUp what (c.reading k) (k + 1)) := by rw [Course.outcome, no]
  constructor
  · intro c never passes
    obtain ⟨k, soon, settled⟩ := Course.settles_in_vain least lasting passes
    refine ⟨k + 1, c.reading k, c.asks p k, ?_, Course.count_asks k, Nat.succ_le_succ soon, ?_⟩
    · intro rounds enough
      rw [Course.run_poll_watch what settled enough, given k (never k)]
    · rw [Course.sum_length_asks]
      exact Course.sum_pauses_le passes settled
  · intro h check keeps never
    obtain ⟨k, soon, settled⟩ := Course.settles_in_vain least lasting (Host.course_passes (h := h) keeps)
    obtain ⟨j, -, again, performed⟩ := Host.pollUntil_course (h := h) what keeps
    obtain rfl := settled.unique again
    refine ⟨k + 1, (h.course p check).reading k, ?_, Nat.succ_le_succ soon⟩
    rw [performed, given k (never _)]

/-- The clock goes no faster than it must, and all the checks that are possible are made. -/
theorem WaitPolicy.poll_in_vain_steady :
    let p : WaitPolicy := ⟨10, 3, 3⟩
    let c : Course := ⟨fun _ => .ok false, fun i => 3 * i⟩
    ((0 < p.initial ∧ 0 < p.max) ∧ p.initial ≤ Duration.longest ∧ c.Passes p) ∧
    (∃ checks elapsed asked,
      (∀ rounds, checks ≤ rounds →
        (p.poll "never" c.watch rounds 1).run [] = (some (.error (gaveUp "never" elapsed checks)), asked)) ∧
      asked.count .check = checks ∧ checks ≤ 5 ∧ (asked.map Asked.length).sum ≤ 10) ∧
    ∀ h : Host, ∃ checks elapsed,
      ((p.pollUntil "never" (pure false)).perform h).1 = .error (gaveUp "never" elapsed checks) ∧ checks ≤ 5 := by
  intro p c
  have positive : 0 < p.initial ∧ 0 < p.max := by decide
  have lasting : p.initial ≤ Duration.longest := by decide
  have passes : c.Passes p := by
    intro i early
    have each : ∀ i < 4, c.reading i + c.pauseAfter p i ≤ c.reading (i + 1) := by decide
    have few : 3 * i < 10 := early
    exact each i (by omega)
  have bound : p.timeout ⌈/⌉ min p.initial p.max + 1 = 5 := by decide
  obtain ⟨followed, hosted⟩ := poll_in_vain p "never" positive lasting
  rw [bound] at followed hosted
  refine ⟨⟨positive, lasting, passes⟩, followed c (fun _ => rfl) passes, ?_⟩
  intro h
  exact hosted h (pure false) (.pure false) fun _ => rfl

end DeviceHarness
