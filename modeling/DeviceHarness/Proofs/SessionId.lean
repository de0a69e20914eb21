import DeviceHarness.Proofs.Numerals
import DeviceHarness.Reply.Session
import DeviceHarness.Text.Split
import Mathlib.Data.List.TakeWhile

/-! Which replies hold the id of an install session: it stands in the last brackets. -/

namespace DeviceHarness.Reply

/-- A text in its last brackets: no closing one follows, and no opening one is within. -/
def Bracketed (s inside : List Char) : Prop :=
  ∃ before after, s = before ++ '[' :: inside ++ ']' :: after ∧ ']' ∉ after ∧ '[' ∉ inside

theorem bracketed_reverse {after inside before : List Char} :
    (after ++ ']' :: (inside ++ '[' :: before)).reverse =
      before.reverse ++ '[' :: inside.reverse ++ ']' :: after.reverse := by simp

theorem lastBracketed?_eq_some {s inside : List Char} :
    lastBracketed? s = some inside ↔ Bracketed s inside := by
  unfold lastBracketed?
  constructor
  · intro found
    by_cases closed : ']' ∈ s.reverse
    · obtain ⟨after, front, turned, noClosing⟩ := List.eq_append_cons_of_mem closed
      rw [turned, Text.dropWhile_ne noClosing] at found
      by_cases opened : '[' ∈ front
      · obtain ⟨enclosed, before, rfl, noOpening⟩ := List.eq_append_cons_of_mem opened
        obtain rfl : enclosed.reverse = inside := by simpa [Text.takeWhile_ne noOpening] using found
        refine ⟨before.reverse, after.reverse, ?_, by simpa using noClosing, by simpa using noOpening⟩
        rw [← bracketed_reverse, ← turned, List.reverse_reverse]
      · simp [opened] at found
    · have none : s.reverse.dropWhile (· != ']') = [] := by
        rw [List.dropWhile_eq_nil_iff]
        intro c member
        simp only [bne_iff_ne]
        rintro rfl
        exact closed member
      simp [none] at found
  · rintro ⟨before, after, rfl, noClosing, noOpening⟩
    have turned : (before ++ '[' :: inside ++ ']' :: after).reverse =
        after.reverse ++ ']' :: (inside.reverse ++ '[' :: before.reverse) := by simp
    rw [← List.mem_reverse] at noClosing noOpening
    rw [turned, Text.dropWhile_ne noClosing]
    simp [Text.takeWhile_ne noOpening]

/-- A reply holds an id: its last brackets enclose a number that is not negative and fits 64 bits. -/
def HoldsId (reply : String) (id : Int) : Prop :=
  ∃ inside, Bracketed reply.toList inside ∧
    Integer.ofText? 64 (Text.trim (String.ofList inside)) = some id ∧ 0 ≤ id

/-- A reply shows a number: it is all that stands in the last brackets, blanks aside, and it fits 64 bits. -/
def Shows (reply : String) (n : Int) : Prop :=
  ∃ inside, Bracketed reply.toList inside ∧ Integer.IsDecimal (Text.trimmed inside) n ∧ Integer.fits 64 n = true

theorem shows_iff {reply : String} {n : Int} :
    Shows reply n ↔ (lastBracketed? reply.toList).bind (fun s => Integer.ofChars? 64 (Text.trimmed s)) = some n := by
  simp only [Shows, Option.bind_eq_some_iff, lastBracketed?_eq_some, Integer.ofChars?_eq_some]

theorem Shows.unique {reply : String} {n m : Int} (shows : Shows reply n) (again : Shows reply m) : n = m :=
  Option.some.inj ((shows_iff.mp shows).symm.trans (shows_iff.mp again))

theorem holdsId_iff {reply : String} {id : Int} : HoldsId reply id ↔ Shows reply id ∧ 0 ≤ id := by
  simp only [HoldsId, Shows, Integer.ofText?, Text.trim, String.toList_ofList, Integer.ofChars?_eq_some]
  constructor
  · rintro ⟨inside, bracketed, number, positive⟩
    exact ⟨⟨inside, bracketed, number⟩, positive⟩
  · rintro ⟨⟨inside, bracketed, number⟩, positive⟩
    exact ⟨inside, bracketed, number, positive⟩

theorem sessionId_cases (reply : String) :
    (∃ n, Shows reply n ∧ sessionId reply =
      if 0 ≤ n then .ok n else .error (.assertion ("failed to create install session: " ++ Text.trim reply))) ∨
    ((∀ n, ¬ Shows reply n) ∧ ∃ text, sessionId reply = .error (.harness text)) := by
  have shows (n : Int) := @shows_iff reply n
  unfold sessionId
  cases found : lastBracketed? reply.toList with
  | none =>
    rw [found] at shows
    have never : ∀ n, ¬ Shows reply n := fun n shown => by cases (shows n).mp shown
    exact .inr ⟨never, _, rfl⟩
  | some inside =>
    have read : Integer.ofText? 64 (Text.trim (String.ofList inside)) = Integer.ofChars? 64 (Text.trimmed inside) := by
      rw [Integer.ofText?, Text.trim, String.toList_ofList, String.toList_ofList]
    rw [found, Option.bind_some] at shows
    dsimp only
    rw [read]
    cases number : Integer.ofChars? 64 (Text.trimmed inside) with
    | none =>
      have never : ∀ n, ¬ Shows reply n := fun n shown => by cases number.symm.trans ((shows n).mp shown)
      exact .inr ⟨never, _, rfl⟩
    | some n => exact .inl ⟨n, (shows n).mpr number, rfl⟩

theorem sessionId_eq_ok {reply : String} {id : Int} : sessionId reply = .ok id ↔ HoldsId reply id := by
  rw [holdsId_iff]
  rcases sessionId_cases reply with ⟨n, shown, outcome⟩ | ⟨none, text, outcome⟩
  · have same : Shows reply id ↔ n = id := ⟨shown.unique, fun same => same ▸ shown⟩
    rw [outcome, same]
    by_cases positive : 0 ≤ n
    · rw [if_pos positive, Except.ok.injEq]
      constructor
      · intro same
        exact ⟨same, same ▸ positive⟩
      · exact And.left
    · rw [if_neg positive]
      refine iff_of_false (by simp) ?_
      rintro ⟨rfl, holds⟩
      exact positive holds
  · rw [outcome]
    exact iff_of_false (by simp) fun holds => none id holds.1

/-- A number between brackets is shown, whatever stands before them, if no closing one stands after them. -/
theorem shows_written (before lead trail after : String) {n : Int} (within : Integer.fits 64 n = true)
    (blank : Text.blank lead = true ∧ Text.blank trail = true) (last : ']' ∉ after.toList) :
    Shows (before ++ "[" ++ lead ++ Integer.text n ++ trail ++ "]" ++ after) n := by
  have spaces : (∀ c ∈ lead.toList, Text.isBlank c = true) ∧ ∀ c ∈ trail.toList, Text.isBlank c = true :=
    ⟨List.all_eq_true.mp blank.1, List.all_eq_true.mp blank.2⟩
  have solid : ∀ c ∈ Integer.notationOf n, Text.isBlank c = false :=
    fun c member => Integer.not_blank_of_mem_notationOf member
  refine ⟨lead.toList ++ Integer.notationOf n ++ trail.toList, ⟨before.toList, after.toList, ?_, last, ?_⟩, ?_, within⟩
  · simp [Integer.text]
  · intro opening
    rcases List.mem_append.mp opening with front | member
    · rcases List.mem_append.mp front with member | member
      · cases spaces.1 _ member
      · rcases Integer.mem_notationOf member with sign | digit
        · cases sign
        · cases digit
    · cases spaces.2 _ member
  · rw [Text.trimmed_padded spaces.1 spaces.2 (fun c first => solid c (List.mem_of_mem_head? first))
      (fun c final => solid c (List.mem_of_mem_getLast? final))]
    exact Integer.isDecimal_notationOf n

/-- The id is the number that a reply shows. A negative number is a refusal, and a reply that shows none cannot be
understood, so no id is ever made up. -/
theorem sessionId_shown (reply : String) :
    (∀ id, sessionId reply = .ok id ↔ Shows reply id ∧ 0 ≤ id) ∧
    ((∃ text, sessionId reply = .error (.assertion text)) ↔ ∃ n, Shows reply n ∧ n < 0) ∧
    ((∃ text, sessionId reply = .error (.harness text)) ↔ ∀ n, ¬ Shows reply n) ∧
    ∀ (before lead trail after : String) (id : Int), Integer.fits 64 id = true → 0 ≤ id →
      Text.blank lead = true ∧ Text.blank trail = true → ']' ∉ after.toList →
        sessionId (before ++ "[" ++ lead ++ Integer.text id ++ trail ++ "]" ++ after) = .ok id := by
  refine ⟨fun id => sessionId_eq_ok.trans holdsId_iff, ?_, ?_, ?_⟩
  · rcases sessionId_cases reply with ⟨n, shown, outcome⟩ | ⟨none, text, outcome⟩
    · by_cases positive : 0 ≤ n
      · rw [outcome, if_pos positive]
        refine iff_of_false (by simp) ?_
        intro ⟨m, again, negative⟩
        have same := shown.unique again
        omega
      · rw [outcome, if_neg positive]
        exact iff_of_true ⟨_, rfl⟩ ⟨n, shown, by omega⟩
    · rw [outcome]
      exact iff_of_false (by simp) fun ⟨n, shown, _⟩ => none n shown
  · rcases sessionId_cases reply with ⟨n, shown, outcome⟩ | ⟨none, text, outcome⟩
    · rw [outcome]
      refine iff_of_false ?_ fun none => none n shown
      split <;> simp
    · rw [outcome]
      exact iff_of_true ⟨text, rfl⟩ none
  · intro before lead trail after id within positive blank last
    exact sessionId_eq_ok.mpr (holdsId_iff.mpr ⟨shows_written before lead trail after within blank last, positive⟩)

/-- Blanks around the id, and another number in brackets before it. -/
theorem sessionId_shown_padded :
    let spaced := "[1] Success: created install session " ++ "[" ++ " " ++ Integer.text 77 ++ " " ++ "]" ++ "\n"
    sessionId spaced = .ok 77 ∧ Integer.fits 64 77 = true ∧ Text.blank " " = true ∧ ']' ∉ "\n".toList := by
  have met : Integer.fits 64 77 = true ∧ Text.blank " " = true ∧ ']' ∉ "\n".toList := by decide
  exact ⟨(sessionId_shown "").2.2.2 "[1] Success: created install session " " " " " "\n" 77 met.1 (by decide)
    ⟨met.2.1, met.2.1⟩ met.2.2, met⟩

end DeviceHarness.Reply
