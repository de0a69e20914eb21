import DeviceHarness.Proofs.ProcessStatesReading

/-! State codes, read and written. Both forms begin with the screen and the memory pressure, and only what follows tells
them apart: nothing, or the letters of a process. So no text is read in both forms, and each text that is read is the
code and the qualifiers that came out of it, written one after the other. -/

namespace DeviceHarness.Checkin

theorem Screen.ofLetter?_letter (screen : Screen) : ofLetter? screen.letter = some screen := by
  cases screen <;> rfl

theorem Memory.ofLetter?_letter (memory : Memory) : ofLetter? memory.letter = some memory := by
  cases memory <;> rfl

theorem Screen.exists_letter_iff {c : Char} : (∃ screen : Screen, screen.letter = c) ↔ c ∈ ['0', '1'] := by
  constructor
  · rintro ⟨screen, rfl⟩
    cases screen <;> decide
  · simp only [List.mem_cons, List.not_mem_nil, or_false]
    rintro (rfl | rfl)
    · exact ⟨off, rfl⟩
    · exact ⟨on, rfl⟩

theorem Memory.exists_letter_iff {c : Char} : (∃ memory : Memory, memory.letter = c) ↔ c ∈ ['n', 'm', 'l', 'c'] := by
  constructor
  · rintro ⟨memory, rfl⟩
    cases memory <;> decide
  · simp only [List.mem_cons, List.not_mem_nil, or_false]
    rintro (rfl | rfl | rfl | rfl)
    · exact ⟨normal, rfl⟩
    · exact ⟨moderate, rfl⟩
    · exact ⟨low, rfl⟩
    · exact ⟨critical, rfl⟩

namespace StateCode

/-- What may stand behind the screen and the memory pressure. -/
def IsTail (ofProcess : Bool) (tail : List Char) : Prop :=
  if ofProcess then tail ≠ [] ∧ ∀ c ∈ tail, 'a' ≤ c ∧ c ≤ 'z' else tail = []

/-- A text of the form that codes of processes have, or of the form of all other codes. -/
def Spelled (ofProcess : Bool) (s : List Char) : Prop :=
  ∃ screen memory tail, s = screen :: memory :: tail ∧ screen ∈ ['0', '1'] ∧ memory ∈ ['n', 'm', 'l', 'c'] ∧
    IsTail ofProcess tail

/-- The letters of a process and of its qualifiers are lower case, and without a process there are no qualifiers. -/
structure Proper (code : StateCode) : Prop where
  letters : ∀ c ∈ code.process.toList ++ code.qualifier, 'a' ≤ c ∧ c ≤ 'z'
  owned : code.process = none → code.qualifier = []

theorem isLetter_iff {c : Char} : isLetter c = true ↔ 'a' ≤ c ∧ c ≤ 'z' := by simp [isLetter]

variable {ofProcess : Bool} {screen : Screen} {memory : Memory} {tail s : List Char} {code : StateCode}

theorem IsTail.isSome_head? (isTail : IsTail ofProcess tail) : tail.head?.isSome = ofProcess := by
  cases ofProcess with
  | false =>
    obtain rfl : tail = [] := isTail
    rfl
  | true => simpa using isTail.1

theorem ofTail?_eq_some_iff :
    ofTail? screen memory ofProcess tail = some code ↔
      IsTail ofProcess tail ∧ code = ⟨screen, memory, tail.head?, tail.tail⟩ := by
  cases tail with
  | nil => cases ofProcess <;> simp [ofTail?, IsTail, eq_comm]
  | cons process qualifier =>
    cases ofProcess with
    | false => simp [ofTail?, IsTail]
    | true =>
      have letters : (isLetter process && qualifier.all isLetter) = true ↔ IsTail true (process :: qualifier) := by
        rw [← List.all_cons, List.all_eq_true]
        simp [IsTail, isLetter_iff]
      simp [ofTail?, letters, eq_comm]

/-- What is read is the letters of a screen and of a memory pressure, and what may stand behind them. -/
theorem ofChars?_eq_some_iff :
    ofChars? ofProcess s = some code ↔
      ∃ (screen : Screen) (memory : Memory) (tail : List Char), s = screen.letter :: memory.letter :: tail ∧
        IsTail ofProcess tail ∧ code = ⟨screen, memory, tail.head?, tail.tail⟩ := by
  constructor
  · intro read
    unfold ofChars? at read
    split at read
    next screenLetter memoryLetter tail =>
      obtain ⟨screen, screenRead, more⟩ := Option.bind_eq_some_iff.mp read
      obtain ⟨memory, memoryRead, tailRead⟩ := Option.bind_eq_some_iff.mp more
      obtain rfl := Screen.letter_ofLetter? screenRead
      obtain rfl := Memory.letter_ofLetter? memoryRead
      exact ⟨screen, memory, tail, rfl, ofTail?_eq_some_iff.mp tailRead⟩
    next => cases read
  · rintro ⟨screen, memory, tail, rfl, tailRead⟩
    simp [ofChars?, Screen.ofLetter?_letter, Memory.ofLetter?_letter, ofTail?_eq_some_iff.mpr tailRead]

theorem exists_ofChars?_iff : (∃ code, ofChars? ofProcess s = some code) ↔ Spelled ofProcess s := by
  simp only [ofChars?_eq_some_iff]
  constructor
  · rintro ⟨_, screen, memory, tail, rfl, isTail, -⟩
    exact ⟨screen.letter, memory.letter, tail, rfl, Screen.exists_letter_iff.mp ⟨screen, rfl⟩,
      Memory.exists_letter_iff.mp ⟨memory, rfl⟩, isTail⟩
  · rintro ⟨screenLetter, memoryLetter, tail, rfl, screenListed, memoryListed, isTail⟩
    obtain ⟨screen, rfl⟩ := Screen.exists_letter_iff.mpr screenListed
    obtain ⟨memory, rfl⟩ := Memory.exists_letter_iff.mpr memoryListed
    exact ⟨_, screen, memory, tail, rfl, isTail, rfl⟩

theorem isSome_process_of_ofChars? (read : ofChars? ofProcess s = some code) : code.process.isSome = ofProcess := by
  obtain ⟨_, _, tail, -, isTail, rfl⟩ := ofChars?_eq_some_iff.mp read
  exact isTail.isSome_head?

theorem Proper.isTail (proper : code.Proper) : IsTail code.process.isSome (code.process.toList ++ code.qualifier) := by
  cases known : code.process with
  | none => simp [IsTail, proper.owned known]
  | some process =>
    refine ⟨by simp, ?_⟩
    rw [← known]
    exact proper.letters

/-- What is written is read again, in the form that the code has. -/
theorem ofChars?_code (proper : code.Proper) : ofChars? code.process.isSome (code.code ++ code.qualifier) = some code := by
  refine ofChars?_eq_some_iff.mpr ⟨code.screen, code.memory, code.process.toList ++ code.qualifier, rfl, proper.isTail, ?_⟩
  obtain ⟨screen, memory, process, qualifier⟩ := code
  cases process with
  | none =>
    obtain rfl : qualifier = [] := proper.owned rfl
    rfl
  | some process => rfl

theorem length_code (code : StateCode) : code.code.length = if code.process.isSome then 3 else 2 := by
  unfold StateCode.code
  cases code.process <;> rfl

/-- Exactly the texts of a form are read in it. A text that is read is the code, of two letters or three, and its
qualifiers, and every proper code is read from what it is written as. -/
theorem reads_what_is_written :
    (∀ (ofProcess : Bool) (s : String), (∃ code, ofText? ofProcess s = some code) ↔ Spelled ofProcess s.toList) ∧
    (∀ (ofProcess : Bool) (s : String) (code : StateCode), ofText? ofProcess s = some code →
      code.text ++ String.ofList code.qualifier = s ∧
        code.text.toList = s.toList.take (if ofProcess then 3 else 2)) ∧
    ∀ code : StateCode, code.Proper →
      ofText? code.process.isSome (code.text ++ String.ofList code.qualifier) = some code := by
  refine ⟨fun _ _ => exists_ofChars?_iff, ?_, ?_⟩
  · intro ofProcess s code read
    have written : s.toList = code.code ++ code.qualifier := code_ofChars? read
    constructor
    · rw [text, ← String.ofList_append, ← written, String.ofList_toList]
    · rw [text, String.toList_ofList, written, ← isSome_process_of_ofChars? read, ← length_code, List.take_left]
  · intro code proper
    rw [text, ← String.ofList_append, ofText?, String.toList_ofList]
    exact ofChars?_code proper

/-- A code of a process with one qualifier, which is no code of the other form. -/
theorem reads_what_is_written_qualified :
    let code : StateCode := ⟨.on, .moderate, some 't', ['p']⟩
    code.Proper ∧ ofText? true "1mtp" = some code ∧ code.text ++ String.ofList code.qualifier = "1mtp" ∧
      ¬ Spelled false "1mtp".toList := by
  intro code
  have proper : code.Proper := ⟨by simp [code], nofun⟩
  have written : code.text ++ String.ofList code.qualifier = "1mtp" := by decide +kernel
  have read : ofText? true (code.text ++ String.ofList code.qualifier) = some code := reads_what_is_written.2.2 code proper
  rw [written] at read
  refine ⟨proper, read, (reads_what_is_written.2.1 true "1mtp" code read).1, ?_⟩
  rw [← reads_what_is_written.1 false "1mtp"]
  rintro ⟨other, otherRead⟩
  cases otherRead.symm.trans (by decide +kernel : ofText? false "1mtp" = none)

end StateCode
end DeviceHarness.Checkin
