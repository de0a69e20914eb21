import DeviceHarness.Proofs.Numerals
import DeviceHarness.Text.Quoted

/-! How a shell takes a command apart into words, by the POSIX rules for blanks, quotes, backslashes and operators. A
text counts as words only if that settles what they are: it is one command, and no word stands for something
else. A text in quotes is always one word. Words without quotes are what they look like exactly if all their characters
are plain: every quote and backslash makes the words shorter than the text. -/

namespace DeviceHarness.Shell

def isBlank (c : Char) : Bool := c == ' ' || c == '\t'

/-- Characters that begin an operator. The end of a line ends a command too. -/
def isOperator (c : Char) : Bool := "|&;<>()\n".toList.contains c

/-- Characters that make a word stand for something else even between double quotes: for the value of a variable, or
for what a command prints. -/
def isSubstitution (c : Char) : Bool := "$`".toList.contains c

/-- Characters that make a word stand for the names of files. -/
def isPattern (c : Char) : Bool := "*?[".toList.contains c

/-- Characters that change how others are taken. -/
def isQuoting (c : Char) : Bool := "'\"\\".toList.contains c

/-- Characters that stand for themselves inside a word. -/
def isPlain (c : Char) : Bool :=
  !(isBlank c || isOperator c || isSubstitution c || isPattern c || isQuoting c)

/-- Characters that are special where a word begins: there they start a comment, or stand for a home folder. -/
def isOpening (c : Char) : Bool := c == '#' || c == '~'

/-- How the next character is taken. -/
inductive Quoting where
  | bare
  /-- After a backslash. -/
  | escaped
  | single
  | double
  /-- After a backslash between double quotes. -/
  | doubleEscaped
  deriving DecidableEq

/-- A command as far as it has been read. -/
structure Reading where
  /-- The words that have ended. -/
  ended : List (List Char)
  /-- The word that has begun. Quotes begin a word before any character of it. -/
  word : Option (List Char)
  quoting : Quoting
  deriving DecidableEq

namespace Reading

def start : Reading := ⟨[], none, .bare⟩

/-- Adds characters to the word, which begins with them if there is none yet. -/
def extend (r : Reading) (s : List Char) (quoting : Quoting) : Reading :=
  { r with word := some (r.word.getD [] ++ s), quoting }

/-- Ends the word, if one has begun. -/
def endWord (r : Reading) : Reading := { r with ended := r.ended ++ r.word.toList, word := none }

/-- Reads a character, unless it makes the text more than words. -/
def step (r : Reading) (c : Char) : Option Reading :=
  match r.quoting with
  | .bare =>
    if c = '\'' then some (r.extend [] .single)
    else if c = '"' then some (r.extend [] .double)
    else if c = '\\' then some { r with quoting := .escaped }
    else if isBlank c then some r.endWord
    else if !isPlain c || r.word.isNone && isOpening c then none
    else some (r.extend [c] .bare)
  | .escaped => if c = '\n' then some { r with quoting := .bare } else some (r.extend [c] .bare)
  | .single => if c = '\'' then some { r with quoting := .bare } else some (r.extend [c] .single)
  | .double =>
    if c = '"' then some { r with quoting := .bare }
    else if c = '\\' then some { r with quoting := .doubleEscaped }
    else if isSubstitution c then none
    else some (r.extend [c] .double)
  | .doubleEscaped =>
    if c = '\n' then some { r with quoting := .double }
    else if isSubstitution c || c = '"' || c = '\\' then some (r.extend [c] .double)
    else some (r.extend ['\\', c] .double)

def read (r : Reading) (s : List Char) : Option Reading := s.foldlM step r

end Reading

/-- The words of a text that is one command and in which every word is what it says. -/
def words? (s : String) : Option (List String) :=
  match Reading.start.read s.toList with
  | some r => if r.quoting = .bare then some (r.endWord.ended.map String.ofList) else none
  | none => none

/-- A word that may stand in a command as it is. -/
structure Literal (w : List Char) : Prop where
  filled : w ≠ []
  plain : ∀ c ∈ w, isPlain c = true
  opening : ∀ c ∈ w.head?, isOpening c = false

instance (w : List Char) : Decidable (Literal w) :=
  decidable_of_iff ((!w.isEmpty && w.all isPlain && w.head?.all fun c => !isOpening c) = true) (by
    simp only [Bool.and_eq_true, Bool.not_eq_true', List.isEmpty_eq_false_iff, List.all_eq_true, Option.all_eq_true]
    exact ⟨fun ⟨⟨filled, plain⟩, opening⟩ => ⟨filled, plain, opening⟩,
      fun ⟨filled, plain, opening⟩ => ⟨⟨filled, plain⟩, opening⟩⟩)

namespace Reading

variable {r after : Reading} {c : Char} {s rest w : List Char}

@[simp] theorem read_nil (r : Reading) : r.read [] = some r := rfl

theorem read_cons (r : Reading) (c : Char) (rest : List Char) :
    r.read (c :: rest) = (r.step c).bind fun after => after.read rest := rfl

theorem read_append (r : Reading) (s rest : List Char) :
    r.read (s ++ rest) = (r.read s).bind fun after => after.read rest := by
  induction s generalizing r with
  | nil => rfl
  | cons c s ih =>
    rw [List.cons_append, read_cons, read_cons, Option.bind_assoc]
    exact congrArg (Option.bind (r.step c)) (funext ih)

/-! Quoted texts. -/

/-- Between single quotes everything is taken as it is, and single quotes themselves come back from between double
ones. -/
theorem read_encodeBody (ended : List (List Char)) (w s : List Char) :
    Reading.read ⟨ended, some w, .single⟩ (Text.Quoted.encodeBody s) = some ⟨ended, some (w ++ s), .single⟩ := by
  induction s generalizing w with
  | nil => simp [Text.Quoted.encodeBody]
  | cons c s ih =>
    unfold Text.Quoted.encodeBody
    split
    next quote =>
      subst quote
      have once : Reading.read ⟨ended, some w, .single⟩ Text.Quoted.escapedQuote =
          some ⟨ended, some (w ++ ['\'']), .single⟩ := by
        simp [Text.Quoted.escapedQuote, read_cons, step, extend, isSubstitution]
      rw [read_append, once, Option.bind_some, ih, List.append_assoc, List.singleton_append]
    next other =>
      have once : Reading.step ⟨ended, some w, .single⟩ c = some ⟨ended, some (w ++ [c]), .single⟩ := by
        simp [step, other, extend]
      rw [read_cons, once, Option.bind_some, ih, List.append_assoc, List.singleton_append]

/-- A quoted text is part of one word, whatever is in it. -/
theorem read_encode (bare : r.quoting = .bare) (s : List Char) :
    r.read (Text.Quoted.encode s) = some (r.extend s .bare) := by
  have opened : r.step '\'' = some ⟨r.ended, some (r.word.getD []), .single⟩ := by simp [step, bare, extend]
  have closed (w : List Char) : Reading.read ⟨r.ended, some w, .single⟩ ['\''] = some ⟨r.ended, some w, .bare⟩ := rfl
  rw [Text.Quoted.encode, List.cons_append, read_cons, opened, Option.bind_some, read_append, read_encodeBody,
    Option.bind_some, closed]
  rfl

/-! Words as they are. -/

theorem not_quoting_of_plain (plain : isPlain c = true) : c ≠ '\'' ∧ c ≠ '"' ∧ c ≠ '\\' ∧ isBlank c = false := by
  refine ⟨?_, ?_, ?_, ?_⟩
  · rintro rfl
    cases plain
  · rintro rfl
    cases plain
  · rintro rfl
    cases plain
  · simp only [isPlain, Bool.not_eq_true', Bool.or_eq_false_iff] at plain
    exact plain.1.1.1.1

theorem step_plain (bare : r.quoting = .bare) (plain : isPlain c = true)
    (inside : r.word = none → isOpening c = false) : r.step c = some (r.extend [c] .bare) := by
  obtain ⟨single, double, backslash, blank⟩ := not_quoting_of_plain plain
  have allowed : (r.word.isNone && isOpening c) = false := by
    cases begun : r.word with
    | none => simp [inside begun]
    | some w => rfl
  simp [step, bare, single, double, backslash, blank, plain, allowed]

theorem read_plain (ended : List (List Char)) (w : List Char) (plain : ∀ c ∈ s, isPlain c = true) :
    Reading.read ⟨ended, some w, .bare⟩ s = some ⟨ended, some (w ++ s), .bare⟩ := by
  induction s generalizing w with
  | nil => simp
  | cons c s ih =>
    obtain ⟨first, later⟩ := List.forall_mem_cons.mp plain
    have once : Reading.step ⟨ended, some w, .bare⟩ c = some ⟨ended, some (w ++ [c]), .bare⟩ :=
      step_plain rfl first fun none => nomatch none
    rw [read_cons, once, Option.bind_some, ih (w ++ [c]) later, List.append_assoc, List.singleton_append]

theorem step_blank (ended : List (List Char)) (w : List Char) :
    Reading.step ⟨ended, some w, .bare⟩ ' ' = some ⟨ended ++ [w], none, .bare⟩ := rfl

/-- Where no word has begun, the text is read as the word, which may still go on. -/
def Spells (text word : String) : Prop :=
  ∀ ended, Reading.read ⟨ended, none, .bare⟩ text.toList = some ⟨ended, some word.toList, .bare⟩

theorem spells_quote (s : String) : Spells (Text.Quoted.quote s) s := by
  intro ended
  rw [Text.Quoted.quote, String.toList_ofList]
  exact read_encode rfl s.toList

theorem spells_literal {word : String} (literal : Literal word.toList) : Spells word word := by
  intro ended
  obtain ⟨filled, plain, opening⟩ := literal
  cases chars : word.toList with
  | nil => exact absurd chars filled
  | cons c rest =>
    rw [chars] at plain opening
    obtain ⟨first, later⟩ := List.forall_mem_cons.mp plain
    have once : Reading.step ⟨ended, none, .bare⟩ c = some ⟨ended, some [c], .bare⟩ :=
      step_plain rfl first fun _ => opening c rfl
    rw [read_cons, once, Option.bind_some, read_plain ended [c] later, List.singleton_append]

/-- Texts with blanks between them are read as the words that they spell, of which the last has not ended. -/
theorem read_joined {front : List (String × String)} {text word : String} (each : ∀ p ∈ front, Spells p.1 p.2)
    (last : Spells text word) (ended : List (List Char)) :
    Reading.read ⟨ended, none, .bare⟩ ([' '].intercalate (front.map (·.1.toList) ++ [text.toList])) =
      some ⟨ended ++ front.map (·.2.toList), some word.toList, .bare⟩ := by
  induction front generalizing ended with
  | nil => simpa using last ended
  | cons first front ih =>
    obtain ⟨spelled, others⟩ := List.forall_mem_cons.mp each
    have joined : [' '].intercalate ((first :: front).map (·.1.toList) ++ [text.toList]) =
        first.1.toList ++ ' ' :: [' '].intercalate (front.map (·.1.toList) ++ [text.toList]) := by
      cases front <;> simp
    rw [joined, read_append, spelled ended, Option.bind_some, read_cons, step_blank, Option.bind_some,
      ih others (ended ++ [first.2.toList]), List.map_cons, List.append_assoc, List.singleton_append]

/-! What quotes cost. -/

/-- How many characters the words take, with a blank after each that has ended. -/
def taken (r : Reading) : Nat := (r.ended.flatMap (· ++ [' '])).length + (r.word.getD []).length

/-- What has been taken, and a backslash that may turn out to be a character. -/
def size (r : Reading) : Nat := r.taken + if r.quoting = .doubleEscaped then 1 else 0

@[simp] theorem quoting_extend (r : Reading) (s : List Char) (quoting : Quoting) :
    (r.extend s quoting).quoting = quoting := rfl

@[simp] theorem quoting_endWord (r : Reading) : r.endWord.quoting = r.quoting := rfl

@[simp] theorem taken_quoting (r : Reading) (quoting : Quoting) : { r with quoting }.taken = r.taken := rfl

@[simp] theorem taken_extend (r : Reading) (s : List Char) (quoting : Quoting) :
    (r.extend s quoting).taken = r.taken + s.length := by
  simp [taken, extend, Nat.add_assoc]

@[simp] theorem taken_endWord (r : Reading) : r.endWord.taken = r.taken + r.word.toList.length := by
  cases begun : r.word <;> simp [taken, endWord, begun, Nat.add_assoc]

theorem size_of_ne (other : r.quoting ≠ .doubleEscaped) : r.size = r.taken := by simp [size, other]

theorem size_of_eq (escaped : r.quoting = .doubleEscaped) : r.size = r.taken + 1 := by simp [size, escaped]

/-- Outside of quotes a character changes how others are taken, or ends the word, or is one of its characters. -/
theorem step_bare (bare : r.quoting = .bare) (stepped : r.step c = some after) :
    (after.taken = r.taken ∧ after.quoting ≠ .doubleEscaped) ∨ after = r.endWord ∨
      (after = r.extend [c] .bare ∧ isPlain c = true ∧ (r.word = none → isOpening c = false)) := by
  unfold step at stepped
  simp only [bare] at stepped
  split at stepped
  · cases stepped
    exact .inl (by simp)
  split at stepped
  · cases stepped
    exact .inl (by simp)
  split at stepped
  · cases stepped
    exact .inl (by simp)
  split at stepped
  · cases stepped
    exact .inr (.inl rfl)
  split at stepped
  · cases stepped
  next allowed =>
    cases stepped
    simp only [Bool.or_eq_true, not_or, Bool.not_eq_true, Bool.not_eq_false', Bool.and_eq_false_iff] at allowed
    refine .inr (.inr ⟨rfl, allowed.1, fun none => ?_⟩)
    simpa [none] using allowed.2

/-- A character of the text is one character of a word, or the blank after one, or lost. -/
theorem size_step_le (stepped : r.step c = some after) : after.size ≤ r.size + 1 := by
  have least : r.taken ≤ r.size := Nat.le_add_right _ _
  -- Only a backslash between double quotes counts before it is taken.
  have steady (more : after.taken ≤ r.taken + 1) (other : after.quoting ≠ .doubleEscaped) : after.size ≤ r.size + 1 := by
    rw [size_of_ne other]
    omega
  cases mode : r.quoting with
  | bare =>
    rcases step_bare mode stepped with ⟨same, other⟩ | rfl | ⟨rfl, -, -⟩
    · exact steady (by omega) other
    · exact steady (by simp) (by simp [mode])
    · exact steady (by simp) (by simp)
  | escaped =>
    simp only [step, mode] at stepped
    split at stepped
    · cases stepped
      exact steady (by simp) (by simp)
    · cases stepped
      exact steady (by simp) (by simp)
  | single =>
    simp only [step, mode] at stepped
    split at stepped
    · cases stepped
      exact steady (by simp) (by simp)
    · cases stepped
      exact steady (by simp) (by simp)
  | double =>
    simp only [step, mode] at stepped
    split at stepped
    · cases stepped
      exact steady (by simp) (by simp)
    split at stepped
    · cases stepped
      rw [size_of_eq rfl, taken_quoting]
      omega
    split at stepped
    · cases stepped
    · cases stepped
      exact steady (by simp) (by simp)
  | doubleEscaped =>
    simp only [step, mode] at stepped
    split at stepped
    · cases stepped
      exact steady (by simp) (by simp)
    split at stepped
    · cases stepped
      exact steady (by simp) (by simp)
    · -- The backslash was no escape, so both characters are taken now.
      cases stepped
      rw [size_of_ne (by simp), taken_extend, size_of_eq mode]
      simp

theorem size_read_le (ran : r.read s = some after) : after.size ≤ r.size + s.length := by
  induction s generalizing r with
  | nil =>
    obtain rfl := Option.some.inj ran
    exact Nat.le_refl _
  | cons c s ih =>
    obtain ⟨between, stepped, later⟩ := Option.bind_eq_some_iff.mp ran
    have first := size_step_le stepped
    have rest := ih later
    rw [List.length_cons]
    omega

/-- All that was read so far are words as they are. -/
structure Verbatim (r : Reading) : Prop where
  bare : r.quoting = .bare
  ended : ∀ w ∈ r.ended, Literal w
  word : ∀ w ∈ r.word, Literal w

theorem Verbatim.endWord (verbatim : r.Verbatim) : r.endWord.Verbatim where
  bare := verbatim.bare
  ended := by
    intro w member
    rcases List.mem_append.mp member with before | last
    · exact verbatim.ended w before
    · exact verbatim.word w (Option.mem_toList.mp last)
  word := nofun

theorem Verbatim.extend (verbatim : r.Verbatim) (plain : isPlain c = true) (inside : r.word = none → isOpening c = false) :
    (r.extend [c] .bare).Verbatim where
  bare := rfl
  ended := verbatim.ended
  word := by
    rintro _ ⟨⟩
    cases begun : r.word with
    | none =>
      refine ⟨by simp, by simp [plain], ?_⟩
      simpa using inside begun
    | some w =>
      obtain ⟨filled, each, opening⟩ := verbatim.word w begun
      refine ⟨by simp, List.forall_mem_append.mpr ⟨each, by simpa using plain⟩, ?_⟩
      cases w with
      | nil => exact absurd rfl filled
      | cons first rest => exact opening

/-- Where no character is lost, none was quoted. -/
theorem Verbatim.step (verbatim : r.Verbatim) (stepped : r.step c = some after) (kept : r.size + 1 ≤ after.size) :
    after.Verbatim := by
  rw [size_of_ne (by simp [verbatim.bare])] at kept
  rcases step_bare verbatim.bare stepped with ⟨same, other⟩ | rfl | ⟨rfl, plain, inside⟩
  · -- Quotes and backslashes are lost.
    rw [size_of_ne other] at kept
    omega
  · exact verbatim.endWord
  · exact verbatim.extend plain inside

theorem Verbatim.read (verbatim : r.Verbatim) (ran : r.read s = some after) (kept : r.size + s.length ≤ after.size) :
    after.Verbatim := by
  induction s generalizing r with
  | nil =>
    obtain rfl := Option.some.inj ran
    exact verbatim
  | cons c s ih =>
    obtain ⟨between, stepped, later⟩ := Option.bind_eq_some_iff.mp ran
    have first := size_step_le stepped
    have rest := size_read_le later
    rw [List.length_cons] at kept
    exact ih (verbatim.step stepped (by omega)) later (by omega)

theorem size_start : start.size = 0 := rfl

theorem verbatim_start : start.Verbatim := ⟨rfl, nofun, nofun⟩

end Reading

/-! Texts of words. -/

theorem words?_eq_some {s : String} {words : List String} :
    words? s = some words ↔
      ∃ r, Reading.start.read s.toList = some r ∧ r.quoting = .bare ∧ r.endWord.ended.map String.ofList = words := by
  unfold words?
  cases Reading.start.read s.toList with
  | none => simp
  | some r => simp

/-- Texts with blanks between them are the words that they spell. -/
theorem words?_of_spells (spelled : List (String × String)) (each : ∀ p ∈ spelled, Reading.Spells p.1 p.2) :
    words? (String.intercalate " " (spelled.map Prod.fst)) = some (spelled.map Prod.snd) := by
  rw [words?_eq_some, String.toList_intercalate]
  rcases List.eq_nil_or_concat spelled with rfl | ⟨front, last, rfl⟩
  · exact ⟨.start, rfl, rfl, rfl⟩
  · rw [List.concat_eq_append] at each ⊢
    obtain ⟨before, final⟩ := List.forall_mem_append.mp each
    refine ⟨⟨front.map (·.2.toList), some last.2.toList, .bare⟩, ?_, rfl, ?_⟩
    · rw [List.map_append, List.map_append, List.map_map]
      exact Reading.read_joined before (final last List.mem_cons_self) []
    · simp [Reading.endWord, Function.comp_def]

/-- A quoted text is one word. -/
theorem words?_quote (s : String) : words? (Text.Quoted.quote s) = some [s] :=
  words?_of_spells [(Text.Quoted.quote s, s)] (by simpa using Reading.spells_quote s)

theorem length_joined {words : List (List Char)} (filled : words ≠ []) :
    ([' '].intercalate words).length + 1 = (words.flatMap (· ++ [' '])).length := by
  induction words with
  | nil => exact absurd rfl filled
  | cons first rest ih =>
    cases rest with
    | nil => simp
    | cons next rest =>
      have later := ih (by simp)
      rw [List.flatMap_cons, List.length_append, ← later, List.intercalate_cons_cons]
      simp only [List.length_append]
      omega

/-- Words that come out of a text as long as they are were not quoted. -/
theorem literal_of_read {r : Reading} {words : List (List Char)} (filled : words ≠ [])
    (ran : Reading.start.read ([' '].intercalate words) = some r) (bare : r.quoting = .bare)
    (ended : r.endWord.ended = words) : ∀ w ∈ words, Literal w := by
  have total := length_joined filled
  have taken := r.taken_endWord
  have last : r.word.toList.length ≤ 1 := by cases r.word <;> simp
  have before : r.endWord.taken = (r.endWord.ended.flatMap (· ++ [' '])).length := rfl
  have size : r.size = r.taken := by simp [Reading.size, bare]
  have kept : Reading.start.size + ([' '].intercalate words).length ≤ r.size := by
    rw [Reading.size_start]
    rw [ended] at before
    omega
  intro w member
  exact (Reading.verbatim_start.read ran kept).endWord.ended w (ended ▸ member)

/-- Words with blanks between them are read as these words exactly if each may stand in a command as it is. -/
theorem words?_joined (words : List String) :
    words? (String.intercalate " " words) = some words ↔ ∀ w ∈ words, Literal w.toList := by
  constructor
  · intro read
    obtain ⟨r, ran, bare, same⟩ := words?_eq_some.mp read
    rw [String.toList_intercalate] at ran
    have ended : r.endWord.ended = words.map String.toList := by simp [← same, Function.comp_def]
    intro w member
    have filled : words.map String.toList ≠ [] := List.ne_nil_of_mem (List.mem_map_of_mem member)
    exact literal_of_read filled ran bare ended w.toList (List.mem_map_of_mem member)
  · intro each
    have read := words?_of_spells (words.map fun w => (w, w))
      (by simpa using fun w member => Reading.spells_literal (each w member))
    simpa [Function.comp_def] using read

/-! Which words may stand as they are. -/

theorem isPlain_eq (c : Char) : isPlain c = !" \t|&;<>()\n$`*?['\"\\".toList.contains c := by
  simp [isPlain, isBlank, isOperator, isSubstitution, isPattern, isQuoting, Bool.or_assoc, Bool.beq_eq_decide_eq]

theorem isPlain_of_isDigit {c : Char} (digit : Integer.isDigit c = true) : isPlain c = true := by
  rw [isPlain_eq, Bool.not_eq_true', ← Bool.not_eq_true, List.contains_iff_mem]
  intro special
  have none : (" \t|&;<>()\n$`*?['\"\\".toList.all fun c => !Integer.isDigit c) = true := by decide
  have other := List.all_eq_true.mp none c special
  rw [digit] at other
  cases other

theorem literal_append {front : List Char} (literal : Literal front) (s : List Char) :
    Literal (front ++ s) ↔ ∀ c ∈ s, isPlain c = true := by
  constructor
  · intro whole
    exact (List.forall_mem_append.mp whole.plain).2
  · intro plain
    refine ⟨by simp [literal.filled], List.forall_mem_append.mpr ⟨literal.plain, plain⟩, ?_⟩
    cases front with
    | nil => exact absurd rfl literal.filled
    | cons c front => exact literal.opening

theorem literal_number (n : Int) : Literal (Integer.text n).toList := by
  rw [Integer.text, String.toList_ofList]
  have plain : ∀ c ∈ Integer.notationOf n, isPlain c = true ∧ isOpening c = false := by
    intro c member
    rcases Integer.mem_notationOf member with rfl | digit
    · decide
    · refine ⟨isPlain_of_isDigit digit, ?_⟩
      simp only [isOpening, Bool.or_eq_false_iff, beq_eq_false_iff_ne]
      constructor <;> (rintro rfl; cases digit)
  exact ⟨Integer.notationOf_ne_nil n, fun c member => (plain c member).1,
    fun c first => (plain c (List.mem_of_mem_head? first)).2⟩

end DeviceHarness.Shell
