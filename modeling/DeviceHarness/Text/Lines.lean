/-! A text as its lines. A line ends at a line feed, and a carriage return directly before that
line feed belongs to the ending. The last line may lack an ending; a carriage return there is
part of the line. -/

namespace DeviceHarness.Text

def linesOf : List Char → List (List Char)
  | [] => []
  | '\n' :: rest => [] :: linesOf rest
  | '\r' :: '\n' :: rest => [] :: linesOf rest
  | c :: rest =>
    match linesOf rest with
    | [] => [[c]]
    | line :: more => (c :: line) :: more

def lines (s : String) : List String := (linesOf s.toList).map String.ofList

theorem splitOn_append {s t : List Char} {sep : Char} (absent : sep ∉ s) :
    (s ++ t).splitOn sep = (t.splitOn sep).modifyHead (s ++ ·) := by
  induction s with
  | nil =>
    show t.splitOn sep = (t.splitOn sep).modifyHead id
    rw [List.modifyHead_id, id_eq]
  | cons c s ih =>
    rw [List.mem_cons, not_or] at absent
    have other : (c == sep) = false := beq_eq_false_iff_ne.mpr (Ne.symm absent.1)
    rw [List.cons_append, List.splitOn_cons_eq_if_modifyHead, ih absent.2, other]
    cases t.splitOn sep <;> simp

theorem linesOf_cons {c : Char} {text line : List Char} {more : List (List Char)} (other : c ≠ '\n')
    (kept : c = '\r' → text.head? ≠ some '\n') (split : linesOf text = line :: more) :
    linesOf (c :: text) = (c :: line) :: more := by
  rw [linesOf, split]
  · exact other
  · rintro rest rfl rfl
    exact kept rfl rfl

theorem first_empty {s rest line : List Char} {more : List (List Char)} (split : s.splitOn '\n' = line :: more)
    (next : (s ++ '\n' :: rest).head? = some '\n') : line = [] := by
  cases s with
  | nil => exact (List.cons.inj split).1.symm
  | cons c s =>
    obtain rfl : c = '\n' := by simpa using next
    rw [List.splitOn_cons_eq_if_modifyHead] at split
    exact (List.cons.inj split).1.symm

/-- A text that ends at a line feed has the lines between its line feeds, if no carriage return stands
before one of them. -/
theorem linesOf_append {s rest : List Char} (clean : ∀ line ∈ s.splitOn '\n', line.getLast? ≠ some '\r') :
    linesOf (s ++ '\n' :: rest) = s.splitOn '\n' ++ linesOf rest := by
  induction s with
  | nil => simp [linesOf]
  | cons c s ih =>
    rw [List.splitOn_cons_eq_if_modifyHead] at clean ⊢
    by_cases feed : c = '\n'
    · subst feed
      have later : ∀ line ∈ s.splitOn '\n', line.getLast? ≠ some '\r' := by
        intro line member
        exact clean line (by simp [member])
      simp [linesOf, ih later]
    · rw [if_neg (by simpa using feed)] at clean ⊢
      cases split : s.splitOn '\n' with
      | nil => exact absurd split (List.splitOn_ne_nil '\n' s)
      | cons line more =>
        rw [split] at clean ih
        have first : (c :: line).getLast? ≠ some '\r' := clean _ List.mem_cons_self
        have joined := ih fun other member => by
          rcases List.mem_cons.mp member with rfl | later
          · intro returned
            exact first (by simp [List.getLast?_cons, returned])
          · exact clean other (List.mem_cons_of_mem _ later)
        refine linesOf_cons feed ?_ joined
        rintro rfl next
        obtain rfl := first_empty split next
        exact first rfl

theorem linesOf_eq_nil {s : List Char} : linesOf s = [] ↔ s = [] := by
  constructor
  · intro none
    unfold linesOf at none
    split at none
    · rfl
    · cases none
    · cases none
    · split at none <;> cases none
  · rintro rfl
    rfl

/-- A carriage return that is no part of an ending is none when more comes after the text. -/
theorem not_feed_after {c : Char} {s line : List Char} {more : List (List Char)}
    (joined : ∀ rest, c = '\r' → s = '\n' :: rest → False) (split : linesOf s = line :: more) (after : List Char) :
    c = '\r' → (s ++ after).head? ≠ some '\n' := by
  intro carriage next
  cases s with
  | nil => cases split
  | cons d s =>
    obtain rfl : d = '\n' := by simpa using next
    exact joined s carriage rfl

/-- A line feed ends the lines before it. -/
theorem linesOf_append_feed (s rest : List Char) : linesOf (s ++ '\n' :: rest) = linesOf (s ++ ['\n']) ++ linesOf rest := by
  induction s using linesOf.induct with
  | case1 => rfl
  | case2 s ih => exact congrArg ([] :: ·) ih
  | case3 s ih => exact congrArg ([] :: ·) ih
  | case4 c s other joined none ih =>
    obtain rfl := linesOf_eq_nil.mp none
    by_cases carriage : c = '\r'
    · subst carriage
      rfl
    · have kept (after : List Char) : c = '\r' → ('\n' :: after).head? ≠ some '\n' := fun same => absurd same carriage
      rw [List.singleton_append, List.singleton_append, linesOf_cons other (kept rest) rfl, linesOf_cons other (kept []) rfl]
      rfl
  | case5 c s other joined line lines split ih =>
    have first := not_feed_after joined split
    cases feed : linesOf (s ++ ['\n']) with
    | nil => simpa using linesOf_eq_nil.mp feed
    | cons line lines =>
      rw [feed] at ih
      rw [List.cons_append, List.cons_append, linesOf_cons other (first _) ih, linesOf_cons other (first _) feed]
      rfl

/-- The lines of a text stay as they are when further lines come after it, if no carriage return at its very end becomes
part of an ending. -/
theorem linesOf_extend {s : List Char} (kept : s.getLast? ≠ some '\r') (more : List Char) :
    linesOf s <+: linesOf (s ++ '\n' :: more) := by
  have tail {c : Char} {s : List Char} (kept : (c :: s).getLast? ≠ some '\r') : s.getLast? ≠ some '\r' := by
    intro last
    exact kept (by simp [List.getLast?_cons, last])
  induction s using linesOf.induct with
  | case1 => exact List.nil_prefix
  | case2 rest ih => exact (List.prefix_cons_inj []).mpr (ih (tail kept))
  | case3 rest ih => exact (List.prefix_cons_inj []).mpr (ih (tail (tail kept)))
  | case4 c rest other joined none ih =>
    obtain rfl := linesOf_eq_nil.mp none
    have plain : c = '\r' → ('\n' :: more).head? ≠ some '\n' := by
      rintro rfl
      exact absurd rfl kept
    have split : linesOf (c :: '\n' :: more) = [c] :: linesOf more := linesOf_cons other plain rfl
    rw [List.singleton_append, split, linesOf.eq_4 c [] other joined]
    exact (List.prefix_cons_inj [c]).mpr List.nil_prefix
  | case5 c rest other joined line lines split ih =>
    obtain ⟨later, extended⟩ := ih (tail kept)
    rw [split, List.cons_append] at extended
    have first : c = '\r' → rest.head? ≠ some '\n' := by
      simpa using not_feed_after joined split []
    rw [linesOf_cons other first split, List.cons_append,
      linesOf_cons other (not_feed_after joined split _) extended.symm]
    exact ⟨later, rfl⟩

theorem lines_extend {text : String} (kept : text.toList.getLast? ≠ some '\r') (more : String) :
    lines text <+: lines (text ++ "\n" ++ more) := by
  have extended : (text ++ "\n" ++ more).toList = text.toList ++ '\n' :: more.toList := by simp
  rw [lines, lines, extended]
  exact (linesOf_extend kept more.toList).map _

theorem clean_line {line : List Char} (whole : '\n' ∉ line) (clean : line.getLast? ≠ some '\r') :
    ∀ other ∈ line.splitOn '\n', other.getLast? ≠ some '\r' := by
  rw [List.splitOn_eq_singleton whole]
  intro other member
  rwa [List.mem_singleton.mp member]

theorem linesOf_line {line : List Char} (whole : '\n' ∉ line) (clean : line.getLast? ≠ some '\r') (rest : List Char) :
    linesOf (line ++ '\n' :: rest) = line :: linesOf rest := by
  rw [linesOf_append (clean_line whole clean), List.splitOn_eq_singleton whole, List.singleton_append]

theorem linesOf_last {line : List Char} (whole : '\n' ∉ line) (filled : line ≠ []) : linesOf line = [line] := by
  induction line with
  | nil => exact absurd rfl filled
  | cons c rest ih =>
    rw [List.mem_cons, not_or] at whole
    cases rest with
    | nil => exact linesOf.eq_4 c [] (Ne.symm whole.1) (by intro rest _ there; cases there)
    | cons d rest =>
      refine linesOf_cons (Ne.symm whole.1) ?_ (ih whole.2 (by simp))
      intro _ feed
      exact whole.2 (List.mem_of_mem_head? feed)

/-- A line that is read as it is written, wherever it stands. -/
structure IsLine (line : List Char) : Prop where
  filled : line ≠ []
  whole : '\n' ∉ line
  clean : line.getLast? ≠ some '\r'

theorem linesOf_joined {first : List Char} {more : List (List Char)} (each : ∀ line ∈ first :: more, IsLine line)
    (ended : Bool) :
    linesOf (first ++ more.flatMap ('\n' :: ·) ++ if ended then ['\n'] else []) = first :: more := by
  obtain ⟨head, others⟩ := List.forall_mem_cons.mp each
  induction more generalizing first with
  | nil =>
    cases ended with
    | true => simpa [linesOf] using linesOf_line head.whole head.clean []
    | false => simpa using linesOf_last head.whole head.filled
  | cons next more ih =>
    obtain ⟨here, later⟩ := List.forall_mem_cons.mp others
    have rest := ih others here later
    rw [List.flatMap_cons, List.cons_append, List.append_assoc, List.cons_append, linesOf_line head.whole head.clean, rest]

/-- What line feeds join comes apart again, but for an empty text at the very end, which is no line. -/
theorem linesOf_intercalate {ls : List (List Char)} (each : ∀ line ∈ ls, '\n' ∉ line ∧ line.getLast? ≠ some '\r') :
    linesOf (['\n'].intercalate ls) = if ls.getLast? = some [] then ls.dropLast else ls := by
  induction ls with
  | nil => rfl
  | cons first rest ih =>
    obtain ⟨⟨whole, clean⟩, others⟩ := List.forall_mem_cons.mp each
    cases rest with
    | nil =>
      by_cases filled : first = []
      · subst filled
        rfl
      · simpa [filled] using linesOf_last whole filled
    | cons next rest =>
      rw [List.intercalate_cons_cons, List.append_assoc, List.singleton_append, linesOf_line whole clean, ih others,
        List.getLast?_cons_cons, List.dropLast_cons_cons]
      split <;> rfl

theorem lines_intercalate {ls : List String} (each : ∀ line ∈ ls, '\n' ∉ line.toList ∧ line.toList.getLast? ≠ some '\r') :
    lines (String.intercalate "\n" ls) = if ls.getLast? = some "" then ls.dropLast else ls := by
  have joined : (String.intercalate "\n" ls).toList = ['\n'].intercalate (ls.map String.toList) :=
    String.toList_intercalate
  have ended : (ls.map String.toList).getLast? = some [] ↔ ls.getLast? = some "" := by
    rw [List.getLast?_map, Option.map_eq_some_iff]
    simp
  rw [lines, joined, linesOf_intercalate (by simpa using each)]
  simp only [ended]
  split
  · rw [← List.map_dropLast, List.map_map]
    simp [Function.comp_def]
  · simp [Function.comp_def]

theorem mem_lines_intercalate {ls : List String} (each : ∀ line ∈ ls, '\n' ∉ line.toList ∧ line.toList.getLast? ≠ some '\r')
    {line : String} (filled : line ≠ "") : line ∈ lines (String.intercalate "\n" ls) ↔ line ∈ ls := by
  rw [lines_intercalate each]
  split
  next ended =>
    obtain ⟨front, rfl⟩ := List.getLast?_eq_some_iff.mp ended
    simp [filled]
  next => rfl

theorem not_feed_of_mem_linesOf {s line : List Char} (member : line ∈ linesOf s) : '\n' ∉ line := by
  induction s using linesOf.induct generalizing line with
  | case1 => cases member
  | case2 rest ih | case3 rest ih =>
    rcases List.mem_cons.mp member with rfl | later
    · exact List.not_mem_nil
    · exact ih later
  | case4 c rest other joined none ih =>
    rw [linesOf.eq_4 c rest other joined, none] at member
    rw [List.mem_singleton.mp member, List.mem_singleton]
    exact Ne.symm other
  | case5 c rest other joined first more split ih =>
    rw [linesOf.eq_4 c rest other joined, split] at member
    rw [split] at ih
    rcases List.mem_cons.mp member with rfl | later
    · rw [List.mem_cons, not_or]
      exact ⟨Ne.symm other, ih List.mem_cons_self⟩
    · exact ih (List.mem_cons_of_mem first later)

/-- A line is a part of the text, and the first one is its beginning. -/
theorem infix_of_mem_linesOf {s line : List Char} (member : line ∈ linesOf s) : line <:+: s := by
  have parts : (∀ first ∈ (linesOf s).head?, first <+: s) ∧ ∀ line ∈ linesOf s, line <:+: s := by
    clear member
    induction s using linesOf.induct with
    | case1 => simp [linesOf]
    | case2 rest ih =>
      refine ⟨by simp [linesOf], List.forall_mem_cons.mpr ⟨List.nil_infix, fun line later => ?_⟩⟩
      exact List.infix_cons (ih.2 line later)
    | case3 rest ih =>
      refine ⟨by simp [linesOf], List.forall_mem_cons.mpr ⟨List.nil_infix, fun line later => ?_⟩⟩
      exact List.infix_cons (List.infix_cons (ih.2 line later))
    | case4 c rest other joined none ih =>
      rw [linesOf.eq_4 c rest other joined, none]
      have first : [c] <+: c :: rest := List.cons_prefix_cons.mpr ⟨rfl, List.nil_prefix⟩
      simp [first, first.isInfix]
    | case5 c rest other joined line lines split ih =>
      rw [split] at ih
      rw [linesOf.eq_4 c rest other joined, split]
      have first : c :: line <+: c :: rest := List.cons_prefix_cons.mpr ⟨rfl, ih.1 line rfl⟩
      refine ⟨by simp [first], List.forall_mem_cons.mpr ⟨first.isInfix, fun other later => ?_⟩⟩
      exact List.infix_cons (ih.2 other (List.mem_cons_of_mem line later))
  exact parts.2 line member

end DeviceHarness.Text
