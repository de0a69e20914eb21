import DeviceHarness.Text.Blank

/-! Texts cut into pieces: at every separator, with or without the empty pieces at the end, at
the first separator only, or at blanks. -/

namespace DeviceHarness.Text

/-- The pieces between separators. There is always one more piece than separators. -/
def pieces (isSeparator : Char → Bool) (s : List Char) : List (List Char) :=
  s.splitOnP isSeparator

/-- A list without the empty pieces at its end. -/
def dropEmptyEnd (parts : List (List Char)) : List (List Char) :=
  (parts.reverse.dropWhile List.isEmpty).reverse

/-- Cut at every `sep`, keeping empty pieces at the end. -/
def splitKeeping (sep : Char) (s : String) : List String :=
  (pieces (· == sep) s.toList).map String.ofList

/-- Cut at every `sep`, dropping empty pieces at the end. A text of separators alone has no piece. -/
def splitDropping (sep : Char) (s : String) : List String :=
  (dropEmptyEnd (pieces (· == sep) s.toList)).map String.ofList

/-- What stands before and after the first `sep`, when there is one. -/
def splitOnce (sep : Char) (s : List Char) : Option (List Char × List Char) :=
  match s.dropWhile (· != sep) with
  | [] => none
  | _ :: after => some (s.takeWhile (· != sep), after)

theorem dropWhile_ne {c : Char} {front rest : List Char} (absent : c ∉ front) :
    (front ++ c :: rest).dropWhile (· != c) = c :: rest := by
  induction front with
  | nil => simp
  | cons other front ih =>
    have different : c ≠ other := fun same => absent (same ▸ List.mem_cons_self)
    simp [different.symm, ih fun member => absent (List.mem_cons_of_mem _ member)]

theorem takeWhile_ne {c : Char} {front rest : List Char} (absent : c ∉ front) :
    (front ++ c :: rest).takeWhile (· != c) = front := by
  induction front with
  | nil => simp
  | cons other front ih =>
    have different : c ≠ other := fun same => absent (same ▸ List.mem_cons_self)
    simp [different.symm, ih fun member => absent (List.mem_cons_of_mem _ member)]

theorem length_pieces (isSeparator : Char → Bool) (s : List Char) :
    (pieces isSeparator s).length = s.countP isSeparator + 1 := by
  unfold pieces
  induction s with
  | nil => rfl
  | cons c rest ih =>
    rw [List.splitOnP_cons_eq_if_modifyHead, List.countP_cons]
    split
    · rw [List.length_cons, ih]
    · rw [List.length_modifyHead, ih, Nat.add_zero]

theorem head?_pieces (isSeparator : Char → Bool) (s : List Char) :
    (pieces isSeparator s).head? = some (s.takeWhile (!isSeparator ·)) := by
  unfold pieces
  induction s with
  | nil => rfl
  | cons c rest ih =>
    rw [List.splitOnP_cons_eq_if_modifyHead]
    cases separator : isSeparator c with
    | true => simp [separator]
    | false => simp [separator, ih]

theorem pieces_plain {isSeparator : Char → Bool} {s : List Char} (plain : ∀ c ∈ s, isSeparator c = false) :
    pieces isSeparator s = [s] := List.splitOnP_eq_singleton plain

theorem pieces_separated {isSeparator : Char → Bool} {c : Char} (separator : isSeparator c = true)
    (front rest : List Char) :
    pieces isSeparator (front ++ c :: rest) = pieces isSeparator front ++ pieces isSeparator rest :=
  List.splitOnP_append_cons front rest separator

theorem not_separator_of_mem_pieces {isSeparator : Char → Bool} {s piece : List Char} (member : piece ∈ pieces isSeparator s) :
    ∀ c ∈ piece, isSeparator c = false := by
  unfold pieces at member
  induction s generalizing piece with
  | nil =>
    obtain rfl : piece = [] := by simpa using member
    nofun
  | cons c rest ih =>
    rw [List.splitOnP_cons_eq_if_modifyHead] at member
    split at member
    next =>
      rcases List.mem_cons.mp member with rfl | later
      · nofun
      · exact ih later
    next other =>
      obtain ⟨first, later, cut⟩ := List.exists_cons_of_ne_nil (List.splitOnP_ne_nil isSeparator rest)
      rw [cut] at ih member
      rcases List.mem_cons.mp member with rfl | member
      · exact List.forall_mem_cons.mpr ⟨eq_false_of_ne_true other, ih List.mem_cons_self⟩
      · exact ih (List.mem_cons_of_mem _ member)

theorem subset_of_mem_pieces {isSeparator : Char → Bool} {s piece : List Char} (member : piece ∈ pieces isSeparator s) :
    piece ⊆ s := by
  unfold pieces at member
  induction s generalizing piece with
  | nil =>
    obtain rfl : piece = [] := by simpa using member
    exact List.nil_subset []
  | cons c rest ih =>
    rw [List.splitOnP_cons_eq_if_modifyHead] at member
    split at member
    next =>
      rcases List.mem_cons.mp member with rfl | later
      · exact List.nil_subset _
      · exact List.subset_cons_of_subset c (ih later)
    next =>
      obtain ⟨first, later, cut⟩ := List.exists_cons_of_ne_nil (List.splitOnP_ne_nil isSeparator rest)
      rw [cut] at ih member
      rcases List.mem_cons.mp member with rfl | member
      · exact List.cons_subset_cons c (ih List.mem_cons_self)
      · exact List.subset_cons_of_subset c (ih (List.mem_cons_of_mem _ member))

theorem intercalate_pieces (sep : Char) (s : List Char) : [sep].intercalate (pieces (· == sep) s) = s := by
  rw [pieces, ← List.splitOn_eq_splitOnP, List.intercalate_splitOn]

/-- A separator at the end adds an empty piece. -/
theorem pieces_concat_separator (sep : Char) (s : List Char) :
    pieces (· == sep) (s ++ [sep]) = pieces (· == sep) s ++ [[]] :=
  List.splitOnP_append_cons s [] (beq_self_eq_true sep)

theorem dropEmptyEnd_concat_empty (parts : List (List Char)) : dropEmptyEnd (parts ++ [[]]) = dropEmptyEnd parts := by
  simp [dropEmptyEnd]

theorem dropEmptyEnd_concat {last : List Char} (parts : List (List Char)) (some : last ≠ []) :
    dropEmptyEnd (parts ++ [last]) = parts ++ [last] := by
  simp [dropEmptyEnd, some]

/-- The non-empty pieces between separators. -/
def fieldsAt (isSeparator : Char → Bool) (s : List Char) : List (List Char) :=
  (pieces isSeparator s).filter (!·.isEmpty)

/-- The words of a text, cut at blanks. -/
def words (s : String) : List String := (fieldsAt isBlank s.toList).map String.ofList

end DeviceHarness.Text
