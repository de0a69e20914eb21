/-! Texts found inside texts. -/

namespace DeviceHarness.Text

/-- What follows `start` in `s`, when `s` begins with it. -/
def after? (start s : List Char) : Option (List Char) := List.isPrefixOf? start s

def beginsWith (start s : List Char) : Bool := List.isPrefixOf start s

/-- Whether `needle` occurs somewhere in the text. -/
def occurs (needle : List Char) : List Char → Bool
  | [] => needle.isEmpty
  | c :: rest => beginsWith needle (c :: rest) || occurs needle rest

def startsWith (start s : String) : Bool := beginsWith start.toList s.toList

/-- Whether `needle` occurs somewhere in `s`. -/
def contains (needle s : String) : Bool := occurs needle.toList s.toList

theorem after?_cons (c d : Char) (start s : List Char) :
    after? (c :: start) (d :: s) = if c == d then after? start s else none := rfl

theorem after?_eq_some {start s rest : List Char} : after? start s = some rest ↔ s = start ++ rest := by
  induction start generalizing s with
  | nil => exact Option.some_inj
  | cons c start ih =>
    cases s with
    | nil => exact iff_of_false nofun nofun
    | cons d s =>
      by_cases same : c = d
      · simp [after?_cons, same, ih]
      · simp [after?_cons, same, Ne.symm same]

theorem after?_eq_none {start s : List Char} : after? start s = none ↔ beginsWith start s = false := by
  rw [beginsWith, ← Bool.not_eq_true, List.isPrefixOf_iff_prefix, Option.eq_none_iff_forall_ne_some]
  constructor
  · rintro none ⟨rest, rfl⟩
    exact none rest (after?_eq_some.mpr rfl)
  · intro other rest found
    exact other ⟨rest, (after?_eq_some.mp found).symm⟩

theorem occurs_iff {needle s : List Char} : occurs needle s = true ↔ needle <:+: s := by
  induction s with
  | nil => rw [occurs, List.isEmpty_iff, List.infix_nil]
  | cons c rest ih =>
    rw [occurs, Bool.or_eq_true, beginsWith, List.isPrefixOf_iff_prefix, ih, List.infix_cons_iff]

theorem mem_of_occurs {needle s : List Char} {c : Char} (inside : c ∈ needle) (found : occurs needle s = true) : c ∈ s :=
  (occurs_iff.mp found).subset inside

/-- What lacks a character does not reach over it. -/
theorem infix_separated {needle front rest : List Char} {c : Char} (absent : c ∉ needle) :
    needle <:+: front ++ c :: rest ↔ needle <:+: front ∨ needle <:+: rest := by
  have bounded {s : List Char} (lacks : c ∉ s) (starts : s <+: c :: rest) : s = [] := by
    cases s with
    | nil => rfl
    | cons d s =>
      obtain ⟨rfl, -⟩ := List.cons_prefix_cons.mp starts
      exact absurd List.mem_cons_self lacks
  constructor
  · intro found
    rcases List.infix_append_iff.mp found with before | after | ⟨start, tail, rfl, suffix, starts⟩
    · exact .inl before
    · rcases List.infix_cons_iff.mp after with starts | later
      · rw [bounded absent starts]
        exact .inl (List.nil_infix)
      · exact .inr later
    · rw [bounded (fun member => absent (List.mem_append_right start member)) starts, List.append_nil]
      exact .inl suffix.isInfix
  · intro found
    rcases found with before | after
    · exact before.trans (List.prefix_append front _).isInfix
    · exact after.trans ((List.suffix_cons c rest).trans (List.suffix_append front _)).isInfix

/-- What lacks the separator is found in a text exactly if it is found in one of the pieces that it joins. -/
theorem infix_joined {needle : List Char} {c : Char} (filled : needle ≠ []) (absent : c ∉ needle)
    {pieces : List (List Char)} : needle <:+: [c].intercalate pieces ↔ ∃ piece ∈ pieces, needle <:+: piece := by
  induction pieces with
  | nil => simp [filled]
  | cons first rest ih =>
    cases rest with
    | nil => simp
    | cons next rest =>
      rw [List.intercalate_cons_cons, List.append_assoc, List.singleton_append, infix_separated absent, ih]
      simp

/-- The pieces of a text between the occurrences of a non-empty separator, taken from the left. -/
def piecesBetween (sep : List Char) (s : List Char) : List (List Char) :=
  go s []
where
  go (s piece : List Char) : List (List Char) :=
    match s with
    | [] => [piece.reverse]
    | c :: rest =>
      if beginsWith sep (c :: rest) && !sep.isEmpty then
        piece.reverse :: go (rest.drop (sep.length - 1)) []
      else go rest (c :: piece)
  termination_by s.length
  decreasing_by all_goals simp; try omega

theorem piecesBetween_absent {sep s : List Char} (absent : ¬ sep <:+: s) (piece : List Char) :
    piecesBetween.go sep s piece = [piece.reverse ++ s] := by
  induction s generalizing piece with
  | nil => simp [piecesBetween.go]
  | cons c rest ih =>
    rw [List.infix_cons_iff, not_or] at absent
    have other : beginsWith sep (c :: rest) = false := by
      rw [beginsWith, ← Bool.not_eq_true, List.isPrefixOf_iff_prefix]
      exact absent.1
    rw [piecesBetween.go, other, ih absent.2]
    simp

/-- A separator that begins before the one that is known ends before that one does. -/
theorem not_begins_early {sep front : List Char} {c : Char} (filled : sep ≠ [])
    (before : ¬ sep <+: c :: (front ++ sep.dropLast)) (back : List Char) : ¬ sep <+: c :: (front ++ sep ++ back) := by
  intro starts
  apply before
  have joined : sep.dropLast ++ sep.getLast filled :: back = sep ++ back := by
    rw [List.append_cons, List.dropLast_concat_getLast]
  have whole : c :: (front ++ sep.dropLast) ++ sep.getLast filled :: back = c :: (front ++ sep ++ back) := by
    simp [joined]
  refine List.prefix_of_prefix_length_le starts ⟨_, whole⟩ ?_
  simp only [List.length_cons, List.length_append, List.length_dropLast]
  omega

/-- A separator that stands at one place only cuts a text in two. -/
theorem piecesBetween_once {sep front back : List Char} (filled : sep ≠ []) (before : ¬ sep <:+: front ++ sep.dropLast)
    (after : ¬ sep <:+: back) : piecesBetween sep (front ++ sep ++ back) = [front, back] := by
  have cut (piece : List Char) : piecesBetween.go sep (front ++ sep ++ back) piece = [piece.reverse ++ front, back] := by
    induction front generalizing piece with
    | nil =>
      cases sep with
      | nil => exact absurd rfl filled
      | cons d sep =>
        have here : beginsWith (d :: sep) (d :: (sep ++ back)) = true :=
          List.isPrefixOf_iff_prefix.mpr (List.prefix_append (d :: sep) back)
        rw [List.nil_append, List.cons_append, piecesBetween.go, here]
        simp [piecesBetween_absent after]
    | cons c front ih =>
      rw [List.cons_append, List.infix_cons_iff, not_or] at before
      have other : beginsWith sep (c :: (front ++ sep ++ back)) = false := by
        rw [beginsWith, ← Bool.not_eq_true, List.isPrefixOf_iff_prefix]
        exact not_begins_early filled before.1 back
      rw [List.cons_append, List.cons_append, piecesBetween.go, other, ih before.2]
      simp
  exact cut []

end DeviceHarness.Text
