/-! Blank characters, and texts without the blanks at their ends. The class is the
`White_Space` property of Unicode, so the ideographic space and the no-break space count. -/

namespace DeviceHarness.Text

/-- The ranges of the Unicode property `White_Space`. -/
def isBlank (c : Char) : Bool :=
  let n := c.toNat
  (0x09 ≤ n && n ≤ 0x0D) || n == 0x20 || n == 0x85 || n == 0xA0 || n == 0x1680 ||
    (0x2000 ≤ n && n ≤ 0x200A) || n == 0x2028 || n == 0x2029 || n == 0x202F || n == 0x205F ||
    n == 0x3000

/-- Space, tab, line feed, form feed and carriage return. -/
def isAsciiBlank (c : Char) : Bool :=
  c == ' ' || c == '\t' || c == '\n' || c == '\x0c' || c == '\r'

def trimStart (s : List Char) : List Char := s.dropWhile isBlank

def trimEnd (s : List Char) : List Char := (s.reverse.dropWhile isBlank).reverse

def trimmed (s : List Char) : List Char := trimEnd (trimStart s)

/-- A text without the blanks at its ends. -/
def trim (s : String) : String := String.ofList (trimmed s.toList)

/-- A text that holds nothing but blanks. -/
def blank (s : String) : Bool := s.toList.all isBlank

theorem blank_append {s t : String} : blank (s ++ t) = true ↔ blank s = true ∧ blank t = true := by
  simp [blank, List.all_append]

theorem trimStart_padded {lead core : List Char} (blank : ∀ c ∈ lead, isBlank c = true)
    (first : ∀ c ∈ core.head?, isBlank c = false) : trimStart (lead ++ core) = core := by
  rw [trimStart, List.dropWhile_append_of_pos blank]
  cases core with
  | nil => rfl
  | cons c rest => exact List.dropWhile_cons_of_neg (by simp [first c rfl])

theorem trimEnd_padded {core trail : List Char} (blank : ∀ c ∈ trail, isBlank c = true)
    (last : ∀ c ∈ core.getLast?, isBlank c = false) : trimEnd (core ++ trail) = core := by
  have turned : trimStart (trail.reverse ++ core.reverse) = core.reverse :=
    trimStart_padded (by simpa using blank) (by simpa using last)
  rw [trimStart, ← List.reverse_append] at turned
  rw [trimEnd, turned, List.reverse_reverse]

theorem trimmed_of_all_blank {s : List Char} (blank : s.all isBlank = true) : trimmed s = [] := by
  have none : trimStart (s ++ []) = [] := trimStart_padded (List.all_eq_true.mp blank) (by simp)
  rw [List.append_nil] at none
  rw [trimmed, none]
  rfl

/-- Blanks around a text do not matter, if the text itself begins and ends with none. -/
theorem trimmed_padded {lead core trail : List Char} (before : ∀ c ∈ lead, isBlank c = true)
    (after : ∀ c ∈ trail, isBlank c = true) (first : ∀ c ∈ core.head?, isBlank c = false)
    (last : ∀ c ∈ core.getLast?, isBlank c = false) : trimmed (lead ++ core ++ trail) = core := by
  cases core with
  | nil =>
    rw [List.append_nil]
    exact trimmed_of_all_blank (List.all_eq_true.mpr (List.forall_mem_append.mpr ⟨before, after⟩))
  | cons c rest =>
    have front : trimStart (lead ++ (c :: rest ++ trail)) = c :: rest ++ trail := trimStart_padded before first
    rw [trimmed, List.append_assoc, front, trimEnd_padded after last]

theorem trimmed_of_no_blank {s : List Char} (solid : ∀ c ∈ s, isBlank c = false) : trimmed s = s := by
  have bare : trimmed ([] ++ s ++ []) = s := trimmed_padded (by simp) (by simp)
    (fun c first => solid c (List.mem_of_mem_head? first)) (fun c last => solid c (List.mem_of_mem_getLast? last))
  rwa [List.nil_append, List.append_nil] at bare

/-- Only blanks are taken off. -/
theorem mem_trimmed {s : List Char} {c : Char} (member : c ∈ s) (solid : isBlank c = false) : c ∈ trimmed s := by
  have kept {s : List Char} (member : c ∈ s) : c ∈ s.dropWhile isBlank := by
    rw [← s.takeWhile_append_dropWhile (p := isBlank)] at member
    rcases List.mem_append.mp member with front | rest
    · rw [List.all_eq_true.mp List.all_takeWhile c front] at solid
      cases solid
    · exact rest
  exact List.mem_reverse.mpr (kept (List.mem_reverse.mpr (kept member)))

theorem trimmed_infix (s : List Char) : trimmed s <:+: s := by
  have front : trimEnd (trimStart s) <+: trimStart s := by
    rw [← List.reverse_suffix, trimEnd, List.reverse_reverse]
    exact List.dropWhile_suffix isBlank
  exact front.isInfix.trans (List.dropWhile_suffix isBlank).isInfix

end DeviceHarness.Text
