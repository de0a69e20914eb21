import DeviceHarness.Text.Blank
import DeviceHarness.Text.Integer

/-! Written numbers: which characters they consist of, and how many, and that they are read back. -/

namespace DeviceHarness.Integer

theorem isDigit_ofNat {d : Nat} (small : d < 10) : isDigit (Char.ofNat (48 + d)) = true := by
  have each : ∀ d < 10, isDigit (Char.ofNat (48 + d)) = true := by decide
  exact each d small

theorem isDigit_of_mem_digits {n : Nat} {c : Char} (member : c ∈ digits n) : isDigit c = true := by
  fun_induction digits n with
  | case1 n small =>
    obtain rfl := List.mem_singleton.mp member
    exact isDigit_ofNat small
  | case2 n large ih =>
    rcases List.mem_append.mp member with front | last
    · exact ih front
    · obtain rfl := List.mem_singleton.mp last
      exact isDigit_ofNat (Nat.mod_lt n (by omega))

theorem length_digits_le {n k : Nat} (positive : 0 < k) (small : n < Nat.pow 10 k) : (digits n).length ≤ k := by
  induction k generalizing n with
  | zero => cases positive
  | succ k ih =>
    unfold digits
    split
    · simp
    next large =>
      have wide : 0 < k := by
        refine Nat.pos_of_ne_zero fun none => large ?_
        simpa [none] using small
      have shorter : n < Nat.pow 10 k * 10 := small
      have front : (digits (n / 10)).length ≤ k := ih wide (by omega)
      simp [front]

theorem mem_notationOf {n : Int} {c : Char} (member : c ∈ notationOf n) : c = '-' ∨ isDigit c = true := by
  cases n with
  | ofNat n => exact .inr (isDigit_of_mem_digits member)
  | negSucc n =>
    rcases List.mem_cons.mp member with sign | digit
    · exact .inl sign
    · exact .inr (isDigit_of_mem_digits digit)

theorem length_notationOf_le {n : Int} {k : Nat} (positive : 0 < k) (small : n.natAbs < Nat.pow 10 k) :
    (notationOf n).length ≤ k + 1 := by
  cases n with
  | ofNat n => exact Nat.le_succ_of_le (length_digits_le positive small)
  | negSucc n => exact Nat.succ_le_succ (length_digits_le positive small)

theorem natAbs_of_fits {bits : Nat} {n : Int} (within : fits bits n = true) : n.natAbs ≤ Nat.pow 2 (bits - 1) := by
  simp only [fits, Bool.and_eq_true, decide_eq_true_eq] at within
  omega

theorem fits_of_ofText? {bits : Nat} {s : String} {n : Int} (read : ofText? bits s = some n) : fits bits n = true :=
  (Option.filter_eq_some_iff.mp read).2

theorem utf8ByteSize_ofList_le (s : List Char) : (String.ofList s).utf8ByteSize ≤ 4 * s.length := by
  induction s with
  | nil => simp
  | cons c rest ih =>
    have one := Char.utf8Size_le_four c
    rw [String.ofList_cons, String.utf8ByteSize_append, String.utf8ByteSize_singleton, List.length_cons]
    omega

/-! What can be read. -/

/-- A text is a number in decimal: digits with an optional sign before them. -/
inductive IsDecimal : List Char → Int → Prop where
  | plain {digits : List Char} (some : digits ≠ []) (each : ∀ c ∈ digits, isDigit c = true) :
      IsDecimal digits (value digits)
  | plus {digits : List Char} (some : digits ≠ []) (each : ∀ c ∈ digits, isDigit c = true) :
      IsDecimal ('+' :: digits) (value digits)
  | minus {digits : List Char} (some : digits ≠ []) (each : ∀ c ∈ digits, isDigit c = true) :
      IsDecimal ('-' :: digits) (-(value digits : Int))

theorem natural?_eq_some {s : List Char} {n : Nat} :
    natural? s = some n ↔ s ≠ [] ∧ (∀ c ∈ s, isDigit c = true) ∧ value s = n := by
  unfold natural?
  split
  next bad =>
    refine iff_of_false (by simp) ?_
    rintro ⟨some, each, -⟩
    simp [some, List.all_eq_true.mpr each] at bad
  next good =>
    simp only [Bool.or_eq_true, not_or, List.isEmpty_iff, Bool.not_eq_true', Bool.not_eq_false, List.all_eq_true] at good
    simp only [Option.some.injEq]
    exact ⟨fun same => ⟨good.1, good.2, same⟩, fun all => all.2.2⟩

theorem signed?_eq_some {s : List Char} {n : Int} : signed? s = some n ↔ IsDecimal s n := by
  constructor
  · intro read
    unfold signed? at read
    split at read
    next digits =>
      cases natural : natural? digits with
      | none => simp [natural] at read
      | some m =>
        obtain rfl : -(m : Int) = n := by simpa [natural] using read
        obtain ⟨some, each, rfl⟩ := natural?_eq_some.mp natural
        exact .minus some each
    next digits =>
      obtain ⟨m, natural, rfl⟩ := Option.map_eq_some_iff.mp read
      obtain ⟨some, each, rfl⟩ := natural?_eq_some.mp natural
      exact .plus some each
    next =>
      obtain ⟨m, natural, rfl⟩ := Option.map_eq_some_iff.mp read
      obtain ⟨some, each, rfl⟩ := natural?_eq_some.mp natural
      exact .plain some each
  · intro decimal
    cases decimal with
    | @plain digits some each =>
      have natural : natural? s = Option.some (value s) := natural?_eq_some.mpr ⟨some, each, rfl⟩
      unfold signed?
      split
      next rest => cases each '-' List.mem_cons_self
      next rest => cases each '+' List.mem_cons_self
      next => rw [natural]; rfl
    | @plus digits some each => simp [signed?, natural?_eq_some.mpr ⟨some, each, rfl⟩]
    | @minus digits some each => simp [signed?, natural?_eq_some.mpr ⟨some, each, rfl⟩]

theorem ofChars?_eq_some {bits : Nat} {s : List Char} {n : Int} :
    ofChars? bits s = some n ↔ IsDecimal s n ∧ fits bits n = true := by
  rw [ofChars?, Option.filter_eq_some_iff, signed?_eq_some]

theorem isDecimal_of_ofText? {bits : Nat} {s : String} {n : Int} (read : ofText? bits s = some n) :
    IsDecimal s.toList n :=
  signed?_eq_some.mp (Option.filter_eq_some_iff.mp read).1

/-! Reading back what was written. -/

theorem value_append (s : List Char) (c : Char) : value (s ++ [c]) = 10 * value s + digitValue c := by
  simp [value]

theorem digitValue_ofNat {d : Nat} (small : d < 10) : digitValue (Char.ofNat (48 + d)) = d := by
  have each : ∀ d < 10, digitValue (Char.ofNat (48 + d)) = d := by decide
  exact each d small

theorem value_digits (n : Nat) : value (digits n) = n := by
  fun_induction digits n with
  | case1 n small => simpa [value] using digitValue_ofNat small
  | case2 n large ih =>
    rw [value_append, ih, digitValue_ofNat (Nat.mod_lt n (by omega))]
    omega

theorem digits_ne_nil (n : Nat) : digits n ≠ [] := by
  unfold digits
  split <;> simp

theorem natural?_digits (n : Nat) : natural? (digits n) = some n := by
  have nonempty : (digits n).isEmpty = false := List.isEmpty_eq_false_iff.mpr (digits_ne_nil n)
  have allDigits : (digits n).all isDigit = true := List.all_eq_true.mpr fun c member => isDigit_of_mem_digits member
  simp [natural?, nonempty, allDigits, value_digits]

theorem signed?_notationOf (n : Int) : signed? (notationOf n) = some n := by
  cases n with
  | negSucc n =>
    rw [notationOf, signed?, natural?_digits]
    rfl
  | ofNat n =>
    have read := natural?_digits n
    have first {c : Char} {rest : List Char} (split : digits n = c :: rest) : isDigit c = true :=
      isDigit_of_mem_digits (by rw [split]; exact List.mem_cons_self)
    show signed? (digits n) = _
    unfold signed?
    split
    next split => cases first split
    next split => cases first split
    next => rw [read]; rfl

theorem isDecimal_notationOf (n : Int) : IsDecimal (notationOf n) n := signed?_eq_some.mp (signed?_notationOf n)

theorem ofChars?_notationOf {bits : Nat} {n : Int} (within : fits bits n = true) :
    ofChars? bits (notationOf n) = some n := by
  rw [ofChars?, signed?_notationOf, Option.filter_some, if_pos within]

theorem notationOf_inj {n m : Int} : notationOf n = notationOf m ↔ n = m := by
  constructor
  · intro same
    have read := congrArg signed? same
    simpa [signed?_notationOf] using read
  · exact congrArg notationOf

theorem text_inj {n m : Int} : text n = text m ↔ n = m := by
  rw [text, text, String.ofList_inj, notationOf_inj]

theorem notationOf_ne_nil (n : Int) : notationOf n ≠ [] := by
  intro none
  have read := signed?_notationOf n
  rw [none] at read
  cases read

theorem not_blank_of_mem_notationOf {n : Int} {c : Char} (member : c ∈ notationOf n) : Text.isBlank c = false := by
  rcases mem_notationOf member with rfl | digit
  · decide
  · have range : '0'.toNat ≤ c.toNat ∧ c.toNat ≤ '9'.toNat := by
      simpa [isDigit, Char.le_def, UInt32.le_iff_toNat_le] using digit
    have low : 48 ≤ c.toNat := range.1
    have high : c.toNat ≤ 57 := range.2
    simp only [Text.isBlank, Bool.or_eq_false_iff, Bool.and_eq_false_iff, decide_eq_false_iff_not, beq_eq_false_iff_ne]
    omega

theorem ofText?_trim_text {bits : Nat} {n : Int} (within : fits bits n = true) :
    ofText? bits (Text.trim (text n)) = some n := by
  have solid : ∀ c ∈ notationOf n, Text.isBlank c = false := fun c member => not_blank_of_mem_notationOf member
  rw [Text.trim, text, String.toList_ofList, Text.trimmed_of_no_blank solid, ofText?, String.toList_ofList,
    ofChars?_notationOf within]

end DeviceHarness.Integer
