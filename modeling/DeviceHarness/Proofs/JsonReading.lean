import DeviceHarness.Json
import DeviceHarness.Proofs.Numerals

/-! Documents are read back. The reader goes by the grammar alone and knows nothing of how the writer lays out its
lines: blanks may stand around every mark, and characters of a string may be escaped in any of the ways there are.
Numbers are whole, which is all that documents have here. -/

namespace DeviceHarness.Json

/-! What stands between the marks. -/

def blanks : List Char := [' ', '\n', '\r', '\t']

def marks : List Char := ['"', '[', ']', '{', '}', ',', ':']

def isBlank (c : Char) : Bool := blanks.contains c

def isInWord (c : Char) : Bool := !(blanks ++ marks).contains c

/-- A mark with any blanks before it. -/
def mark? (mark : Char) (s : List Char) : Option (List Char) :=
  match s.dropWhile isBlank with
  | [] => none
  | c :: rest => if c = mark then some rest else none

/-- No zero stands before other digits. -/
def natural? (digits : List Char) : Option Nat :=
  if digits.head? = some '0' ∧ digits ≠ ['0'] then none else Integer.natural? digits

def number? : List Char → Option Int
  | '-' :: digits => (natural? digits).map fun n => -(n : Int)
  | digits => (natural? digits).map Int.ofNat

def word? (word : List Char) : Option Json :=
  if word = "null".toList then some null
  else if word = "true".toList then some (boolean true)
  else if word = "false".toList then some (boolean false)
  else (number? word).map number

/-! Strings. -/

def hexValue? (c : Char) : Option Nat :=
  if '0' ≤ c ∧ c ≤ '9' then some (c.toNat - 48)
  else if 'a' ≤ c ∧ c ≤ 'f' then some (c.toNat - 87)
  else if 'A' ≤ c ∧ c ≤ 'F' then some (c.toNat - 55)
  else none

/-- The character with this number. The halves of a pair are none. -/
def numbered? (digits : List Char) : Option Char := do
  let values ← digits.mapM hexValue?
  let n := values.foldl (16 * · + ·) 0
  if n.isValidChar then some (Char.ofNat n) else none

/-- A character after a backslash. -/
def escaped? : Char → Option Char
  | '"' => some '"'
  | '\\' => some '\\'
  | '/' => some '/'
  | 'b' => some '\x08'
  | 'f' => some '\x0c'
  | 'n' => some '\n'
  | 'r' => some '\r'
  | 't' => some '\t'
  | _ => none

/-- A string up to its closing quotation mark. -/
def inString? : List Char → Option (List Char × List Char)
  | [] => none
  | '"' :: rest => some ([], rest)
  | '\\' :: 'u' :: a :: b :: c :: d :: rest => do
    let char ← numbered? [a, b, c, d]
    (inString? rest).map (Prod.map (char :: ·) id)
  | '\\' :: c :: rest => do
    let char ← escaped? c
    (inString? rest).map (Prod.map (char :: ·) id)
  | c :: rest => if c.toNat < 32 then none else (inString? rest).map (Prod.map (c :: ·) id)

/-! Values. -/

section Elements

variable {α : Type} (element? : List Char → Option (α × List Char))

/-- Elements with commas between them, up to the closing mark. -/
def sequence? (close : Char) : Nat → List Char → Option (List α × List Char)
  | 0, _ => none
  | fuel + 1, s => do
    let (a, s) ← element? s
    match mark? ',' s with
    | some s => (sequence? close fuel s).map (Prod.map (a :: ·) id)
    | none => (mark? close s).map ([a], ·)

/-- As before, but there may be none. -/
def elements? (close : Char) (fuel : Nat) (s : List Char) : Option (List α × List Char) :=
  sequence? element? close fuel s <|> (mark? close s).map ([], ·)

/-- A name, and what it names. -/
def pair? (s : List Char) : Option ((String × α) × List Char) := do
  let s ← mark? '"' s
  let (name, s) ← inString? s
  let s ← mark? ':' s
  let (a, s) ← element? s
  return ((String.ofList name, a), s)

end Elements

/-- A value at the start of a text, and what follows it. Each level takes a unit of fuel, and so does each element of
a level. -/
def value? : Nat → List Char → Option (Json × List Char)
  | 0, _ => none
  | fuel + 1, s =>
    match s.dropWhile isBlank with
    | '"' :: rest => (inString? rest).map (Prod.map (fun text => string (String.ofList text)) id)
    | '[' :: rest => (elements? (value? fuel) ']' fuel rest).map (Prod.map array id)
    | '{' :: rest => (elements? (pair? (value? fuel)) '}' fuel rest).map (Prod.map object id)
    | rest => (word? (rest.takeWhile isInWord)).map (·, rest.dropWhile isInWord)

/-- The value that a text holds, with nothing but blanks around it. -/
def ofText? (text : String) : Option Json :=
  match value? (text.toList.length + 1) text.toList with
  | some (json, rest) => if rest.all isBlank then some json else none
  | none => none

/-! What a value has. -/

def find? (name : String) : Json → Option Json
  | object members => members.lookup name
  | _ => none

def text? : Json → Option String
  | string text => some text
  | _ => none

def count? : Json → Option Nat
  | number (.ofNat n) => some n
  | _ => none

def items? : Json → Option (List Json)
  | array items => some items
  | _ => none

/-! Blanks and marks are read. -/

theorem isBlank_of_mem_indentation (level : Nat) : ∀ c ∈ indentation level, isBlank c = true := by
  intro c member
  rcases List.mem_cons.mp member with rfl | inside
  · rfl
  · rw [List.eq_of_mem_replicate inside]
    rfl

theorem mark?_padded {gap : List Char} (blank : ∀ c ∈ gap, isBlank c = true) (mark : Char) (s : List Char) :
    mark? mark (gap ++ s) = mark? mark s := by
  rw [mark?, List.dropWhile_append_of_pos blank, mark?]

theorem mark?_cons {c : Char} (solid : isBlank c = false) (mark : Char) (s : List Char) :
    mark? mark (c :: s) = if c = mark then some s else none := by
  rw [mark?, List.dropWhile_cons_of_neg (by simp [solid])]

theorem value?_padded {gap : List Char} (blank : ∀ c ∈ gap, isBlank c = true) (fuel : Nat) (s : List Char) :
    value? fuel (gap ++ s) = value? fuel s := by
  cases fuel with
  | zero => rfl
  | succ fuel => rw [value?, List.dropWhile_append_of_pos blank, value?]

/-! Words are read. A word goes on to the next blank or mark, so one of them must follow. -/

def EndsWord (rest : List Char) : Prop := ∀ c ∈ rest.head?, isInWord c = false

theorem isInWord_eq_true {c : Char} : isInWord c = true ↔ c ∉ blanks ++ marks := by
  rw [isInWord, Bool.not_eq_true', List.contains_eq_mem, decide_eq_false_iff_not]

theorem isBlank_of_isInWord {c : Char} (inside : isInWord c = true) : isBlank c = false := by
  rw [isBlank, List.contains_eq_mem, decide_eq_false_iff_not]
  exact fun member => isInWord_eq_true.mp inside (List.mem_append_left marks member)

theorem isInWord_of_mem_notationOf {n : Int} {c : Char} (member : c ∈ Integer.notationOf n) : isInWord c = true := by
  have none : (blanks ++ marks).all (fun c => c != '-' && !Integer.isDigit c) = true := by decide
  refine isInWord_eq_true.mpr fun ends => ?_
  have other := List.all_eq_true.mp none c ends
  rcases Integer.mem_notationOf member with rfl | digit
  · cases other
  · simp [digit] at other

theorem value?_word {word : List Char} {json : Json} (read : word? word = some json) (nonempty : word ≠ [])
    (inside : word.all isInWord = true) (fuel : Nat) {rest : List Char} (ends : EndsWord rest) :
    value? (fuel + 1) (word ++ rest) = some (json, rest) := by
  have each := List.all_eq_true.mp inside
  have taken : (word ++ rest).takeWhile isInWord = word := by
    rw [List.takeWhile_append_of_pos each]
    cases rest with
    | nil => simp
    | cons c more => rw [List.takeWhile_cons_of_neg (by simp [ends c rfl]), List.append_nil]
  have left : (word ++ rest).dropWhile isInWord = rest := by
    rw [List.dropWhile_append_of_pos each]
    cases rest with
    | nil => rfl
    | cons c more => exact List.dropWhile_cons_of_neg (by simp [ends c rfl])
  cases word with
  | nil => exact absurd rfl nonempty
  | cons c more =>
    have first : isInWord c = true := each c List.mem_cons_self
    have unmarked : c ∉ marks := fun member => isInWord_eq_true.mp first (List.mem_append_right blanks member)
    rw [value?, List.cons_append, List.dropWhile_cons_of_neg (by simp [isBlank_of_isInWord first])]
    split
    next same => cases same; simp [marks] at unmarked
    next same => cases same; simp [marks] at unmarked
    next same => cases same; simp [marks] at unmarked
    next => rw [← List.cons_append, taken, left, read]; rfl

/-! Strings are read. -/

theorem numbered?_control {n : Nat} (small : n < 32) :
    numbered? ['0', '0', hexDigit (n / 16), hexDigit (n % 16)] = some (Char.ofNat n) := by
  have each : ∀ n < 32, numbered? ['0', '0', hexDigit (n / 16), hexDigit (n % 16)] = some (Char.ofNat n) := by decide
  exact each n small

theorem inString?_escape (c : Char) (rest : List Char) :
    inString? (escape c ++ rest) = (inString? rest).map (Prod.map (c :: ·) id) := by
  unfold escape
  split
  case h_1 => rfl
  case h_2 => rfl
  case h_3 => rfl
  case h_4 => rfl
  case h_5 => rfl
  case h_6 => rfl
  case h_7 => rfl
  case h_8 quote backslash _ _ _ _ _ =>
    split
    next small =>
      have read := numbered?_control small
      rw [Char.ofNat_toNat] at read
      show (numbered? _).bind _ = _
      rw [read]
      rfl
    next large =>
      rw [List.singleton_append, inString?]
      · exact if_neg large
      · exact quote
      · exact fun _ _ _ _ _ same => absurd same backslash
      · exact fun _ _ same => absurd same backslash

theorem inString?_flatMap (text rest : List Char) :
    inString? (text.flatMap escape ++ '"' :: rest) = some (text, rest) := by
  induction text with
  | nil => rfl
  | cons c more ih =>
    rw [List.flatMap_cons, List.append_assoc, inString?_escape, ih]
    rfl

theorem value?_quoted (fuel : Nat) (text : String) (rest : List Char) :
    value? (fuel + 1) (quoted text ++ rest) = some (string text, rest) := by
  have read := inString?_flatMap text.toList rest
  rw [quoted, List.cons_append, List.cons_append, List.append_assoc, value?,
    List.dropWhile_cons_of_neg (by decide)]
  show (inString? (_ ++ '"' :: rest)).map _ = _
  rw [read]
  simp

/-! Numbers are read. -/

theorem zero_of_head?_digits {n : Nat} (zero : (Integer.digits n).head? = some '0') : n = 0 := by
  fun_induction Integer.digits n with
  | case1 n small =>
    have each : ∀ d < 10, [Char.ofNat (48 + d)].head? = some '0' → d = 0 := by decide
    exact each n small zero
  | case2 n large ih =>
    have front : n / 10 = 0 := by
      cases digits : Integer.digits (n / 10) with
      | nil => exact absurd digits (Integer.digits_ne_nil _)
      | cons d ds =>
        rw [digits] at zero ih
        exact ih zero
    omega

theorem natural?_digits (n : Nat) : natural? (Integer.digits n) = some n := by
  rw [natural?, Integer.natural?_digits, if_neg]
  rintro ⟨zero, other⟩
  obtain rfl := zero_of_head?_digits zero
  exact other (by rw [Integer.digits]; rfl)

theorem number?_notationOf (n : Int) : number? (Integer.notationOf n) = some n := by
  cases n with
  | negSucc n =>
    rw [Integer.notationOf, number?, natural?_digits]
    rfl
  | ofNat n =>
    show number? (Integer.digits n) = _
    unfold number?
    split
    next digits same =>
      have sign : Integer.isDigit '-' = true :=
        Integer.isDigit_of_mem_digits (by rw [same]; exact List.mem_cons_self)
      cases sign
    next => rw [natural?_digits]; rfl

theorem word?_notationOf (n : Int) : word? (Integer.notationOf n) = some (number n) := by
  have other {word : List Char} (none : number? word = none) : Integer.notationOf n ≠ word := by
    rintro rfl
    rw [number?_notationOf] at none
    cases none
  rw [word?, if_neg (other (by decide)), if_neg (other (by decide)), if_neg (other (by decide)), number?_notationOf]
  rfl

/-! Elements are read. -/

section Elements

variable {α : Type} {element? : List Char → Option (α × List Char)}

/-- The text of an element is read as the element, whatever follows that ends a word. -/
def Reads (element? : List Char → Option (α × List Char)) (text : List Char) (a : α) : Prop :=
  ∀ rest, EndsWord rest → element? (text ++ rest) = some (a, rest)

theorem endsWord_indentation (level : Nat) (rest : List Char) : EndsWord (indentation level ++ rest) := by
  rintro _ ⟨⟩
  rfl

theorem endsWord_comma (rest : List Char) : EndsWord (',' :: rest) := by
  rintro _ ⟨⟩
  rfl

theorem sequence?_last {close : Char} (mark : close ∈ marks) (other : close ≠ ',') {text : List Char} {a : α}
    (reads : Reads element? text a) (fuel level : Nat) (rest : List Char) :
    sequence? element? close (fuel + 1) (text ++ (indentation level ++ close :: rest)) = some ([a], rest) := by
  have solid : isBlank close = false := by
    have all : marks.all (fun c => !isBlank c) = true := by decide
    simpa using List.all_eq_true.mp all close mark
  rw [sequence?, reads _ (endsWord_indentation level _)]
  simp only [Option.bind_eq_bind, Option.bind_some]
  rw [mark?_padded (isBlank_of_mem_indentation level), mark?_cons solid, if_neg other]
  dsimp only
  rw [mark?_padded (isBlank_of_mem_indentation level), mark?_cons solid, if_pos rfl]
  rfl

theorem sequence?_comma (close : Char) {text : List Char} {a : α} (reads : Reads element? text a) (fuel : Nat)
    (s : List Char) :
    sequence? element? close (fuel + 1) (text ++ ',' :: s) =
      (sequence? element? close fuel s).map (Prod.map (a :: ·) id) := by
  rw [sequence?, reads _ (endsWord_comma s)]
  simp only [Option.bind_eq_bind, Option.bind_some]
  rw [mark?_cons (by decide), if_pos rfl]

theorem sequence?_written {close : Char} (mark : close ∈ marks) (other : close ≠ ',') {text : α → List Char}
    {first : α} {more : List α} (each : ∀ a ∈ first :: more, Reads element? (text a) a) {fuel : Nat}
    (enough : more.length < fuel) (level : Nat) (rest : List Char) :
    sequence? element? close fuel
        (text first ++ more.flatMap (fun a => ',' :: text a) ++ indentation level ++ close :: rest) =
      some (first :: more, rest) := by
  obtain ⟨fuel, rfl⟩ : ∃ n, fuel = n + 1 := Nat.exists_eq_succ_of_ne_zero (Nat.ne_zero_of_lt enough)
  induction more generalizing first fuel with
  | nil =>
    rw [List.flatMap_nil, List.append_nil, List.append_assoc]
    exact sequence?_last mark other (each first List.mem_cons_self) fuel level rest
  | cons next more ih =>
    have fewer : more.length < fuel := Nat.lt_of_succ_lt_succ enough
    obtain ⟨fuel, rfl⟩ : ∃ n, fuel = n + 1 := Nat.exists_eq_succ_of_ne_zero (Nat.ne_zero_of_lt fewer)
    have onward := ih (fun a member => each a (List.mem_cons_of_mem first member)) fuel fewer
    rw [List.flatMap_cons, List.cons_append, List.append_assoc, List.append_assoc, List.cons_append,
      sequence?_comma close (each first List.mem_cons_self), ← List.append_assoc, onward]
    rfl

theorem length_flatMap_comma (text : α → List Char) (items : List α) :
    items.length ≤ (items.flatMap fun a => ',' :: text a).length ∧
      ∀ a ∈ items, (text a).length < (items.flatMap fun a => ',' :: text a).length := by
  induction items with
  | nil => simp
  | cons first more ih =>
    obtain ⟨count, each⟩ := ih
    rw [List.flatMap_cons, List.length_append, List.length_cons, List.length_cons]
    refine ⟨by omega, List.forall_mem_cons.mpr ⟨by omega, fun a member => ?_⟩⟩
    have := each a member
    omega

theorem elements?_written {close : Char} (mark : close ∈ marks) (other : close ≠ ',') {text : α → List Char}
    {first : α} {more : List α} {fuel level : Nat}
    (each : ∀ a ∈ first :: more, (text a).length < fuel → Reads element? (text a) a)
    (enough : (text first ++ more.flatMap (fun a => ',' :: text a) ++ indentation level ++ [close]).length < fuel)
    (rest : List Char) :
    elements? element? close fuel
        (text first ++ more.flatMap (fun a => ',' :: text a) ++ indentation level ++ [close] ++ rest) =
      some (first :: more, rest) := by
  obtain ⟨count, small⟩ := length_flatMap_comma text (first :: more)
  simp only [List.flatMap_cons, List.cons_append, List.length_cons, List.length_append] at count small enough
  have reads : ∀ a ∈ first :: more, Reads element? (text a) a := by
    intro a member
    have := small a member
    exact each a member (by omega)
  rw [elements?, List.append_assoc _ [close], List.singleton_append, sequence?_written mark other reads (by omega)]
  rfl

theorem elements?_close {close : Char} (solid : isBlank close = false) {rest : List Char}
    (refused : element? (close :: rest) = none) (fuel : Nat) :
    elements? element? close fuel (close :: rest) = some ([], rest) := by
  have none : sequence? element? close fuel (close :: rest) = none := by
    cases fuel with
    | zero => rfl
    | succ fuel => rw [sequence?, refused]; rfl
  rw [elements?, none, mark?_cons solid, if_pos rfl]
  rfl

end Elements

/-! Documents are read. -/

def itemText (level : Nat) (item : Json) : List Char := indentation level ++ write level item

def memberText (level : Nat) (member : String × Json) : List Char :=
  indentation level ++ quoted member.1 ++ [':', ' '] ++ write level member.2

theorem writeItems_eq (level : Nat) (items : List Json) :
    writeItems level items = items.flatMap fun item => ',' :: itemText level item := by
  induction items with
  | nil => rfl
  | cons item rest ih => rw [writeItems, ih]; rfl

theorem writeMembers_eq (level : Nat) (members : List (String × Json)) :
    writeMembers level members = members.flatMap fun member => ',' :: memberText level member := by
  induction members with
  | nil => rfl
  | cons member rest ih => rw [writeMembers, ih]; rfl

theorem write_array (level : Nat) (item : Json) (more : List Json) :
    write level (array (item :: more)) =
      '[' :: (itemText (level + 1) item ++ more.flatMap (fun item => ',' :: itemText (level + 1) item) ++
        indentation level ++ [']']) := by
  rw [write, writeItems_eq, itemText]
  simp only [List.cons_append]

theorem write_object (level : Nat) (member : String × Json) (more : List (String × Json)) :
    write level (object (member :: more)) =
      '{' :: (memberText (level + 1) member ++ more.flatMap (fun member => ',' :: memberText (level + 1) member) ++
        indentation level ++ ['}']) := by
  rw [write, writeMembers_eq, memberText]
  simp only [List.cons_append]

theorem itemText_reads {fuel level : Nat} {item : Json} (reads : Reads (value? fuel) (write level item) item) :
    Reads (value? fuel) (itemText level item) item := by
  intro rest ends
  rw [itemText, List.append_assoc, value?_padded (isBlank_of_mem_indentation level), reads rest ends]

theorem memberText_reads {fuel level : Nat} {member : String × Json}
    (reads : Reads (value? fuel) (write level member.2) member.2) :
    Reads (pair? (value? fuel)) (memberText level member) member := by
  intro rest ends
  have name := inString?_flatMap member.1.toList (':' :: ([' '] ++ (write level member.2 ++ rest)))
  have shape : memberText level member ++ rest = indentation level ++ '"' ::
      (member.1.toList.flatMap escape ++ '"' :: ':' :: ([' '] ++ (write level member.2 ++ rest))) := by
    simp [memberText, quoted]
  rw [shape, pair?, mark?_padded (isBlank_of_mem_indentation level), mark?_cons (by decide), if_pos rfl]
  simp only [Option.bind_eq_bind, Option.bind_some]
  rw [name]
  simp only [Option.bind_some]
  rw [mark?_cons (by decide), if_pos rfl]
  simp only [Option.bind_some]
  rw [value?_padded (List.forall_mem_singleton.mpr rfl), reads rest ends]
  simp

theorem value?_array (fuel : Nat) (s : List Char) :
    value? (fuel + 1) ('[' :: s) = (elements? (value? fuel) ']' fuel s).map (Prod.map array id) := rfl

theorem value?_object (fuel : Nat) (s : List Char) :
    value? (fuel + 1) ('{' :: s) = (elements? (pair? (value? fuel)) '}' fuel s).map (Prod.map object id) := rfl

theorem value?_bracket (fuel : Nat) (rest : List Char) : value? fuel (']' :: rest) = none := by
  cases fuel with
  | zero => rfl
  | succ fuel => rfl

theorem pair?_brace {α : Type} (element? : List Char → Option (α × List Char)) (rest : List Char) :
    pair? element? ('}' :: rest) = none := rfl

/-- What is written is read back, and no more than that is read. -/
theorem value?_write {fuel level : Nat} {json : Json} (enough : (write level json).length < fuel) :
    Reads (value? fuel) (write level json) json := by
  -- the texts of elements and members are shorter than the whole, so one unit of fuel less is enough for them
  induction fuel generalizing level json with
  | zero => cases enough
  | succ fuel ih =>
    intro rest ends
    cases json with
    | null =>
      rw [write]
      exact value?_word rfl (by decide) (by decide) fuel ends
    | boolean b =>
      cases b with
      | true =>
        rw [write]
        exact value?_word rfl (by decide) (by decide) fuel ends
      | false =>
        rw [write]
        exact value?_word rfl (by decide) (by decide) fuel ends
    | number n =>
      rw [write]
      have inside : (Integer.notationOf n).all isInWord = true :=
        List.all_eq_true.mpr fun _ => isInWord_of_mem_notationOf
      exact value?_word (word?_notationOf n) (Integer.notationOf_ne_nil n) inside fuel ends
    | string text =>
      rw [write]
      exact value?_quoted fuel text rest
    | array items =>
      cases items with
      | nil =>
        rw [write, List.cons_append, value?_array]
        exact congrArg _ (elements?_close (by decide) (value?_bracket fuel rest) fuel)
      | cons item more =>
        rw [write_array] at enough ⊢
        have items (a : Json) (small : (itemText (level + 1) a).length < fuel) :
            Reads (value? fuel) (itemText (level + 1) a) a :=
          itemText_reads (ih (Nat.lt_of_le_of_lt (List.suffix_append _ _).length_le small))
        have read : elements? (value? fuel) ']' fuel _ = some (item :: more, rest) :=
          elements?_written (by decide) (by decide) (fun a _ => items a) (Nat.lt_of_succ_lt_succ enough) rest
        rw [List.cons_append, value?_array, read]
        rfl
    | object members =>
      cases members with
      | nil =>
        rw [write, List.cons_append, value?_object]
        exact congrArg _ (elements?_close (by decide) (pair?_brace (value? fuel) rest) fuel)
      | cons member more =>
        rw [write_object] at enough ⊢
        have members (a : String × Json) (small : (memberText (level + 1) a).length < fuel) :
            Reads (pair? (value? fuel)) (memberText (level + 1) a) a :=
          memberText_reads (ih (Nat.lt_of_le_of_lt (List.suffix_append _ _).length_le small))
        have read : elements? (pair? (value? fuel)) '}' fuel _ = some (member :: more, rest) :=
          elements?_written (by decide) (by decide) (fun a _ => members a) (Nat.lt_of_succ_lt_succ enough) rest
        rw [List.cons_append, value?_object, read]
        rfl

/-- A document is read back, whatever blanks are printed after it. -/
theorem ofText?_pretty (json : Json) {trail : String} (blank : trail.toList.all isBlank = true) :
    ofText? (json.pretty ++ trail) = some json := by
  have ends : EndsWord trail.toList := by
    intro c first
    have gap := List.all_eq_true.mp blank c (List.mem_of_mem_head? first)
    refine Bool.eq_false_iff.mpr fun inside => ?_
    rw [isBlank_of_isInWord inside] at gap
    cases gap
  have text : (json.pretty ++ trail).toList = write 0 json ++ trail.toList := by simp [pretty]
  have enough : (write 0 json).length < (write 0 json ++ trail.toList).length + 1 := by
    rw [List.length_append]
    omega
  rw [ofText?, text, value?_write enough trail.toList ends]
  exact if_pos blank

end DeviceHarness.Json
