import DeviceHarness.Proofs.DeviceAccess

/-! Rules for the keys of a configuration file. Every key that is read has a demand on its value, and the first key with
another value is to blame. A reading of one key is judged by the rule for that key, and the judgements are put together
as the readings are: one after the other, and those of a section inside one for the section around it. -/

namespace DeviceHarness

open Toml (Kind Value valueAt? textAt?)

/-- What the value of a key has to be. -/
inductive Demand where
  | kind (k : Kind)
  /-- A number that is not negative. -/
  | count
  deriving DecidableEq

namespace Demand

def admits : Demand → Value → Bool
  | kind k, v => k.admits v
  | count, .integer n => decide (0 ≤ n)
  | count, _ => false

/-- What a complaint about a value says that it should be. -/
def expected : Demand → Value → String
  | kind k, _ => k.name
  | count, .integer _ => "non-negative int"
  | count, _ => "int"

end Demand

/-- A key, by its path, with the demand on its value. -/
abbrev KeyRule := List String × Demand

/-- The rule for a key in the section with a name, as a rule for all of the file. -/
def KeyRule.below (key : String) (rule : KeyRule) : KeyRule := (key :: rule.1, rule.2)

/-- The value of the key, if it is there, is as it has to be. -/
def Obeys (t : Toml.Table) (rule : KeyRule) : Prop :=
  ∀ v, valueAt? rule.1 t = some v → rule.2.admits v = true

instance (t : Toml.Table) (rule : KeyRule) : Decidable (Obeys t rule) :=
  decidable_of_iff ((valueAt? rule.1 t).all rule.2.admits = true) (by
    unfold Obeys
    cases valueAt? rule.1 t <;> simp)

/-- The complaint about a value that is not as it has to be. -/
def blamed (file : String) (rule : KeyRule) (v : Value) : Error :=
  .invalidConfig file
    ("invalid value for key: " ++ String.intercalate "." rule.1 ++ " (expected type: " ++ rule.2.expected v ++ ")")

namespace Toml

def countAt? (path : List String) (t : Table) : Option Nat :=
  match valueAt? path t with
  | some (.integer n) => some n.toNat
  | _ => none

def flagAt? (path : List String) (t : Table) : Option Bool :=
  match valueAt? path t with
  | some (.boolean b) => some b
  | _ => none

variable {t : Table} {key : String} {path : List String} {entries : List (String × Value)}

theorem valueAt?_cons (named : path ≠ []) :
    valueAt? (key :: path) t = match Dictionary.get? t key with
      | some (.table entries) => valueAt? path entries
      | _ => none := by
  obtain ⟨next, rest, rfl⟩ := List.exists_cons_of_ne_nil named
  rfl

theorem valueAt?_inside (here : Dictionary.get? t key = some (.table entries)) (named : path ≠ []) :
    valueAt? (key :: path) t = valueAt? path entries := by
  rw [valueAt?_cons named, here]

theorem valueAt?_outside (absent : ∀ entries, Dictionary.get? t key ≠ some (.table entries)) (named : path ≠ []) :
    valueAt? (key :: path) t = none := by
  rw [valueAt?_cons named]
  split
  next found => exact absurd found (absent _)
  next => rfl

theorem valueAt?_congr {u : Table} (same : Dictionary.get? u key = Dictionary.get? t key) :
    valueAt? (key :: path) u = valueAt? (key :: path) t := by
  cases path with
  | nil => exact same
  | cons next rest => rw [valueAt?_cons (List.cons_ne_nil _ _), valueAt?_cons (List.cons_ne_nil _ _), same]

end Toml

open Toml (countAt? flagAt?)

namespace Section

variable {α β : Type} {s : Section} {key : String}

/-- The complaint about a key inside a section, where there is one. -/
def fault? (s : Section) (rule : KeyRule) : Option Error :=
  (valueAt? rule.1 s.table).bind fun v =>
    if rule.2.admits v then none else some (blamed s.file (s.path ++ rule.1, rule.2) v)

/-- The first complaint about the keys, or what they give where there is none. -/
def judged (s : Section) (rules : List KeyRule) (a : α) : Except Error α :=
  match rules.findSome? s.fault? with
  | some e => .error e
  | none => .ok a

theorem fault?_eq_none_iff {rule : KeyRule} : s.fault? rule = none ↔ Obeys s.table rule := by
  unfold fault? Obeys
  cases valueAt? rule.1 s.table with
  | none => exact ⟨fun _ => nofun, fun _ => rfl⟩
  | some v => simp

theorem fault?_eq_some_iff {rule : KeyRule} {e : Error} :
    s.fault? rule = some e ↔ ∃ v, valueAt? rule.1 s.table = some v ∧ rule.2.admits v = false ∧
      e = blamed s.file (s.path ++ rule.1, rule.2) v := by
  unfold fault?
  cases valueAt? rule.1 s.table with
  | none => exact ⟨nofun, nofun⟩
  | some v =>
    simp only [Option.bind_some, Option.ite_none_left_eq_some, Option.some.injEq, exists_eq_left', Bool.not_eq_true]
    exact and_congr_right fun _ => eq_comm

/-- Of a section only its name and the value of the key count. -/
theorem fault?_congr {other : Section} {rule : KeyRule} (file : other.file = s.file) (path : other.path = s.path)
    (value : valueAt? rule.1 other.table = valueAt? rule.1 s.table) : other.fault? rule = s.fault? rule := by
  unfold fault?
  rw [file, path, value]

theorem fault?_table (path : List String) :
    s.fault? (path, .kind .table) =
      if mistyped s.table (path, .table) then some (mistypedError s.file (s.path ++ path, .table)) else none := by
  unfold fault? mistyped
  cases valueAt? path s.table with
  | none => rfl
  | some v => cases v <;> rfl

theorem judged_eq_ok_iff {rules : List KeyRule} {a b : α} :
    s.judged rules a = .ok b ↔ (∀ rule ∈ rules, Obeys s.table rule) ∧ b = a := by
  unfold judged
  cases found : rules.findSome? s.fault? with
  | none =>
    have all := List.findSome?_eq_none_iff.mp found
    exact ⟨fun same => ⟨fun rule member => fault?_eq_none_iff.mp (all rule member), (Except.ok.inj same).symm⟩,
      fun given => given.2 ▸ rfl⟩
  | some e =>
    refine ⟨nofun, fun given => ?_⟩
    obtain ⟨before, rule, after, split, fault, -⟩ := List.findSome?_eq_some_iff.mp found
    have none := fault?_eq_none_iff.mpr (given.1 rule (split ▸ List.mem_append_right before List.mem_cons_self))
    rw [none] at fault
    cases fault

theorem judged_eq_error_iff {rules : List KeyRule} {a : α} {e : Error} :
    s.judged rules a = .error e ↔ ∃ before rule after v, rules = before ++ rule :: after ∧
      (∀ earlier ∈ before, Obeys s.table earlier) ∧ valueAt? rule.1 s.table = some v ∧ rule.2.admits v = false ∧
      e = blamed s.file (s.path ++ rule.1, rule.2) v := by
  have first : s.judged rules a = .error e ↔ rules.findSome? s.fault? = some e := by
    unfold judged
    cases rules.findSome? s.fault? <;> simp
  rw [first, List.findSome?_eq_some_iff]
  constructor
  · rintro ⟨before, rule, after, split, fault, none⟩
    obtain ⟨v, value, bad, complaint⟩ := fault?_eq_some_iff.mp fault
    exact ⟨before, rule, after, v, split, fun earlier member => fault?_eq_none_iff.mp (none earlier member),
      value, bad, complaint⟩
  · rintro ⟨before, rule, after, v, split, obey, value, bad, complaint⟩
    exact ⟨before, rule, after, split, fault?_eq_some_iff.mpr ⟨v, value, bad, complaint⟩,
      fun earlier member => fault?_eq_none_iff.mpr (obey earlier member)⟩

/-! Readings that follow each other are judged by the keys of each in turn. -/

theorem judged_cons (rule : KeyRule) (rules : List KeyRule) (a : α) :
    s.judged (rule :: rules) a = match s.fault? rule with
      | some e => .error e
      | none => s.judged rules a := by
  unfold judged
  rw [List.findSome?_cons]
  cases s.fault? rule <;> rfl

theorem judged_bind {first later : List KeyRule} {a : α} {b : β} {f : α → Except Error β}
    (next : f a = s.judged later b) : (s.judged first a >>= f) = s.judged (first ++ later) b := by
  unfold judged
  rw [List.findSome?_append]
  cases first.findSome? s.fault? with
  | none => exact next
  | some e => rfl

theorem judged_bind_pure {rules : List KeyRule} {a : α} (f : α → β) :
    (s.judged rules a >>= fun a => pure (f a)) = s.judged rules (f a) := by
  unfold judged
  cases rules.findSome? s.fault? <;> rfl

private theorem findSome?_congr {f g : α → Option β} {items : List α} (same : ∀ item ∈ items, f item = g item) :
    items.findSome? f = items.findSome? g := by
  induction items with
  | nil => rfl
  | cons item rest ih =>
    obtain ⟨first, later⟩ := List.forall_mem_cons.mp same
    rw [List.findSome?_cons, List.findSome?_cons, first, ih later]

theorem judged_congr {other : Section} {rules : List KeyRule} (a : α)
    (same : ∀ rule ∈ rules, other.fault? rule = s.fault? rule) : other.judged rules a = s.judged rules a := by
  unfold judged
  rw [findSome?_congr same]

/-- A key below another one is to blame if it is in the section there. -/
theorem fault?_inside {entries : List (String × Value)} (here : Dictionary.get? s.table key = some (.table entries))
    {rule : KeyRule} (named : rule.1 ≠ []) :
    s.fault? (rule.below key) = fault? ⟨s.file, s.path ++ [key], entries⟩ rule := by
  unfold fault? KeyRule.below
  dsimp only
  rw [Toml.valueAt?_inside here named, List.append_assoc, List.singleton_append]

theorem fault?_outside (absent : ∀ entries, Dictionary.get? s.table key ≠ some (.table entries)) {rule : KeyRule}
    (named : rule.1 ≠ []) : s.fault? (rule.below key) = none := by
  unfold fault? KeyRule.below
  dsimp only
  rw [Toml.valueAt?_outside absent named]
  rfl

theorem optionalString_judged (s : Section) (key : String) :
    s.optionalString key = s.judged [([key], .kind .string)] (textAt? [key] s.table) := by
  rw [optionalString_eq, judged_cons]
  unfold mistyped fault?
  dsimp only
  cases valueAt? [key] s.table with
  | none => rfl
  | some v => cases v <;> rfl

/-- A section inside another one is judged by the keys in it, by their paths from outside. What is read is the same
whether the section is absent or has none of the keys. -/
theorem optionalSection_judged {f : Option Section → Except Error α} {rules : List KeyRule} {a : α}
    (named : ∀ rule ∈ rules, rule.1 ≠ []) (absent : Dictionary.get? s.table key = none → f none = .ok a)
    (present : ∀ entries, Dictionary.get? s.table key = some (.table entries) →
      f (some ⟨s.file, s.path ++ [key], entries⟩) = judged ⟨s.file, s.path ++ [key], entries⟩ rules a) :
    (s.optionalSection key >>= f) =
      s.judged (([key], .kind .table) :: rules.map (KeyRule.below key)) a := by
  have tableFault := s.fault?_table [key]
  rw [mistyped, show valueAt? [key] s.table = Dictionary.get? s.table key from rfl] at tableFault
  rw [optionalSection_eq, judged, List.findSome?_cons, tableFault, List.findSome?_map]
  cases found : Dictionary.get? s.table key with
  | none =>
    have nothing : rules.findSome? (s.fault? ∘ KeyRule.below key) = none :=
      List.findSome?_eq_none_iff.mpr fun rule member => fault?_outside (by simp [found]) (named rule member)
    rw [nothing]
    exact absent found
  | some v =>
    cases v with
    | table entries =>
      have inside : rules.findSome? (s.fault? ∘ KeyRule.below key) =
          rules.findSome? (fault? ⟨s.file, s.path ++ [key], entries⟩) :=
        findSome?_congr fun rule member => fault?_inside found (named rule member)
      rw [inside]
      exact present entries found
    | _ => rfl

theorem requiredString_eq (s : Section) (key : String) :
    s.requiredString key = match Dictionary.get? s.table key with
      | some (.string text) => .ok text
      | some v => .error (blamed s.file (s.path ++ [key], .kind .string) v)
      | none => .error (s.missingKey key) := by
  unfold requiredString blame present string? typed?
  cases Dictionary.get? s.table key with
  | none => rfl
  | some v => cases v <;> rfl

theorem switch_eq (s : Section) (key : String) (default : Bool) :
    s.switch key default = (flagAt? [key] s.table).getD default := by
  unfold switch flagAt? valueAt?
  cases Dictionary.get? s.table key with
  | none => rfl
  | some v => cases v <;> rfl

end Section

namespace Config

theorem durationOr_judged (s : Section) (key : String) (unit : Nat → Duration) (default : Duration) :
    durationOr s key unit default =
      s.judged [([key], .count)] (((countAt? [key] s.table).map unit).getD default) := by
  rw [Section.judged_cons]
  unfold durationOr Section.optionalInteger Section.blame Section.integer? Section.typed? Section.fault?
  unfold countAt? valueAt?
  dsimp only
  cases Dictionary.get? s.table key with
  | none => rfl
  | some v =>
    cases v with
    | integer n => by_cases positive : 0 ≤ n <;> simp [positive, Demand.admits, bind, Except.bind] <;> rfl
    | _ => rfl

end Config
end DeviceHarness
