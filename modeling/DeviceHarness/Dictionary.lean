/-! Names with values, and sets of names, both in the order of their characters. The order is what
reports show, and it makes equal contents equal values. -/

namespace DeviceHarness

/-- Pairs in ascending order of their names. -/
abbrev Dictionary (α : Type) := List (String × α)

namespace Dictionary

variable {α : Type}

def get? (d : Dictionary α) (name : String) : Option α := List.lookup name d

/-- The last value given for a name stays. -/
def insert (name : String) (value : α) : Dictionary α → Dictionary α
  | [] => [(name, value)]
  | (other, kept) :: rest =>
    if name = other then (name, value) :: rest
    else if name < other then (name, value) :: (other, kept) :: rest
    else (other, kept) :: insert name value rest

def ofList (pairs : List (String × α)) : Dictionary α :=
  pairs.foldl (fun d (name, value) => d.insert name value) []

/-- Changes the value of a name that is present. -/
def modify (name : String) (change : α → α) (d : Dictionary α) : Dictionary α :=
  d.map fun (other, value) => if other = name then (other, change value) else (other, value)

/-- Takes a name away. -/
def erase (d : Dictionary α) (name : String) : Dictionary α := d.filter fun (other, _) => other != name

def keys (d : Dictionary α) : List String := d.map Prod.fst

def contains (d : Dictionary α) (name : String) : Bool := (d.get? name).isSome

theorem get?_nil (name : String) : get? ([] : Dictionary α) name = none := rfl

theorem get?_cons (d : Dictionary α) (name other : String) (value : α) :
    get? ((name, value) :: d) other = if other = name then some value else d.get? other := by
  unfold get?
  rw [List.lookup_cons]
  by_cases same : other = name
  · simp [same]
  · simp [same, beq_false_of_ne same]

theorem get?_insert (d : Dictionary α) (name other : String) (value : α) :
    get? (insert name value d) other = if other = name then some value else d.get? other := by
  induction d with
  | nil => exact get?_cons [] name other value
  | cons head rest ih =>
    obtain ⟨first, kept⟩ := head
    unfold insert
    split
    next same =>
      subst same
      by_cases same : other = name <;> simp [get?_cons, same]
    next different =>
      split
      next => rw [get?_cons]
      next =>
        rw [get?_cons, ih, get?_cons]
        by_cases same : other = name
        · simp [same, different]
        · simp [same]

theorem get?_modify (d : Dictionary α) (name other : String) (change : α → α) :
    get? (modify name change d) other = if other = name then (d.get? name).map change else d.get? other := by
  induction d with
  | nil => simp [get?, modify]
  | cons head rest ih =>
    obtain ⟨first, kept⟩ := head
    rw [modify, List.map_cons, ← modify]
    by_cases named : first = name
    · subst named
      by_cases same : other = first <;> simp [get?_cons, ih, same]
    · by_cases same : other = first
      · simp [get?_cons, same, named]
      · simp [get?_cons, ih, same, named, Ne.symm named]

theorem modify_cons (d : Dictionary α) (name other : String) (value : α) (change : α → α) :
    modify name change ((other, value) :: d) =
      (other, if other = name then change value else value) :: d.modify name change := by
  simp only [modify, List.map_cons]
  split <;> rfl

theorem modify_absent {d : Dictionary α} {name : String} (absent : d.get? name = none) (change : α → α) :
    d.modify name change = d := by
  induction d with
  | nil => rfl
  | cons head rest ih =>
    obtain ⟨other, value⟩ := head
    rw [get?_cons] at absent
    split at absent
    next => cases absent
    next different => rw [modify_cons, if_neg (Ne.symm different), ih absent]

theorem modify_insert {d : Dictionary α} {name : String} (absent : d.get? name = none) (value : α)
    (change : α → α) : (d.insert name value).modify name change = d.insert name (change value) := by
  induction d with
  | nil => rw [insert, modify_cons, if_pos rfl]; rfl
  | cons head rest ih =>
    obtain ⟨other, kept⟩ := head
    have later := absent
    rw [get?_cons] at later
    split at later
    next => cases later
    next different =>
      unfold insert
      rw [if_neg different, if_neg different]
      split
      next => rw [modify_cons, if_pos rfl, modify_absent absent]
      next => rw [modify_cons, if_neg (Ne.symm different), ih later]

end Dictionary

/-- Names in ascending order, each once. -/
abbrev NameSet := List String

namespace NameSet

def insert (name : String) : NameSet → NameSet
  | [] => [name]
  | other :: rest =>
    if name = other then other :: rest
    else if name < other then name :: other :: rest
    else other :: insert name rest

def ofList (names : List String) : NameSet := names.foldl (fun set name => insert name set) []

theorem mem_insert {name other : String} {set : NameSet} :
    other ∈ insert name set ↔ other = name ∨ other ∈ set := by
  induction set with
  | nil => simp [insert]
  | cons head rest ih =>
    unfold insert
    split
    next same => subst same; simp
    next => split
            · simp
            · simp [ih, or_left_comm]

theorem ascending_insert {name : String} {set : NameSet} (ascending : set.Pairwise (· < ·)) :
    (insert name set).Pairwise (· < ·) := by
  induction set with
  | nil => simp [insert]
  | cons head rest ih =>
    obtain ⟨above, ascendingRest⟩ := List.pairwise_cons.mp ascending
    unfold insert
    split
    next => exact ascending
    next different =>
      split
      next below =>
        refine List.pairwise_cons.mpr ⟨?_, ascending⟩
        rintro other (_ | ⟨_, later⟩)
        · exact below
        · exact String.lt_trans below (above other later)
      next notBelow =>
        refine List.pairwise_cons.mpr ⟨?_, ih ascendingRest⟩
        intro other member
        rcases mem_insert.mp member with rfl | later
        · have upTo := String.not_lt.mp notBelow
          exact Decidable.byContradiction fun notAbove =>
            different (String.le_antisymm (String.not_lt.mp notAbove) upTo)
        · exact above other later

end NameSet

namespace Dictionary

variable {α : Type}

theorem mem_insert {name : String} {value : α} {d : Dictionary α} {entry : String × α}
    (member : entry ∈ insert name value d) : entry = (name, value) ∨ entry ∈ d := by
  induction d with
  | nil => exact .inl (List.mem_singleton.mp member)
  | cons head rest ih =>
    unfold insert at member
    split at member
    · rcases List.mem_cons.mp member with first | later
      · exact .inl first
      · exact .inr (List.mem_cons_of_mem _ later)
    · split at member
      · exact List.mem_cons.mp member
      · rcases List.mem_cons.mp member with first | later
        · exact .inr (first ▸ List.mem_cons_self)
        · exact (ih later).imp_right (List.mem_cons_of_mem _)

theorem keys_insert (name : String) (value : α) (d : Dictionary α) :
    (insert name value d).keys = NameSet.insert name d.keys := by
  induction d with
  | nil => rfl
  | cons head rest ih =>
    unfold insert
    show _ = NameSet.insert name (head.1 :: keys rest)
    unfold NameSet.insert
    split
    next same => rw [← same]; rfl
    next =>
      split
      next => rfl
      next =>
        rw [← ih]
        rfl

/-- Inserting pairs in turn keeps what holds of a dictionary. -/
theorem ofList_induction {motive : Dictionary α → Prop} {pairs : List (String × α)} (empty : motive [])
    (inserted : ∀ pair ∈ pairs, ∀ d, motive d → motive (insert pair.1 pair.2 d)) : motive (ofList pairs) := by
  have kept (d : Dictionary α) (start : motive d) :
      motive (pairs.foldl (fun d (name, value) => d.insert name value) d) := by
    induction pairs generalizing d with
    | nil => exact start
    | cons pair rest ih =>
      obtain ⟨first, later⟩ := List.forall_mem_cons.mp inserted
      exact ih later _ (first d start)
  exact kept [] empty

theorem mem_ofList {pairs : List (String × α)} {entry : String × α} (member : entry ∈ ofList pairs) : entry ∈ pairs := by
  refine ofList_induction (motive := fun d => ∀ entry ∈ d, entry ∈ pairs) nofun (fun pair given d held => ?_) entry member
  intro entry inside
  rcases mem_insert inside with same | before
  · exact same ▸ given
  · exact held entry before

theorem ascending_ofList (pairs : List (String × α)) : (ofList pairs).keys.Pairwise (· < ·) :=
  ofList_induction (motive := fun d => d.keys.Pairwise (· < ·)) List.Pairwise.nil fun pair _ d ascending =>
    keys_insert pair.1 pair.2 d ▸ NameSet.ascending_insert ascending

theorem get?_of_mem {d : Dictionary α} (ascending : d.keys.Pairwise (· < ·)) {entry : String × α} (member : entry ∈ d) :
    d.get? entry.1 = some entry.2 := by
  induction d with
  | nil => cases member
  | cons head rest ih =>
    obtain ⟨above, ascendingRest⟩ := List.pairwise_cons.mp ascending
    rw [get?_cons]
    rcases List.mem_cons.mp member with rfl | later
    · exact if_pos rfl
    · have different : entry.1 ≠ head.1 := fun same =>
        String.lt_irrefl _ (same ▸ above entry.1 (List.mem_map_of_mem later))
      rw [if_neg different]
      exact ih ascendingRest later

end Dictionary
end DeviceHarness
