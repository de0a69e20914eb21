import DeviceHarness.Toml.Document

/-! Every table of a document is in the order of its keys, and has each key once. Tables are sorted when they are
finished, so the values of a document are in order if those are of which it is made. -/

namespace DeviceHarness.Toml

private theorem bind_some {α β : Type} {found : Option α} {f : α → β} {b : β}
    (made : (do let a ← found; return f a) = some b) : ∃ a, found = some a ∧ f a = b := by
  obtain ⟨a, there, result⟩ := Option.bind_eq_some_iff.mp made
  exact ⟨a, there, Option.some.inj result⟩

/-- A value in which each table has its keys in ascending order. -/
inductive Value.Ordered : Value → Prop
  | leaf {v : Value} (single : v.isLeaf = true) : v.Ordered
  | array {items : List Value} (inside : ∀ item ∈ items, item.Ordered) : (Value.array items).Ordered
  | table {entries : List (String × Value)} (ascending : (Dictionary.keys entries).Pairwise (· < ·))
      (inside : ∀ entry ∈ entries, entry.2.Ordered) : (Value.table entries).Ordered

namespace Value

theorem Ordered.ascending {entries : List (String × Value)} (ordered : (Value.table entries).Ordered) :
    (Dictionary.keys entries).Pairwise (· < ·) := by
  cases ordered with
  | leaf single => cases single
  | table ascending inside => exact ascending

theorem Ordered.of_get? {t : Table} {key : String} {v : Value} (ordered : (Value.table t).Ordered)
    (there : Dictionary.get? t key = some v) : v.Ordered := by
  obtain ⟨before, after, split, -⟩ := List.lookup_eq_some_iff.mp there
  cases ordered with
  | leaf single => cases single
  | table ascending inside => exact inside (key, v) (split ▸ List.mem_append_right before List.mem_cons_self)

end Value

/-- A tree that holds only values in order. -/
inductive Tree.Ordered : Tree → Prop
  | value {v : Value} (ordered : v.Ordered) : (Tree.value v).Ordered
  | table {origin : Origin} {entries : List (String × Tree)} (inside : ∀ entry ∈ entries, entry.2.Ordered) :
      (Tree.table origin entries).Ordered
  | tables {earlier : List (List (String × Tree))} {last : List (String × Tree)}
      (before : ∀ entries ∈ earlier, ∀ entry ∈ entries, entry.2.Ordered)
      (inside : ∀ entry ∈ last, entry.2.Ordered) : (Tree.tables earlier last).Ordered

namespace OpenTable

def Ordered (t : OpenTable) : Prop := ∀ entry ∈ t.entries, entry.2.Ordered

variable {t u : OpenTable} {tree : Tree} {value : Value} {path : List String} {key : String}

theorem ordered_of_get? (ordered : t.Ordered) (there : t.get? key = some tree) : tree.Ordered := by
  obtain ⟨before, after, split, -⟩ := List.lookup_eq_some_iff.mp there
  exact ordered (key, tree) (split ▸ List.mem_append_right before List.mem_cons_self)

theorem ordered_put (ordered : t.Ordered) (new : tree.Ordered) : (t.put key tree).Ordered := by
  unfold put
  split
  · intro entry member
    obtain ⟨⟨other, old⟩, given, rfl⟩ := List.mem_map.mp member
    dsimp only
    split
    · exact new
    · exact ordered _ given
  · intro entry member
    rcases List.mem_append.mp member with old | last
    · exact ordered entry old
    · exact List.mem_singleton.mp last ▸ new

theorem ordered_putLast (ordered : t.Ordered) (new : tree.Ordered) : (t.putLast key tree).Ordered := by
  intro entry member
  rcases List.mem_append.mp member with old | last
  · exact ordered entry (List.mem_filter.mp old).1
  · exact List.mem_singleton.mp last ▸ new

/-- A change that keeps the order does so wherever a path leads. -/
theorem ordered_changeAt {byDots : Bool} {change : OpenTable → Option OpenTable}
    (kept : ∀ t u, t.Ordered → change t = some u → u.Ordered) (ordered : t.Ordered)
    (changed : changeAt byDots change path t = some u) : u.Ordered := by
  induction path generalizing t u with
  | nil => exact kept t u ordered changed
  | cons key path ih =>
    unfold changeAt at changed
    cases found : t.get? key with
    | none =>
      rw [found] at changed
      obtain ⟨child, made, rfl⟩ := bind_some changed
      exact ordered_put ordered (.table (ih (t := empty _) nofun made))
    | some tree =>
      rw [found] at changed
      cases ordered_of_get? ordered found with
      | value => cases changed
      | tables before inside =>
        obtain ⟨child, made, rfl⟩ := bind_some changed
        exact ordered_put ordered (.tables before (ih (t := ⟨_, _⟩) inside made))
      | table inside =>
        dsimp only at changed
        split at changed
        · cases changed
        · obtain ⟨child, made, rfl⟩ := bind_some changed
          exact ordered_put ordered (.table (ih (t := ⟨_, _⟩) inside made))

theorem ordered_define (new : value.Ordered) (ordered : t.Ordered) (defined : t.define path key value = some u) :
    u.Ordered := by
  refine ordered_changeAt (fun t u ordered changed => ?_) ordered defined
  split at changed
  · cases changed
  · cases changed
    exact ordered_put ordered (.value new)

theorem ordered_openTable (ordered : t.Ordered) (opened : t.openTable path key = some u) : u.Ordered := by
  refine ordered_changeAt (fun t u ordered changed => ?_) ordered opened
  split at changed
  next =>
    cases changed
    exact ordered_put ordered (.table nofun)
  next found =>
    cases changed
    cases ordered_of_get? ordered found with
    | table inside => exact ordered_putLast ordered (.table inside)
  next => cases changed

theorem ordered_openNext (ordered : t.Ordered) (opened : t.openNext path key = some u) : u.Ordered := by
  refine ordered_changeAt (fun t u ordered changed => ?_) ordered opened
  split at changed
  next =>
    cases changed
    exact ordered_put ordered (.tables nofun nofun)
  next found =>
    cases changed
    cases ordered_of_get? ordered found with
    | tables before inside =>
      refine ordered_put ordered (.tables (fun entries member => ?_) nofun)
      rcases List.mem_append.mp member with old | last
      · exact before entries old
      · exact List.mem_singleton.mp last ▸ inside
  next => cases changed

end OpenTable

/-! What is finished is sorted. -/

theorem ordered_ofList {entries : List (String × Value)} (inside : ∀ entry ∈ entries, entry.2.Ordered) :
    (Value.table (Dictionary.ofList entries)).Ordered :=
  .table (Dictionary.ascending_ofList entries) fun entry member => inside entry (Dictionary.mem_ofList member)

theorem ordered_tableValue? {entries : List (String × Value)} {v : Value} (inside : ∀ entry ∈ entries, entry.2.Ordered)
    (made : tableValue? entries = some v) : v.Ordered := by
  unfold tableValue? at made
  split at made
  next =>
    split at made
    · -- The table stands for a moment.
      split at made
      · obtain ⟨moment, -, rfl⟩ := Option.map_eq_some_iff.mp made
        exact .leaf rfl
      · cases made
    · cases made
      exact ordered_ofList inside
  next =>
    cases made
    exact .table List.Pairwise.nil nofun

mutual

theorem Tree.ordered_finish? {tree : Tree} {v : Value} (ordered : tree.Ordered) (finished : tree.finish? = some v) :
    v.Ordered := by
  match tree, ordered with
  | .value _, .value ordered =>
    cases finished
    exact ordered
  | .table _ entries, .table inside =>
    obtain ⟨values, each, made⟩ := Option.bind_eq_some_iff.mp finished
    exact ordered_tableValue? (ordered_finishEntries? inside each) made
  | .tables earlier last, .tables before inside =>
    obtain ⟨tables, all, rest⟩ := Option.bind_eq_some_iff.mp finished
    obtain ⟨values, each, one⟩ := Option.bind_eq_some_iff.mp rest
    obtain ⟨table, closed, made⟩ := Option.bind_eq_some_iff.mp one
    cases made
    refine .array fun item member => ?_
    rcases List.mem_append.mp member with old | final
    · exact ordered_finishTables? before all item old
    · exact List.mem_singleton.mp final ▸ ordered_tableValue? (ordered_finishEntries? inside each) closed

theorem ordered_finishEntries? {entries : List (String × Tree)} {values : List (String × Value)}
    (inside : ∀ entry ∈ entries, entry.2.Ordered) (finished : finishEntries? entries = some values) :
    ∀ entry ∈ values, entry.2.Ordered := by
  match entries with
  | [] =>
    cases finished
    nofun
  | (key, tree) :: rest =>
    obtain ⟨first, later⟩ := List.forall_mem_cons.mp inside
    obtain ⟨value, one, more⟩ := Option.bind_eq_some_iff.mp finished
    obtain ⟨others, all, made⟩ := Option.bind_eq_some_iff.mp more
    cases made
    exact List.forall_mem_cons.mpr ⟨tree.ordered_finish? first one, ordered_finishEntries? later all⟩

theorem ordered_finishTables? {tables : List (List (String × Tree))} {values : List Value}
    (inside : ∀ entries ∈ tables, ∀ entry ∈ entries, entry.2.Ordered)
    (finished : finishTables? tables = some values) : ∀ value ∈ values, value.Ordered := by
  match tables with
  | [] =>
    cases finished
    nofun
  | entries :: rest =>
    obtain ⟨first, later⟩ := List.forall_mem_cons.mp inside
    obtain ⟨pairs, each, one⟩ := Option.bind_eq_some_iff.mp finished
    obtain ⟨table, closed, more⟩ := Option.bind_eq_some_iff.mp one
    obtain ⟨others, all, made⟩ := Option.bind_eq_some_iff.mp more
    cases made
    exact List.forall_mem_cons.mpr
      ⟨ordered_tableValue? (ordered_finishEntries? first each) closed, ordered_finishTables? later all⟩

end

/-! What is read is in order. -/

open Reader

variable {inner : Reader Value}

theorem definition_yields (read : inner.Yields Value.Ordered) :
    (definition inner).Yields fun (_, _, v) => v.Ordered :=
  yields_bind _ fun _ => yields_bind _ fun _ => yields_bind _ fun _ => read.bind fun _ ordered => yields_pure ordered

theorem array_yields (read : inner.Yields Value.Ordered) : (array inner).Yields Value.Ordered := by
  have item : (do gap; let item ← inner; gap; return item).Yields Value.Ordered :=
    yields_bind _ fun _ => read.bind fun _ ordered => yields_bind _ fun _ => yields_pure ordered
  refine yields_bind _ fun _ => (item.separated _).optional.bind fun items ordered => ?_
  have inside : (Value.array (items.getD [])).Ordered := .array <| by
    cases items with
    | none => nofun
    | some items => exact ordered items rfl
  dsimp only
  split
  all_goals exact yields_bind _ fun _ => yields_bind _ fun _ => yields_bind _ fun _ => yields_pure inside

theorem ordered_defineAll {pairs : List (List String × String × Value)} {t u : OpenTable}
    (inside : ∀ pair ∈ pairs, pair.2.2.Ordered) (ordered : t.Ordered) (defined : defineAll pairs t = some u) :
    u.Ordered := by
  induction pairs generalizing t with
  | nil =>
    cases defined
    exact ordered
  | cons pair rest ih =>
    obtain ⟨path, key, value⟩ := pair
    obtain ⟨first, later⟩ := List.forall_mem_cons.mp inside
    obtain ⟨next, one, more⟩ := Option.bind_eq_some_iff.mp defined
    exact ih later (OpenTable.ordered_define first ordered one) more

theorem inlineTable_yields (read : inner.Yields Value.Ordered) : (inlineTable inner).Yields Value.Ordered := by
  have pair : (do let pair ← definition inner; white; return pair).Yields fun pair => pair.2.2.Ordered :=
    (definition_yields read).bind fun _ ordered => yields_bind _ fun _ => yields_pure ordered
  refine yields_bind _ fun _ => (pair.separated _).optional.bind fun pairs ordered => ?_
  refine yields_bind _ fun _ => yields_bind _ fun _ => ?_
  split
  next t defined =>
    have inside : t.Ordered := by
      refine ordered_defineAll ?_ (t := .empty .stated) nofun defined
      cases pairs with
      | none => nofun
      | some pairs => exact ordered pairs rfl
    split
    next table made =>
      obtain ⟨entries, finished, closed⟩ := Option.bind_eq_some_iff.mp made
      exact yields_pure (ordered_tableValue? (ordered_finishEntries? inside finished) closed)
    next => exact yields_fail
  next => exact yields_fail

theorem value_yields (depth : Nat) : (value depth).Yields Value.Ordered := by
  have text : (Value.string <$> string).Yields Value.Ordered := yields_map string fun _ => .leaf rfl
  have single : scalar.Yields Value.Ordered := fun _ _ _ read => .leaf (scalar_yields _ _ _ read)
  induction depth with
  | zero => exact text.orElse single
  | succ depth ih => exact text.orElse ((array_yields ih).orElse ((inlineTable_yields ih).orElse single))

/-- A statement that gives only a value in order. -/
def Statement.Ordered : Statement → Prop
  | .define _ _ v => v.Ordered
  | _ => True

theorem statement_yields : statement.Yields Statement.Ordered := by
  refine yields_bind _ fun _ => yields_bind _ fun next => ?_
  split
  · exact yields_pure trivial
  · exact yields_bind _ fun _ => yields_bind _ fun _ => yields_pure trivial
  · exact yields_bind _ fun _ => yields_pure trivial
  · exact yields_bind _ fun _ => yields_pure trivial
  · refine yields_bind _ fun _ => yields_bind _ fun next => ?_
    split
    · exact yields_bind _ fun _ => yields_bind _ fun _ => yields_bind _ fun _ => yields_bind _ fun _ =>
        yields_pure trivial
    · exact yields_bind _ fun _ => yields_bind _ fun _ => yields_bind _ fun _ => yields_pure trivial
  · exact (definition_yields (value_yields deepest)).bind fun _ ordered => yields_bind _ fun _ => yields_pure ordered

theorem Draft.ordered_accept {d next : Draft} {said : Statement} (ordered : d.root.Ordered) (new : said.Ordered)
    (accepted : d.accept said = some next) : next.root.Ordered := by
  cases said with
  | nothing =>
    cases accepted
    exact ordered
  | define path key value =>
    obtain ⟨root, changed, rfl⟩ := Option.map_eq_some_iff.mp accepted
    exact OpenTable.ordered_changeAt (fun _ _ ordered => OpenTable.ordered_define new ordered) ordered changed
  | heading path key =>
    obtain ⟨root, opened, rfl⟩ := Option.map_eq_some_iff.mp accepted
    exact OpenTable.ordered_openTable ordered opened
  | doubledHeading path key =>
    obtain ⟨root, opened, rfl⟩ := Option.map_eq_some_iff.mp accepted
    exact OpenTable.ordered_openNext ordered opened

theorem ordered_statements {rounds : Nat} {d last : Draft} {s : List Char} (ordered : d.root.Ordered)
    (read : statements rounds d s = .ok last) : last.root.Ordered := by
  induction rounds generalizing d s with
  | zero =>
    unfold statements at read
    split at read <;> cases read
    exact ordered
  | succ rounds ih =>
    unfold statements at read
    split at read
    · cases read
      exact ordered
    · split at read
      · cases read
      next said rest found =>
        split at read
        · cases read
        next next accepted => exact ih (Draft.ordered_accept ordered (statement_yields _ _ _ found) accepted) read

theorem document_ordered {text : String} {t : Table} (read : document text = .ok t) : (Value.table t).Ordered := by
  unfold document at read
  dsimp only at read
  split at read
  next d complete =>
    have ordered : d.root.Ordered := ordered_statements (d := ⟨.empty .stated, []⟩) nofun complete
    split at read
    next entries finished =>
      cases read
      exact ordered_ofList (ordered_finishEntries? ordered finished)
    next => cases read
  next => cases read

end DeviceHarness.Toml
