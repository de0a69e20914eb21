import DeviceHarness.Checkin.Dump

/-! What the reading of a dump yields, line by line and without a version that is carried along. Lines are counted
with the blank ones, though only the others are read. A line that has no tag is passed over, and a `vers` line that
declares nothing is a record like any other, so neither changes the version of the records after it. -/

namespace DeviceHarness.Checkin

def numberedLines (text : String) : List (String × Nat) :=
  ((Text.lines text).zipIdx 1).filter fun (line, _) => !Text.blank line

/-- The version declared by the nearest record that declares one, looking back from the end. -/
def Format.lastDeclaration? (format : Format) (items : List Item) : Option Int :=
  (items.filterMap fun item => item.content.toOption.bind format.declaredVersion).getLast?

/-- An item is what its line says, after the items before it. -/
structure Item.Reads (item : Item) (format : Format) (before : List Item) (number : Nat) (line : String) : Prop where
  failed : (∃ e, item.content = .error e) ↔ (format.split line).length ≤ format.tagIndex
  assertion : ∀ e, item.content = .error e → e.isAssertion = true
  record : ∀ r, item.content = .ok r →
    r = ⟨number, format.lastDeclaration? before, format.tagIndex, format.split line⟩
  version : item.versionAfter = format.lastDeclaration? (before ++ [item])

/-- Items are what lines with their positions are read as. -/
structure Dump.Reads (format : Format) (lines : List (String × Nat)) (items : List Item) : Prop where
  count : items.length = lines.length
  each : ∀ (k : Nat) (item : Item) (line : String) (number : Nat), items[k]? = some item →
    lines[k]? = some (line, number) → item.Reads format (items.take k) number line
  /-- The version after an item is that of the next record, whatever fails in between. -/
  carried : ∀ before item failures next after r, items = before ++ item :: (failures ++ next :: after) →
    (∀ other ∈ failures, ∃ e, other.content = .error e) → next.content = .ok r → r.version = item.versionAfter

variable {format : Format}

theorem Format.lastDeclaration?_append (items : List Item) (item : Item) :
    format.lastDeclaration? (items ++ [item]) =
      (item.content.toOption.bind format.declaredVersion).or (format.lastDeclaration? items) := by
  unfold Format.lastDeclaration?
  cases declared : item.content.toOption.bind format.declaredVersion <;>
    simp [List.filterMap_append, declared]

theorem Format.lastDeclaration?_failures {failures : List Item} (items : List Item)
    (failed : ∀ other ∈ failures, ∃ e, other.content = .error e) :
    format.lastDeclaration? (items ++ failures) = format.lastDeclaration? items := by
  have nothing : (failures.filterMap fun item => item.content.toOption.bind format.declaredVersion) = [] := by
    apply List.filterMap_eq_nil_iff.mpr
    intro other member
    obtain ⟨e, content⟩ := failed other member
    rw [content]
    rfl
  rw [Format.lastDeclaration?, List.filterMap_append, nothing, List.append_nil, Format.lastDeclaration?]

theorem Dump.item_reads (before : List Item) (number : Nat) (line : String) :
    (Dump.item format number (format.lastDeclaration? before) line).Reads format before number line := by
  unfold Dump.item
  dsimp only
  split
  next short =>
    refine ⟨⟨fun _ => short, fun _ => ⟨_, rfl⟩⟩, ?_, nofun, ?_⟩
    · intro e content
      cases content
      rfl
    · rw [Format.lastDeclaration?_append]
      rfl
  next long =>
    refine ⟨⟨nofun, fun short => absurd short long⟩, nofun, ?_, ?_⟩
    · intro r content
      cases content
      rfl
    · rw [Format.lastDeclaration?_append]
      rfl

theorem Dump.itemsFrom_reads (format : Format) (earlier : List Item) (number : Nat) (lines : List String) :
    let items := itemsFrom format number (format.lastDeclaration? earlier) lines
    let numbered := (lines.zipIdx number).filter fun (line, _) => !Text.blank line
    items.length = numbered.length ∧
      ∀ (k : Nat) (item : Item) (line : String) (position : Nat), items[k]? = some item →
        numbered[k]? = some (line, position) → item.Reads format (earlier ++ items.take k) position line := by
  -- The version that the reading carries along is always the last one that the items so far declare.
  induction lines generalizing earlier number with
  | nil => exact ⟨rfl, nofun⟩
  | cons line rest ih =>
    cases spoken : Text.blank line with
    | true =>
      rw [itemsFrom, if_pos spoken, List.zipIdx_cons, List.filter_cons_of_neg (by simp [spoken])]
      exact ih earlier (number + 1)
    | false =>
      have first : (item format number (format.lastDeclaration? earlier) line).Reads format earlier number line :=
        item_reads earlier number line
      have later := ih (earlier ++ [item format number (format.lastDeclaration? earlier) line]) (number + 1)
      rw [← first.version] at later
      rw [itemsFrom, if_neg (by simp [spoken]), List.zipIdx_cons, List.filter_cons_of_pos (by simp [spoken])]
      refine ⟨congrArg (· + 1) later.1, ?_⟩
      intro k item other position atItem atLine
      cases k with
      | zero =>
        cases atItem
        cases atLine
        simpa using first
      | succ k => simpa using later.2 k item other position atItem atLine

theorem Dump.Reads.of_each {lines : List (String × Nat)} {items : List Item} (count : items.length = lines.length)
    (each : ∀ (k : Nat) (item : Item) (line : String) (number : Nat), items[k]? = some item →
      lines[k]? = some (line, number) → item.Reads format (items.take k) number line) :
    Dump.Reads format lines items := by
  refine ⟨count, each, ?_⟩
  have reads (before : List Item) (item : Item) (after : List Item) (same : items = before ++ item :: after) :
      ∃ number line, item.Reads format before number line := by
    have inside : before.length < lines.length := by
      rw [← count, same]
      simp
    have found := each before.length item lines[before.length].1 lines[before.length].2 (by simp [same])
      (List.getElem?_eq_getElem inside)
    rw [same, List.take_left' rfl] at found
    exact ⟨_, _, found⟩
  intro before item failures next after r same failed content
  obtain ⟨_, _, itemReads⟩ := reads before item _ same
  have split : items = (before ++ item :: failures) ++ next :: after := by simp [same]
  obtain ⟨number, line, nextReads⟩ := reads _ next after split
  have version := congrArg Record.version (nextReads.record r content)
  have through : before ++ item :: failures = (before ++ [item]) ++ failures := by simp
  rw [version, itemReads.version, through]
  exact Format.lastDeclaration?_failures _ failed

/-- Reading a dump yields one item for each line that is not blank, in order, and each is what its line says. -/
theorem Dump.items_follow_lines (format : Format) (text : String) (answered : Text.blank text = false) :
    ∃ items, Dump.items format text = .ok items ∧ Dump.Reads format (numberedLines text) items := by
  obtain ⟨count, each⟩ := Dump.itemsFrom_reads format [] 1 (Text.lines text)
  refine ⟨itemsFrom format 1 none (Text.lines text), by simp [items, answered], ?_⟩
  exact Dump.Reads.of_each count each

/-- Of five lines the second is blank, the third has no tag, and the fourth is a `vers` line that declares nothing. -/
theorem Dump.items_follow_lines_five :
    let text := "9,0,i,vers,14,1,a,b\n\n9,,\n9,0,i,vers,x\n9,0,i,uid,1,a\n"
    Text.blank text = false ∧ ∃ items, Dump.items .batterystats text = .ok items ∧ items.length = 4 ∧
      ∀ item r, items[3]? = some item → item.content = .ok r → r = ⟨5, some 14, 3, ["9", "0", "i", "uid", "1", "a"]⟩ := by
  intro text
  have answered : Text.blank text = false := by decide +kernel
  have lines : numberedLines text =
      [("9,0,i,vers,14,1,a,b", 1), ("9,,", 3), ("9,0,i,vers,x", 4), ("9,0,i,uid,1,a", 5)] := by decide +kernel
  have declared : Format.batterystats.lastDeclaration? ((itemsFrom .batterystats 1 none (Text.lines text)).take 3) =
      some 14 := by decide +kernel
  have split : Format.batterystats.split "9,0,i,uid,1,a" = ["9", "0", "i", "uid", "1", "a"] := by decide +kernel
  obtain ⟨items, read, reads⟩ := Dump.items_follow_lines .batterystats text answered
  rw [lines] at reads
  refine ⟨answered, items, read, reads.count, ?_⟩
  intro item r found content
  have same := (reads.each 3 item _ 5 found rfl).record r content
  rw [Dump.items, answered] at read
  obtain rfl := Except.ok.inj read
  rwa [declared, split] at same

end DeviceHarness.Checkin
