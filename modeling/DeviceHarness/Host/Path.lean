import DeviceHarness.Text.Split

/-! Paths of the host. Slashes separate the components, repeated slashes count once, and a component
that is a single point stands for nothing. -/

namespace DeviceHarness.Path

def isAbsolute (path : String) : Bool := path.toList.head? == some '/'

/-- What stands between the slashes of a path, single points included. -/
def parts (path : String) : List String := (Text.fieldsAt (· == '/') path.toList).map String.ofList

/-- The components of a path. -/
def components (path : String) : List String := (parts path).filter (· != ".")

/-- The name of the file that a path leads to. A path that ends in two points names none, and
neither does a path without components. -/
def fileName? (path : String) : Option String :=
  match (components path).getLast? with
  | some ".." => none
  | last => last

/-- What follows the last point of the file name. A point at the very start does not count. -/
def extension? (path : String) : Option String := do
  let name ← fileName? path
  match name.toList.reverse.dropWhile (· != '.') with
  | [] | ['.'] => none
  | _ :: _ => some (String.ofList (name.toList.reverse.takeWhile (· != '.')).reverse)

def hasExtension (path extension : String) : Bool := extension? path == some extension

/-- A path taken relative to another one. An absolute path stays as it is. -/
def join (base path : String) : String :=
  if isAbsolute path || base.isEmpty then path
  else if base.toList.getLast? == some '/' then base ++ path
  else base ++ "/" ++ path

/-- A path of components. -/
def ofComponents (absolute : Bool) (names : List String) : String :=
  (if absolute then "/" else "") ++ String.intercalate "/" names

/-- The path of the folder that holds what an absolute path leads to. -/
def parent (path : String) : String := ofComponents true (components path).dropLast

/-- A path, and the paths of the folders above it, the nearest first. -/
def upward (path : String) : List String :=
  let names := components path
  let above := (List.range names.length).reverse.map fun n =>
    ofComponents (isAbsolute path) (names.take n)
  path :: above.filter (!·.isEmpty)

theorem not_slash_of_mem_components {path name : String} (member : name ∈ components path) : '/' ∉ name.toList := by
  obtain ⟨piece, found, rfl⟩ := List.mem_map.mp (List.mem_filter.mp member).1
  rw [String.toList_ofList]
  intro slash
  simpa using Text.not_separator_of_mem_pieces (List.mem_filter.mp found).1 '/' slash

theorem mem_components_of_fileName? {path name : String} (named : fileName? path = some name) : name ∈ components path := by
  unfold fileName? at named
  split at named
  · cases named
  · exact List.mem_of_getLast? named

/-- A name below a path is one more component. -/
theorem components_below {name : String} (slashless : '/' ∉ name.toList) (filled : name ≠ "") (actual : name ≠ ".")
    (base : String) : components (base ++ "/" ++ name) = components base ++ [name] := by
  have whole : Text.pieces (· == '/') name.toList = [name.toList] :=
    Text.pieces_plain fun c member => by
      simpa using fun same : c = '/' => slashless (same ▸ member)
  have cut : (base ++ "/" ++ name).toList = base.toList ++ '/' :: name.toList := by simp
  have kept : name.toList.isEmpty = false := by simpa using filled
  simp [components, parts, Text.fieldsAt, cut, Text.pieces_separated, whole, kept, actual]

end DeviceHarness.Path
