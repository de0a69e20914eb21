import DeviceHarness.Host.Path

/-! The files of the host: text files, programs and folders, each under the components of its
absolute path. The root is always a folder. -/

namespace DeviceHarness

inductive Node where
  | file (text : String)
  | program
  | folder
  deriving Repr, DecidableEq

/-- Why a path cannot be used. -/
inductive FileFault where
  | notFound
  | notAFolder
  | isAFolder
  | inTheWay
  | denied
  | nameTooLong
  | nullCharacter
  deriving Repr, DecidableEq

/-- The operating system's words. -/
def FileFault.message : FileFault → String
  | notFound => "No such file or directory (os error 2)"
  | notAFolder => "Not a directory (os error 20)"
  | isAFolder => "Is a directory (os error 21)"
  | inTheWay => "File exists (os error 17)"
  | denied => "Permission denied (os error 13)"
  | nameTooLong => "File name too long (os error 36)"
  | nullCharacter => "file name contained an unexpected NUL byte"

/-- Absolute paths, as components, with what is there. -/
structure FileTree where
  nodes : List (List String × Node)
  deriving Repr, DecidableEq

namespace FileTree

def empty : FileTree := ⟨[]⟩

def node? (tree : FileTree) (place : List String) : Option Node :=
  if place.isEmpty then some .folder else tree.nodes.lookup place

def put (tree : FileTree) (place : List String) (node : Node) : FileTree :=
  ⟨(place, node) :: tree.nodes.filter fun (other, _) => other != place⟩

/-- Removes a file, or a folder and all below it. -/
def remove (tree : FileTree) (place : List String) : FileTree :=
  ⟨tree.nodes.filter fun (other, _) => !place.isPrefixOf other⟩

/-- The most bytes that a name may have. -/
def longestName : Nat := 255

/-- The most bytes that a path may have. -/
def longestPath : Nat := 4095

/-- Refuses texts that are no paths, whatever files there are. -/
def checkPath (path : String) : Except FileFault Unit :=
  if path.toList.contains '\x00' then .error .nullCharacter
  else if path.isEmpty then .error .notFound
  else if longestPath < path.utf8ByteSize then .error .nameTooLong
  else .ok ()

/-- Where a path starts. -/
def start (workdir : List String) (path : String) : List String :=
  if Path.isAbsolute path then [] else workdir

/-- Follows the parts of a path from a folder. Only folders can be entered or left, and a single point
stays where it is, which takes a folder too. -/
def follow (tree : FileTree) (place : List String) : List String → Except FileFault (List String)
  | [] => .ok place
  | name :: rest =>
    match tree.node? place with
    | none => .error .notFound
    | some .folder =>
      if name = "." then tree.follow place rest
      else if name = ".." then tree.follow place.dropLast rest
      else if longestName < name.utf8ByteSize then .error .nameTooLong
      else tree.follow (place ++ [name]) rest
    | some _ => .error .notAFolder

/-- The parts that lead all the way. A slash at the end asks for a folder, as a single point does. -/
def steps (path : String) : List String :=
  Path.parts path ++ if path.toList.getLast? == some '/' then ["."] else []

/-- The place and node that a path leads to, from a working folder. -/
def find (tree : FileTree) (workdir : List String) (path : String) :
    Except FileFault (List String × Node) := do
  checkPath path
  let place ← tree.follow (start workdir path) (steps path)
  match tree.node? place with
  | none => throw .notFound
  | some node => return (place, node)

def present (tree : FileTree) (workdir : List String) (path : String) : Bool :=
  (tree.find workdir path).isOk

def isFile (tree : FileTree) (workdir : List String) (path : String) : Bool :=
  match tree.find workdir path with
  | .ok (_, .file _) | .ok (_, .program) => true
  | _ => false

def isFolder (tree : FileTree) (workdir : List String) (path : String) : Bool :=
  match tree.find workdir path with
  | .ok (_, .folder) => true
  | _ => false

def read (tree : FileTree) (workdir : List String) (path : String) : Except FileFault String := do
  match ← tree.find workdir path with
  | (_, .file text) => return text
  | (_, .program) => return ""
  | (_, .folder) => throw .isAFolder

/-- Creates one folder inside a folder that is there. Slashes at the end of its path say nothing more. -/
def createFolder (tree : FileTree) (workdir : List String) (path : String) :
    Except FileFault FileTree := do
  checkPath path
  match (Path.parts path).getLast? with
  | none => throw .inTheWay
  | some name =>
    let above ← tree.follow (start workdir path) ((Path.parts path).dropLast ++ ["."])
    if name = "." || name = ".." then throw .inTheWay
    else if longestName < name.utf8ByteSize then throw .nameTooLong
    else if (tree.node? (above ++ [name])).isSome then throw .inTheWay
    else return tree.put (above ++ [name]) .folder

/-- Removes a folder and all in it. -/
def removeFolder (tree : FileTree) (workdir : List String) (path : String) :
    Except FileFault FileTree := do
  match ← tree.find workdir path with
  | (place, .folder) => return tree.remove place
  | (_, .file _) | (_, .program) => throw .notAFolder

/-- Makes sure that the first path leads to a folder. Where it lacks the folder to be in, the paths after
it come first. What was created stays, whether the rest succeeds or not. -/
def createFirst (workdir : List String) : List String → FileTree → Except FileFault Unit × FileTree
  | [], tree => (.ok (), tree)
  | path :: above, tree =>
    let settle (tree : FileTree) : Except FileFault Unit × FileTree :=
      match tree.createFolder workdir path with
      | .ok next => (.ok (), next)
      | .error fault => (if tree.isFolder workdir path then .ok () else .error fault, tree)
    match tree.createFolder workdir path with
    | .error .notFound =>
      match createFirst workdir above tree with
      | (.ok (), tree) => settle tree
      | failed => failed
    | _ => settle tree

/-- Creates a folder and those on the way to it. -/
def createFolders (tree : FileTree) (workdir : List String) (path : String) :
    Except FileFault Unit × FileTree :=
  createFirst workdir (Path.upward path) tree

end FileTree
end DeviceHarness
