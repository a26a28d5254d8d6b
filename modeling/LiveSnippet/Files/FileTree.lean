import LiveSnippet.Files.FileSystem
import LiveSnippet.Files.Path

/-!
# File trees

Files as a value: the files and directories below a working directory. Paths are looked up from the
working directory; absolute paths and paths that lead out of it lead nowhere.

## Main definitions

* `FileTree`, `FileTree.addFile`, `FileTree.addDirectory`
* `FileTree.find?`: where a path leads
* `FileTree.system`: a tree as a file system
-/

namespace LiveSnippet

/-- The files and directories below a working directory. -/
structure FileTree where
  /-- Every file with its text, if it is one. -/
  files : List (List Text × Option Text)
  /-- The directories that need not hold anything. -/
  directories : List (List Text)
deriving DecidableEq, Repr

namespace FileTree

/-- The tree without files. -/
def empty : FileTree := ⟨[], []⟩

/-- The place that a path names in a tree to which it is added. -/
def place (path : Text) : List Text := (Path.pieces path).filter (!Path.isIdle ·)

/-- Adds a file, in the place of one that is there. -/
def addFile (t : FileTree) (path : Text) (text : Option Text) : FileTree :=
  { t with files := (place path, text) :: t.files.filter (·.1 != place path) }

/-- Adds a directory. -/
def addDirectory (t : FileTree) (path : Text) : FileTree :=
  { t with directories := place path :: t.directories }

/-- Whether there is a file at a place. -/
def holdsFile (t : FileTree) (place : List Text) : Bool := t.files.any (·.1 == place)

/-- All places that are known to hold something. -/
def places (t : FileTree) : List (List Text) := t.files.map (·.1) ++ t.directories

/-- The names right below a place. -/
def namesBelow (t : FileTree) (place : List Text) : List Text :=
  (t.places.filterMap fun p => (place.isPrefixOf? p).bind List.head?).eraseDups

/-- Whether there is a directory at a place. -/
def holdsDirectory (t : FileTree) (place : List Text) : Bool :=
  place.isEmpty || t.directories.contains place || !(t.namesBelow place).isEmpty

/-- Where pieces of a path lead from a place. Only from a directory a path leads on. -/
def walk (t : FileTree) (place : List Text) : List Text → Option (List Text)
  | [] => some place
  | piece :: rest =>
    if !t.holdsDirectory place then none
    else if Path.isIdle piece then walk t place rest
    else if piece = ['.', '.'] then
      if place.isEmpty then none else walk t place.dropLast rest
    else walk t (place ++ [piece]) rest

/-- Where a path leads. -/
def find? (t : FileTree) (path : Text) : Option (List Text) :=
  if path.isEmpty || Path.isAbsolute path then none else t.walk [] (Path.pieces path)

/-- A tree as a file system. -/
def system (t : FileTree) : FileSystem Id where
  list path :=
    match t.find? path with
    | some place => if t.holdsDirectory place then .names (t.namesBelow place) else .missing
    | none => .missing
  read? path := (t.find? path).bind fun place => (t.files.lookup place).join
  isFile path := (t.find? path).any t.holdsFile

end FileTree

end LiveSnippet
