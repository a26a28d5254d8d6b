import LiveSnippet.Text.Search

/-!
# Paths

A path is a text whose pieces are separated by slashes. Paths are put together and taken apart as
they are written; nothing is looked up and nothing is normalised.

## Main definitions

* `Path.join`, `Path.parent`
* `Path.stem`, `Path.extension?`: the parts of a file name
-/

namespace LiveSnippet.Path

/-- Whether a path begins at the root. -/
def isAbsolute (path : Text) : Bool := path.head? = some '/'

/-- The pieces of a path between its slashes. -/
def pieces (path : Text) : List Text := Text.splitOn ['/'] path

/-- Whether a piece of a path leads nowhere. -/
def isIdle (piece : Text) : Bool := piece.isEmpty || piece = ['.']

/-- A path below a directory. An absolute path stays what it is. -/
def join (dir path : Text) : Text :=
  if isAbsolute path || dir.isEmpty then path
  else if dir.getLast? = some '/' then dir ++ path
  else dir ++ '/' :: path

/-- The pieces without idle ones at the end; the first piece is kept. -/
def trimPieces : List Text → List Text
  | [] => []
  | first :: rest => first :: (rest.reverse.dropWhile isIdle).reverse

/-- The path without its last piece. -/
def parent (path : Text) : Text :=
  let dir := Text.join ['/'] (trimPieces (pieces path).dropLast)
  if dir.isEmpty && isAbsolute path then ['/'] else dir

/-- The last point of a file name splits it, if something stands before it. -/
def splitName (name : Text) : Text × Option Text :=
  let ending := (name.reverse.takeWhile (· ≠ '.')).reverse
  let stem := name.take (name.length - ending.length - 1)
  if ending.length = name.length || stem.isEmpty then (name, none) else (stem, some ending)

/-- A file name without its extension. -/
def stem (name : Text) : Text := (splitName name).1

/-- What stands behind the last point of a file name. -/
def extension? (name : Text) : Option Text := (splitName name).2

end LiveSnippet.Path
