import LiveSnippet.Text.Basic

/-!
# File systems

The questions that are asked of a file system. They are answered in any monad, so that the same
programs run on the files of a machine and on files that are given as a value.

## Main definitions

* `Listing`, `FileSystem`
-/

namespace LiveSnippet

/-- What lies in a directory. -/
inductive Listing
  /-- There is no such directory. -/
  | missing
  /-- The directory cannot be read. -/
  | unreadable
  /-- The names in the directory, in any order. -/
  | names (list : List Text)
deriving DecidableEq, Repr

/-- Read access to files by their paths. -/
structure FileSystem (m : Type → Type) where
  /-- The names in a directory. -/
  list : Text → m Listing
  /-- The text of a file; `none` if it cannot be read or is no text. -/
  read? : Text → m (Option Text)
  /-- Whether there is a file at a path. -/
  isFile : Text → m Bool

end LiveSnippet
