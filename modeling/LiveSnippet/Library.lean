import LiveSnippet.Files.FileSystem
import LiveSnippet.Files.Path
import LiveSnippet.Template.Code

/-!
# Libraries

A library holds the templates of every language. The templates of the language `all` can be used in
every other language, too. How template files are compiled is a parameter of what adds them.

## Main definitions

* `Library`, `Library.addSourceBy`, `Library.addSource`
* `Library.templates`, `Library.templatesFor`: the templates of a language, and those it can use
* `Library.load`: the library of a directory
-/

namespace LiveSnippet

/-- A compile error with the path of the template file. -/
structure FileError where
  path : Text
  error : CompileError
deriving DecidableEq, Repr

/-- Why a library could not be loaded. -/
inductive LibraryError
  | unreadableDirectory (path : Text)
  | unreadableFile (path : Text)
deriving DecidableEq, Repr

namespace LibraryError

/-- The error as shown to a user. -/
def message : LibraryError → String
  | unreadableDirectory path => s!"cannot read template directory {String.ofList path}"
  | unreadableFile path => s!"cannot read template file {String.ofList path}"

end LibraryError

/-- All templates by their languages, which ascend, and the errors of all template files. -/
structure Library where
  languages : List (Text × List Template)
  errors : List FileError

namespace Library

/-- The library without languages. -/
def empty : Library := ⟨[], []⟩

/-- The extension of template files. -/
def fileExtension : Text := "hsnips".toList

/-- The language whose templates can be used everywhere. -/
def everywhere : Text := "all".toList

/-- Adds templates at the end of those of a language. -/
def addTemplates (language : Text) (added : List Template) :
    List (Text × List Template) → List (Text × List Template)
  | [] => [(language, added)]
  | (l, ts) :: rest =>
    if language = l then (l, ts ++ added) :: rest
    else if language < l then (language, added) :: (l, ts) :: rest
    else (l, ts) :: addTemplates language added rest

/-- Adds a template file, given how files are compiled. -/
def addFileBy (compiler : Text → CompiledFile) (library : Library) (language path source : Text) :
    Library :=
  let file := compiler source
  ⟨addTemplates language file.templates library.languages,
    library.errors ++ file.errors.map fun e => ⟨path, e⟩⟩

/-- Adds a template file. -/
def addFile (library : Library) (language path source : Text) : Library :=
  library.addFileBy compile language path source

/-- Adds templates that come from no directory, given how files are compiled. -/
def addSourceBy (compiler : Text → CompiledFile) (library : Library) (language source : Text) :
    Library :=
  library.addFileBy compiler language (language ++ '.' :: fileExtension) source

/-- Adds templates that come from no directory. -/
def addSource (library : Library) (language source : Text) : Library :=
  library.addSourceBy compile language source

/-- The templates of a language itself, in the order in which they were added. -/
def templates (library : Library) (language : Text) : List Template :=
  (library.languages.lookup language).getD []

/-- The templates that a language can use, its own before those for everywhere, ordered by
descending priority. -/
def templatesFor (library : Library) (language : Text) : List Template :=
  let shared := if language = everywhere then [] else library.templates everywhere
  (library.templates language ++ shared).mergeSort fun a b => decide (b.priority ≤ a.priority)

/-- The number of templates. -/
def size (library : Library) : Nat := (library.languages.flatMap (·.2)).length

/-- Whether there are no templates. -/
def isEmpty (library : Library) : Bool := library.size == 0

section Load

variable {m : Type → Type} [Monad m]

/-- Adds the template files with the given names. The stem of a name is the language. -/
def addFiles (fs : FileSystem m) (dir : Text) (library : Library) :
    List Text → m (Except LibraryError Library)
  | [] => pure (.ok library)
  | name :: rest => do
    let path := Path.join dir name
    match ← fs.read? path with
    | none => pure (.error (.unreadableFile path))
    | some source => addFiles fs dir (library.addFile (Path.stem name) path source) rest

/-- Loads the template files of a directory by ascending names. The library of a directory that does
not exist is empty. -/
def load (fs : FileSystem m) (dir : Text) : m (Except LibraryError Library) := do
  match ← fs.list dir with
  | .missing => pure (.ok empty)
  | .unreadable => pure (.error (.unreadableDirectory dir))
  | .names names =>
    let files := names.filter fun name => Path.extension? name == some fileExtension
    addFiles fs dir empty (files.mergeSort fun a b => !decide (b < a))

end Load

end Library

end LiveSnippet
