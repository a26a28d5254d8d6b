import LiveSnippet.Library
import LiveSnippet.Matching.Candidate
import LiveSnippet.Session.Host
import LiveSnippet.Text.Quoted

/-!
# Reports of commands

A command reads files and reports what it finds. What it has written stays written if it fails
later.

## Main definitions

* `CommandError`, `Report`
* `Tally`: what a check has found
* `ExpandOptions`, `ExpandOptions.chosen?`
* `checkTemplates`, `listTemplates`, `expandTemplate`: the three commands
-/

namespace LiveSnippet.CommandLine

/-- Why a command failed. -/
inductive CommandError
  | library (error : LibraryError)
  | buffer (error : BufferError)
  | unreadable (path : Text)
  /-- The text does not end in a trigger of a template for the language. -/
  | noMatch (language text : Text)
deriving DecidableEq, Repr

namespace CommandError

/-- The error as shown to a user. -/
def message : CommandError → String
  | library e => e.message
  | buffer e => e.message
  | unreadable path => s!"cannot read {String.ofList path}"
  | noMatch language text =>
    s!"no {String.ofList language} template matches the end of {String.ofList (Text.quote text)}"

end CommandError

/-- What a command wrote, and how it ended. -/
structure Report where
  out : Text
  /-- The failures of templates that the user is told about. -/
  warnings : List Diagnostic
  /-- Whether something is wrong with a template file. -/
  result : Except CommandError Bool

namespace Report

/-- The report of a command that found nothing wrong. -/
def done (out : Text) (warnings : List Diagnostic) : Report := ⟨out, warnings, .ok false⟩

/-- The report of a command that failed. -/
def failed (out : Text) (e : CommandError) : Report := ⟨out, [], .error e⟩

end Report

/-- A line of output. -/
def outputLine (s : String) : Text := s.toList ++ ['\n']

/-- The line for a compile error. -/
def errorLine (e : FileError) : Text :=
  outputLine s!"{String.ofList e.path}:{e.error.line}: {e.error.message}"

/-- The numbers at the end of a check. -/
def summaryLine (templates errors : Nat) : Text :=
  outputLine s!"{templates} templates, {errors} errors"

/-- What has been found in template files. -/
structure Tally where
  templates : Nat
  errors : List FileError

namespace Tally

/-- Nothing found. -/
def empty : Tally := ⟨0, []⟩

/-- What has been found in a library. -/
def ofLibrary (l : Library) : Tally := ⟨l.size, l.errors⟩

/-- Adds what is found in a file. -/
def addFile (t : Tally) (path source : Text) : Tally :=
  let file := compile source
  ⟨t.templates + file.templates.length, t.errors ++ file.errors.map fun e => ⟨path, e⟩⟩

/-- The lines for the errors. -/
def errorLines (t : Tally) : Text := t.errors.flatMap errorLine

/-- The report of a check. -/
def report (t : Tally) : Report :=
  ⟨t.errorLines ++ summaryLine t.templates t.errors.length, [], .ok !t.errors.isEmpty⟩

end Tally

/-- The line for a template of a language. -/
def templateLine (language : Text) (t : Template) : Text :=
  Text.join ['\t'] [language, Text.ofInt t.priority, t.flags.letters, t.trigger.label,
    t.description] ++ ['\n']

/-- Fills texts into one placeholder after the other, until there is none left. -/
def fillPlaceholders (h : Host) : List Text → Except BufferError Host
  | [] => .ok h
  | fill :: rest =>
    match h.replaceSelected fill with
    | (.error e, _) => .error e
    | (.ok false, h) => .ok h
    | (.ok true, h) => fillPlaceholders h.next.2 rest

/-- What a text is to be expanded with. -/
structure ExpandOptions where
  language : Text
  /-- The text before the cursor. -/
  text : Text
  /-- The texts to fill into the placeholders. -/
  fills : List Text
  /-- The text that counts as selected. -/
  selection : Text
  scopes : List Text
  lookbackLines : Nat
deriving DecidableEq, Repr

namespace ExpandOptions

/-- The candidate to expand: the automatic one, or the first that is complete. -/
def chosen? (o : ExpandOptions) (templates : List Template) (d : Document) : Option Candidate :=
  let cursor := Position.origin.advance o.text 0
  match matchTemplates d templates ⟨cursor, o.scopes, o.lookbackLines⟩ with
  | .automatic c => some c
  | .candidates cs => cs.find? (·.complete)

/-- The report of an expansion with the given templates. -/
def report (o : ExpandOptions) (templates : List Template) : Report :=
  let h := Host.new o.text
  match o.chosen? templates h.buffer.document with
  | none => .failed [] (.noMatch o.language o.text)
  | some c =>
    match h.expand c.template c.span ⟨Position.origin, c.groups, o.selection, [], []⟩ with
    | (.error e, _) => .failed [] (.buffer e)
    | (.ok (), h) =>
      match fillPlaceholders h o.fills with
      | .error e => .failed [] (.buffer e)
      | .ok h => .done (h.buffer.text ++ ['\n']) h.diagnostics

end ExpandOptions

section Commands

variable {m : Type → Type} [Monad m]

/-- Goes on with the library of a directory. -/
def withLibrary (fs : FileSystem m) (dir : Text) (report : Library → Report) : m Report := do
  match ← Library.load fs dir with
  | .error e => pure (.failed [] (.library e))
  | .ok library => pure (report library)

/-- Checks files, after what has been found in others. -/
def checkFiles (fs : FileSystem m) (t : Tally) : List Text → m Report
  | [] => pure t.report
  | path :: rest => do
    match ← fs.read? path with
    | none => pure (.failed t.errorLines (.unreadable path))
    | some source => checkFiles fs (t.addFile path source) rest

/-- Checks files, or the template files of a directory if there are none. -/
def checkTemplates (fs : FileSystem m) (dir : Text) (files : List Text) : m Report :=
  if files.isEmpty then withLibrary fs dir fun library => (Tally.ofLibrary library).report
  else checkFiles fs .empty files

/-- Lists the templates that a language can use, or the templates of every language. -/
def listTemplates (fs : FileSystem m) (dir : Text) (language : Option Text) : m Report :=
  withLibrary fs dir fun library =>
    let groups := match language with
      | some language => [(language, library.templatesFor language)]
      | none => library.languages
    .done (groups.flatMap fun (language, templates) => templates.flatMap (templateLine language)) []

/-- Expands the template whose trigger stands at the end of a text. -/
def expandTemplate (fs : FileSystem m) (dir : Text) (o : ExpandOptions) : m Report :=
  withLibrary fs dir fun library => o.report (library.templatesFor o.language)

end Commands

end LiveSnippet.CommandLine
