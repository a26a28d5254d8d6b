import LiveSnippet.Template.Body
import LiveSnippet.Template.Compiled
import LiveSnippet.Template.Error
import LiveSnippet.Template.Header

/-!
# Template files

A file is read line by line. At its top level stand comments, `global` sections with code for all
templates of the file, the directives `priority` and `context` for the next template, and the
templates themselves. All other lines are ignored.

The code of all `global` sections is compiled once, as a whole, so that a template sees the sections
behind it, too.

How patterns are compiled, and how code is, are parameters.

## Main definitions

* `FileItem`, `FileItem.ofLines`: the items of a file in order
* `Entry`, `Outline`: the templates of a file before they are compiled
* `CompiledFile`, `compileBy`, `compileWith`
-/

namespace LiveSnippet

/-- An item at the top level of a template file. -/
inductive FileItem
  /-- A line that means nothing. -/
  | ignored
  | globalSection (line : Nat) (code : List Text) (closed : Bool)
  | priority (value : Int)
  | context (expr : Option Text)
  | badHeader (line : Nat) (text : Text)
  | entry (line : Nat) (header : Header) (body : Except BodyError Body)

/-- The 32-bit integer that a text spells. -/
def readPriority? (text : Text) : Option Int :=
  let (negative, digits) := match text with
    | '-' :: rest => (true, rest)
    | '+' :: rest => (false, rest)
    | _ => (false, text)
  (Text.toNat? digits).bind fun n =>
    let value : Int := if negative then -(n : Int) else n
    if -0x80000000 ≤ value && value < 0x80000000 then some value else none

namespace FileItem

/-- Whether a line opens a section of code. -/
def opensGlobal (line : Text) : Bool := line.trimEnd == "global".toList

/-- Whether a line closes a section of code. -/
def closesGlobal (line : Text) : Bool := line.trimEnd == "endglobal".toList

/-- The item that begins with `line`, which has the given number, and the lines behind it. -/
def read (number : Nat) (line : Text) (rest : List Text) : FileItem × List Text :=
  if line.head? = some '#' then (ignored, rest)
  else if opensGlobal line then
    let behind := rest.dropWhile (!closesGlobal ·)
    (globalSection number (rest.takeWhile (!closesGlobal ·)) !behind.isEmpty, behind.tail)
  else match "priority ".toList.isPrefixOf? line with
    | some value => (priority ((readPriority? (Text.trim value)).getD 0), rest)
    | none =>
      match "context ".toList.isPrefixOf? line with
      | some expr =>
        let expr := Text.trim expr
        (context (if expr.isEmpty then none else some expr), rest)
      | none =>
        if Header.isHeader line then
          match Header.parse? line with
          | none =>
            (badHeader number line.trimEnd, (rest.dropWhile (!Body.isTerminator ·)).tail)
          | some header => (entry number header (Body.parse rest).1, (Body.parse rest).2)
        else (ignored, rest)

theorem length_tail_dropWhile_le (p : Text → Bool) (lines : List Text) :
    (lines.dropWhile p).tail.length ≤ lines.length := by
  have := (List.dropWhile_suffix p (l := lines)).length_le
  simp only [List.length_tail]
  omega

/-- An item takes its first line at least. -/
theorem length_read_le (number : Nat) (line : Text) (rest : List Text) :
    (read number line rest).2.length ≤ rest.length := by
  unfold read
  split
  · exact Nat.le_refl _
  · split
    · exact length_tail_dropWhile_le _ _
    · split
      · exact Nat.le_refl _
      · split
        · exact Nat.le_refl _
        · split
          · split
            · exact length_tail_dropWhile_le _ _
            · exact Body.length_parse_le _
          · exact Nat.le_refl _

/-- The items of the lines, the first of which has the given number. -/
def ofLines (number : Nat) : List Text → List FileItem
  | [] => []
  | line :: rest =>
    (read number line rest).1 ::
      ofLines (number + 1 + (rest.length - (read number line rest).2.length))
        (read number line rest).2
termination_by lines => lines.length
decreasing_by
  have := length_read_le number line rest
  simp only [List.length_cons]
  omega

end FileItem

/-- A template before it is compiled. -/
structure Entry where
  line : Nat
  header : Header
  body : Body
  priority : Int
  context : Option Text
deriving DecidableEq, Repr

/-- The content of a file before it is compiled. -/
structure Outline where
  entries : List Entry
  /-- The lines of code of all sections. -/
  code : List Text
  /-- The line of the first section; zero if there is none. -/
  codeLine : Nat
  errors : List CompileError
  /-- The priority for the next template. -/
  priority : Int
  /-- The context expression for the next template. -/
  context : Option Text
deriving DecidableEq, Repr

namespace Outline

/-- The outline of a file without items. -/
def empty : Outline := ⟨[], [], 0, [], 0, none⟩

/-- Adds an item. A header uses up the directives before it. -/
def add (o : Outline) : FileItem → Outline
  | .ignored => o
  | .globalSection line code closed =>
    { o with
      code := o.code ++ code
      codeLine := if o.codeLine = 0 then line else o.codeLine
      errors := if closed then o.errors
        else o.errors ++ [.preamble line "missing \x60endglobal\x60"] }
  | .priority priority => { o with priority }
  | .context context => { o with context }
  | .badHeader line text =>
    { o with errors := o.errors ++ [.header line text], priority := 0, context := none }
  | .entry line header body =>
    let o' := { o with priority := 0, context := none }
    match body with
    | .ok body =>
      { o' with entries := o.entries ++ [⟨line, header, body, o.priority, o.context⟩] }
    | .error .unterminatedBody =>
      { o' with errors := o.errors ++ [.unterminatedBody line header.trigger.label] }
    | .error .unterminatedCode =>
      { o' with errors := o.errors ++ [.unterminatedCode line header.trigger.label] }

/-- The outline of a file. -/
def ofSource (source : Text) : Outline := (FileItem.ofLines 1 source.lines).foldl add empty

end Outline

/-- The templates of a file that compiled, and an error for everything that did not. -/
structure CompiledFile where
  templates : List Template
  errors : List CompileError

section Compile

variable {Preamble : Type}

/-- The trigger that a header asks for. -/
def compileTrigger (patterns : Pattern.Compiler) (line : Nat) :
    TriggerSource → Except CompileError Trigger
  | .literal text => .ok (.literal text)
  | .pattern source =>
    match patterns source with
    | some p => .ok (.pattern p)
    | none => .error (.pattern line source)

/-- The filter that a context expression asks for. -/
def compileContext (evaluator : Evaluator Preamble) (preamble : Preamble) :
    Option Text → Except EvaluatorError (Option ScopeFilter)
  | none => .ok none
  | some expr =>
    match evaluator.compileFilter preamble expr with
    | .ok filter => .ok (some filter)
    | .error e => .error ⟨s!"context filter: {e.message}"⟩

/-- Compiles a template: its trigger, its filter and its code spans, in this order. -/
def compileEntry (patterns : Pattern.Compiler) (evaluator : Evaluator Preamble)
    (preamble : Preamble) (e : Entry) : Except CompileError Template := do
  let located := fun {α : Type} (r : Except EvaluatorError α) =>
    r.mapError fun error => CompileError.evaluator e.line e.header.trigger.label error.message
  let trigger ← compileTrigger patterns e.line e.header.trigger
  let contextFilter ← located (compileContext evaluator preamble e.context)
  let program ← located (evaluator.compileBlocks preamble e.body.spans)
  return {
    trigger
    description := e.header.description
    flags := e.header.flags
    priority := e.priority
    placeholderCount := e.body.placeholderCount
    contextFilter
    generator := ⟨e.body.segments, e.body.spans.length, program⟩
    line := e.line }

/-- The errors in the order of their lines. -/
def sortErrors (errors : List CompileError) : List CompileError :=
  errors.mergeSort fun a b => decide (a.line ≤ b.line)

/-- The code for all templates, and the error if it does not compile and is left out. -/
def compileCode (evaluator : Evaluator Preamble) (o : Outline) :
    Except EvaluatorError Preamble × List CompileError :=
  match evaluator.compilePreamble (Text.join ['\n'] o.code) with
  | .ok preamble => (.ok preamble, [])
  | .error e => (evaluator.compilePreamble [], [.preamble o.codeLine e.message])

/-- The error of a template whose file has no code to compile it with. -/
def orphanError (e : EvaluatorError) (entry : Entry) : CompileError :=
  .evaluator entry.line entry.header.trigger.label e.message

/-- The templates and the errors among results. -/
def partitionResults (results : List (Except CompileError Template)) :
    List Template × List CompileError :=
  (results.filterMap fun r => match r with
      | .ok t => some t
      | .error _ => none,
    results.filterMap fun r => match r with
      | .ok _ => none
      | .error e => some e)

/-- Compiles the outline of a file, given how patterns and code are compiled. -/
def Outline.compile (patterns : Pattern.Compiler) (evaluator : Evaluator Preamble) (o : Outline) :
    CompiledFile :=
  match compileCode evaluator o with
  | (.error e, codeErrors) =>
    ⟨[], sortErrors (o.errors ++ codeErrors ++ o.entries.map (orphanError e))⟩
  | (.ok preamble, codeErrors) =>
    let (templates, errors) :=
      partitionResults (o.entries.map (compileEntry patterns evaluator preamble))
    ⟨templates, sortErrors (o.errors ++ codeErrors ++ errors)⟩

/-- Compiles a template file, given how patterns and code are compiled. -/
def compileBy (patterns : Pattern.Compiler) (evaluator : Evaluator Preamble) (source : Text) :
    CompiledFile :=
  (Outline.ofSource source).compile patterns evaluator

/-- Compiles a template file, given how code is compiled. -/
def compileWith (evaluator : Evaluator Preamble) (source : Text) : CompiledFile :=
  compileBy Pattern.TextPattern.compile? evaluator source

end Compile

end LiveSnippet
