import LiveSnippet.Text.Basic

/-!
# Generators

A template body is literal text interleaved with code spans. A generator copies the text and runs the
spans; it produces everything or nothing.

What runs the code is left open: a `BlockProgram` is any function from the input to one output for
each span, and a `ScopeFilter` any test of the scopes around the cursor.

## Main definitions

* `GeneratorInput`, `Segment`, `GeneratorOutput`
* `BlockProgram`, `ScopeFilter`, `Evaluator`: the boundary to the language of the code spans
* `Generator`, `Generator.invoke`
-/

namespace LiveSnippet

/-- What a generator is given. -/
structure GeneratorInput where
  /-- The texts of the placeholders in document order. -/
  placeholderTexts : List Text
  /-- What the trigger captured, the whole match first. -/
  matchGroups : List Text
  workspaceId : Text
  fileId : Text
deriving DecidableEq, Repr

namespace GeneratorInput

/-- The input before anything is typed: `count` empty placeholder texts. -/
def empty (count : Nat) (matchGroups : List Text) : GeneratorInput :=
  ⟨List.replicate count [], matchGroups, [], []⟩

end GeneratorInput

/-- A part of a template body. -/
inductive Segment
  /-- Literal text, which may hold markers. -/
  | text (run : Text)
  /-- The code span with this index. -/
  | block (index : Nat)
deriving DecidableEq, Repr

/-- What a generator produces: the parts of the body, and the output of each code span. -/
structure GeneratorOutput where
  segments : List Segment
  blocks : List Text
deriving DecidableEq, Repr

/-- Why code could not be compiled or run. -/
structure EvaluatorError where
  message : String
deriving DecidableEq, Repr

/-- The code spans of a template: one output for each. -/
abbrev BlockProgram := GeneratorInput → Except EvaluatorError (List Text)

/-- A test of the scopes around the cursor, the innermost last. -/
abbrev ScopeFilter := List Text → Except EvaluatorError Bool

/-- A language for code spans. The code before the templates of a file is compiled once. -/
structure Evaluator (Preamble : Type) where
  compilePreamble : Text → Except EvaluatorError Preamble
  compileBlocks : Preamble → List Text → Except EvaluatorError BlockProgram
  compileFilter : Preamble → Text → Except EvaluatorError ScopeFilter

/-- Why a generator produced nothing. -/
inductive GeneratorError
  /-- A code span failed. -/
  | block (error : EvaluatorError)
  /-- The program gave another number of outputs than there are code spans. -/
  | blockCount (expected actual : Nat)
deriving DecidableEq, Repr

namespace GeneratorError

/-- The error as shown to a user. -/
def message : GeneratorError → String
  | block e => s!"code block failed: {e.message}"
  | blockCount expected actual => s!"expected {expected} block outputs, got {actual}"

end GeneratorError

/-- A compiled template body. -/
structure Generator where
  segments : List Segment
  blockCount : Nat
  program : BlockProgram

namespace Generator

/-- Runs the code spans. -/
def invoke (g : Generator) (input : GeneratorInput) : Except GeneratorError GeneratorOutput :=
  match g.program input with
  | .error e => .error (.block e)
  | .ok blocks =>
    if blocks.length = g.blockCount then .ok ⟨g.segments, blocks⟩
    else .error (.blockCount g.blockCount blocks.length)

/-- A successful run copies the segments, and gives an output for each code span. -/
theorem segments_of_invoke {g : Generator} {input : GeneratorInput} {output : GeneratorOutput}
    (h : g.invoke input = .ok output) :
    output.segments = g.segments ∧ output.blocks.length = g.blockCount := by
  rw [invoke] at h
  split at h
  · cases h
  · split at h
    · rename_i hlength
      cases h
      exact ⟨rfl, hlength⟩
    · cases h

end Generator

end LiveSnippet
