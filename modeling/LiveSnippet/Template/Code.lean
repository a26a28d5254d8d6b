import LiveSnippet.Script.Interpreter
import LiveSnippet.Template.File

/-!
# Templates with scripts

Code spans are scripts. Each run of a template begins with a new interpreter, which runs the code
before the templates and then every span in order, so that the spans of one run share their
variables. A span sees the placeholder texts as `t`, the groups of the match as `m`, and the names of
workspace and file as `w` and `path`. Its output is what it returns, or else the value of `rv`.

## Main definitions

* `scriptEvaluator`, `compile`
-/

namespace LiveSnippet

namespace Script

/-- A failure of a script as a failure of an evaluator. -/
def ScriptError.toEvaluator (e : ScriptError) : EvaluatorError := ⟨e.message⟩

/-- A script that does not parse as a failure of an evaluator. -/
def compileScript (source : Text) : Except EvaluatorError Program :=
  (parseProgram source).mapError fun e => (ScriptError.parse e).toEvaluator

/-- The scripts of code spans. An error names the span by its index. -/
def compileSpans (i : Nat) : List Text → Except EvaluatorError (List Program)
  | [] => .ok []
  | span :: rest => do
    let program ← (compileScript span).mapError fun e => ⟨s!"code block {i}: {e.message}"⟩
    return program :: (← compileSpans (i + 1) rest)

/-- The outputs of code spans on an interpreter. -/
def runSpans (s : Interpreter) : List Program → Except EvaluatorError (List Text)
  | [] => .ok []
  | span :: rest =>
    match (s.setGlobal "rv".toList (.string [])).run span with
    | (.error e, _) => .error (ScriptError.runtime e).toEvaluator
    | (.ok returned, s) => do
      let value := returned.getD ((s.global? "rv".toList).getD .null)
      return value.toText :: (← runSpans s rest)

/-- Runs the code before the templates on an interpreter. -/
def runPreamble (s : Interpreter) (preamble : Program) : Except EvaluatorError Interpreter :=
  match s.run preamble with
  | (.ok _, s) => .ok s
  | (.error e, _) => .error (ScriptError.runtime e).toEvaluator

/-- The interpreter that a run of a template begins with. -/
def inputInterpreter (input : GeneratorInput) : Interpreter :=
  (((Interpreter.new.setGlobal ['t'] (.strings input.placeholderTexts)).setGlobal
    ['m'] (.strings input.matchGroups)).setGlobal ['w'] (.string input.workspaceId)).setGlobal
    "path".toList (.string input.fileId)

/-- The outputs of code spans for an input. -/
def runBlocks (preamble : Program) (spans : List Program) : BlockProgram := fun input => do
  runSpans (← runPreamble (inputInterpreter input) preamble) spans

/-- Whether an expression holds of the scopes, which it sees as `context.scopes`. -/
def runFilter (preamble : Program) (expr : Expr) : ScopeFilter := fun scopes => do
  let s ← runPreamble Interpreter.new preamble
  let context := Value.map [("scopes".toList, .strings scopes)]
  match (s.setGlobal "context".toList context).evaluate expr with
  | (.ok value, _) => return value.truthy
  | (.error e, _) => .error (ScriptError.runtime e).toEvaluator

end Script

/-- The evaluator for code spans that are scripts. -/
def scriptEvaluator : Evaluator Script.Program where
  compilePreamble := Script.compileScript
  compileBlocks preamble spans := do
    return Script.runBlocks preamble (← Script.compileSpans 0 spans)
  compileFilter preamble source := do
    let expr ← (Script.parseExpression source).mapError fun e =>
      (Script.ScriptError.parse e).toEvaluator
    return Script.runFilter preamble expr

/-- Compiles a template file whose code spans are scripts. -/
def compile (source : Text) : CompiledFile := compileWith scriptEvaluator source

end LiveSnippet
