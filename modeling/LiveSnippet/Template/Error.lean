import LiveSnippet.Text.Basic

/-!
# Errors of template files

A template file yields templates and errors: an entry that does not compile is skipped, and every
error belongs to one line.

## Main definitions

* `CompileError`, `CompileError.line`, `CompileError.message`
-/

namespace LiveSnippet

/-- Why a part of a template file was not compiled. The line is that of the header, or of the
`global` that opens a section. -/
inductive CompileError
  | header (line : Nat) (text : Text)
  | pattern (line : Nat) (source : Text)
  | unterminatedBody (line : Nat) (trigger : Text)
  | unterminatedCode (line : Nat) (trigger : Text)
  | evaluator (line : Nat) (trigger : Text) (reason : String)
  | preamble (line : Nat) (reason : String)
deriving DecidableEq, Repr

namespace CompileError

/-- The line that the error belongs to, counted from one. -/
def line : CompileError → Nat
  | header line _ => line
  | pattern line _ => line
  | unterminatedBody line _ => line
  | unterminatedCode line _ => line
  | evaluator line _ _ => line
  | preamble line _ => line

/-- A text between backticks. -/
def ticked (text : Text) : String := "\x60" ++ String.ofList text ++ "\x60"

/-- The error as shown to a user. -/
def message : CompileError → String
  | header line text => s!"line {line}: malformed snippet header {ticked text}"
  | pattern line source => s!"line {line}: invalid trigger pattern {ticked source}: syntax error"
  | unterminatedBody line trigger =>
    s!"line {line}: snippet {ticked trigger} has no closing \x60endsnippet\x60"
  | unterminatedCode line trigger =>
    s!"line {line}: snippet {ticked trigger} has an unclosed code span"
  | evaluator line trigger reason => s!"line {line}: snippet {ticked trigger}: {reason}"
  | preamble line reason => s!"line {line}: global section: {reason}"

end CompileError

end LiveSnippet
