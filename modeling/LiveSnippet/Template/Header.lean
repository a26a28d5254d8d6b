import LiveSnippet.Template.Flags

/-!
# Snippet headers

A header is the word `snippet`, a trigger, an optional description between double quotes and
optional flag letters, separated by white space. A trigger between backticks is a pattern and may
hold spaces; any other trigger is literal and ends at white space.

## Main definitions

* `TriggerSource`, `Header`
* `Header.isHeader`: whether a line is a header, well-formed or not
* `Header.parse?`
-/

namespace LiveSnippet

/-- A trigger as it is written. -/
inductive TriggerSource
  | literal (text : Text)
  | pattern (source : Text)
deriving DecidableEq, Repr

namespace TriggerSource

/-- The text of the trigger, without the backticks of a pattern. -/
def label : TriggerSource → Text
  | literal text => text
  | pattern source => source

end TriggerSource

/-- The header of a template. -/
structure Header where
  trigger : TriggerSource
  /-- Empty if there is none. -/
  description : Text
  flags : Flags
deriving DecidableEq, Repr

namespace Header

/-- The word that begins a header. -/
def keyword : Text := "snippet".toList

/-- Whether a line begins with the keyword as a word of its own. -/
def isHeader (line : Text) : Bool :=
  match keyword.isPrefixOf? line with
  | some rest => Text.isBlank rest || rest.head?.any Unicode.isWhiteSpace
  | none => false

/-- What follows the white space at the front of a text; `none` if there is none. -/
def afterSpace? (text : Text) : Option Text :=
  if text.head?.any Unicode.isWhiteSpace then some (Text.trimStart text) else none

/-- The flags at the end of a header. -/
def flags? (text : Text) : Option Flags :=
  if text.isEmpty then some .empty
  else do
    let letters ← afterSpace? text
    if letters.all Flags.isLetter then some (.ofLetters letters) else none

/-- The description and the flags that follow a trigger. -/
def details? (text : Text) : Option (Text × Flags) :=
  match afterSpace? text with
  | some ('"' :: rest) =>
    match rest.dropWhile (· ≠ '"') with
    | '"' :: rest' => (flags? rest').map fun f => (rest.takeWhile (· ≠ '"'), f)
    | _ => none
  | _ => (flags? text).map fun f => ([], f)

/-- A header from its pattern trigger on. -/
def ofPattern? : Text → Option Header
  | '\x60' :: rest =>
    let source := rest.takeWhile (· ≠ '\x60')
    match rest.dropWhile (· ≠ '\x60') with
    | '\x60' :: rest =>
      if source.isEmpty then none
      else (details? rest).map fun (description, flags) => ⟨.pattern source, description, flags⟩
    | _ => none
  | _ => none

/-- A header from its literal trigger on. -/
def ofLiteral? (text : Text) : Option Header :=
  let trigger := text.takeWhile (!Unicode.isWhiteSpace ·)
  if trigger.isEmpty then none
  else (details? (text.dropWhile (!Unicode.isWhiteSpace ·))).map fun (description, flags) =>
    ⟨.literal trigger, description, flags⟩

/-- The header that a line spells. White space at the end of the line means nothing. -/
def parse? (line : Text) : Option Header := do
  let fields ← afterSpace? (← keyword.isPrefixOf? (Text.trimEnd line))
  (ofPattern? fields).or (ofLiteral? fields)

end Header

end LiveSnippet
