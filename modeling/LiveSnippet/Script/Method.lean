import LiveSnippet.Script.Value
import LiveSnippet.Unicode.CaseMapping

/-!
# Functions and methods of the script language

What scripts can call besides their own functions. Whatever puts strings together, repeats or pads
them checks the length first against `maxStringBytes`. The conversions, the changes of case and the
replacement of one occurrence do not.

A length is worked out from those of the parts. In its definition `count` is what becomes of a number
that may be too large to be counted. No number is too large here, so the methods leave it as it is.

## Main definitions

* `Value.addBytes`, `StringMethod.repeatBytes`, `StringMethod.replaceAllBytes`,
  `ListMethod.joinBytes`: the lengths that are worked out beforehand
* `Builtin.call`: the global functions
* `StringMethod.call`, `ListMethod.call`: the methods of strings and lists
* `Value.property`, `Value.subscript`, `Value.callMethod`: what a script reads from a value
-/

namespace LiveSnippet.Script

/-- The outcome of a step of evaluation. -/
abbrev Result (α : Type) := Except RuntimeError α

/-- Fails if a string of `bytes` bytes is too long. -/
def checkBytes (bytes : Nat) : Result Unit :=
  if maxStringBytes < bytes then .error (.stringTooLong bytes) else .ok ()

/-- The smaller number. What is not a number is passed over. -/
def minNumber (x y : Float) : Float :=
  if Decimal.isNaN x then y else if y < x then y else x

/-- The larger number. What is not a number is passed over. -/
def maxNumber (x y : Float) : Float :=
  if Decimal.isNaN x then y else if x < y then y else x

namespace Builtin

/-- The number of characters, items or entries of a value. -/
def length : Value → Result Value
  | .string s => .ok (.number (Float.ofNat s.length))
  | .list items => .ok (.number (Float.ofNat items.length))
  | .map entries => .ok (.number (Float.ofNat entries.length))
  | v => .error (.noLength v.typeName)

/-- Calls a global function. -/
def call (b : Builtin) (args : List Value) : Result Value :=
  let first := args.head?.getD .null
  let operand := fun (i : Nat) => (args[i]?.map Value.toNumber).getD Decimal.nan
  match b with
  | string => .ok (.string (if args.isEmpty then [] else first.toText))
  | number => .ok (.number (if args.isEmpty then 0 else first.toNumber))
  | boolean => .ok (.bool first.truthy)
  | parseInt => .ok (.number (readInteger first.toText))
  | len => length first
  | floor => .ok (.number (operand 0).floor)
  | ceil => .ok (.number (operand 0).ceil)
  | round => .ok (.number (operand 0 + 0.5).floor)
  | abs => .ok (.number (operand 0).abs)
  | min => .ok (.number ((args.map Value.toNumber).foldl minNumber Decimal.infinity))
  | max => .ok (.number ((args.map Value.toNumber).foldl maxNumber (-Decimal.infinity)))
  | pow => .ok (.number ((operand 0).pow (operand 1)))
  | sqrt => .ok (.number (operand 0).sqrt)

/-- The names that scripts know from the start: conversions on their own, mathematics in a map. -/
def globals : List (Text × Value) :=
  let named := fun (b : Builtin) => (b.name.toList, Value.builtin b)
  ("Math".toList, Value.ofEntries ([floor, ceil, round, abs, min, max, pow, sqrt].map named)) ::
    [string, number, boolean, parseInt, len].map named

end Builtin

namespace Value

/-- The index below `count` that a value denotes. -/
def toIndex? (v : Value) (count : Nat) : Option Nat :=
  (Decimal.natural? v.toNumber).filter (· < count)

/-- The bound that an argument of a slice denotes in a sequence of `count` items. Fractions are cut
off; a negative bound counts from the end, and none leaves the sequence. -/
def toBound (v : Value) (count : Nat) : Nat :=
  let x := v.toNumber
  if x ≤ -1 then count - Decimal.clampToNat count (-x) else Decimal.clampToNat count x

/-- The start and the end of a slice of a sequence of `count` items. -/
def sliceBounds (count : Nat) (args : List Value) : Nat × Nat :=
  let start := (args[0]?.map (·.toBound count)).getD 0
  let stop := (args[1]?.map (·.toBound count)).getD count
  (start, Nat.max stop start)

/-- The part of a sequence that the arguments of a slice denote. -/
def slice {α : Type} (items : List α) (args : List Value) : List α :=
  let (start, stop) := sliceBounds items.length args
  (items.take stop).drop start

/-- The argument at an index as a string; empty if it is missing. -/
def argText (args : List Value) (i : Nat) : Text := (args[i]?.map toText).getD []

end Value

/-- The methods of strings. -/
inductive StringMethod
  | toUpperCase
  | toLowerCase
  | trim
  | trimStart
  | trimEnd
  | startsWith
  | endsWith
  | includes
  | indexOf
  | repeat
  | replace
  | replaceAll
  | split
  | slice
  | charAt
  | padStart
  | padEnd
  | toString
deriving DecidableEq, Repr

namespace StringMethod

/-- The methods by the names under which scripts call them. -/
def names : List (String × StringMethod) := [
  ("toUpperCase", toUpperCase), ("toLowerCase", toLowerCase), ("trim", trim),
  ("trimStart", trimStart), ("trimEnd", trimEnd), ("startsWith", startsWith),
  ("endsWith", endsWith), ("includes", includes), ("indexOf", indexOf), ("repeat", .repeat),
  ("replace", replace), ("replaceAll", replaceAll), ("split", split), ("slice", slice),
  ("substring", slice), ("charAt", charAt), ("padStart", padStart), ("padEnd", padEnd),
  ("toString", toString)]

/-- The method of a name. -/
def ofName? (name : Text) : Option StringMethod := names.lookup (String.ofList name)

/-- The number that says how often a string is to be repeated. -/
def repeatCount (args : List Value) : Float := (args[0]?.map Value.toNumber).getD 0

/-- Whether a string can be repeated that often. -/
def canRepeat (args : List Value) : Bool := 0 ≤ repeatCount args && repeatCount args ≤ 10000

/-- How often a string is repeated if it can be. -/
def repeatTimes (args : List Value) : Nat := Decimal.clampToNat 10000 (repeatCount args)

/-- The length of the string repeated. -/
def repeatBytes (count : Nat → Nat) (s : Text) (args : List Value) : Nat :=
  count (s.byteSize * repeatTimes args)

/-- The string repeated. -/
def callRepeat (s : Text) (args : List Value) : Result Value := do
  unless canRepeat args do
    throw (.invalidRepeatCount (Decimal.display (repeatCount args)))
  checkBytes (repeatBytes id s args)
  return .string (List.replicate (repeatTimes args) s).flatten

/-- The length of the string with every occurrence of a text replaced. -/
def replaceAllBytes (count : Nat → Nat) (s : Text) (args : List Value) : Nat :=
  let needle := Value.argText args 0
  let hits := Text.occurrences needle s
  count (s.byteSize - hits * needle.byteSize + count (hits * (Value.argText args 1).byteSize))

/-- The string with every occurrence of a text replaced. -/
def callReplaceAll (s : Text) (args : List Value) : Result Value := do
  checkBytes (replaceAllBytes id s args)
  return .string (Text.replaceAll (Value.argText args 0) (Value.argText args 1) s)

/-- The pieces of the string between separators. -/
def callSplit (s : Text) (args : List Value) : Value :=
  match args with
  | [] => .list [.string s]
  | separator :: _ =>
    let separator := separator.toText
    if separator.isEmpty then Value.strings (s.map ([·])) else Value.strings (Text.splitOn separator s)

/-- As many characters as asked for, from a text over and over again. -/
def cycle (fill : Text) (count : Nat) : Text :=
  if fill.isEmpty then []
  else ((List.replicate (count / fill.length + 1) fill).flatten).take count

/-- What has to be added to the string to reach a width. -/
def padding (s : Text) (args : List Value) : Result Text := do
  let width := maxNumber ((args[0]?.map Value.toNumber).getD 0) 0
  if Float.ofNat maxStringBytes < width then
    throw (.invalidPadWidth (Decimal.display width))
  let fill := if 1 < args.length then Value.argText args 1 else [' ']
  let missing := Decimal.clampToNat maxStringBytes width - s.length
  checkBytes (s.byteSize + missing * (fill.map Char.utf8Size).foldl Nat.max 0)
  return cycle fill missing

/-- Calls a method of a string. -/
def call (m : StringMethod) (s : Text) (args : List Value) : Result Value :=
  let first := Value.argText args 0
  match m with
  | toUpperCase => .ok (.string (Unicode.toUpper s))
  | toLowerCase => .ok (.string (Unicode.toLower s))
  | trim => .ok (.string s.trim)
  | trimStart => .ok (.string s.trimStart)
  | trimEnd => .ok (.string s.trimEnd)
  | startsWith => .ok (.bool (first.isPrefixOf s))
  | endsWith => .ok (.bool (first.isSuffixOf s))
  | includes => .ok (.bool (Text.holds first s))
  | indexOf => .ok (.number (((Text.indexOf? first s).map Float.ofNat).getD (-1)))
  | .repeat => callRepeat s args
  | replace => .ok (.string (Text.replaceFirst first (Value.argText args 1) s))
  | replaceAll => callReplaceAll s args
  | split => .ok (callSplit s args)
  | slice => .ok (.string (Value.slice s args))
  | charAt =>
    let i := ((args[0]?).getD (Value.number 0)).toIndex? s.length
    .ok (.string ((i.bind (s[·]?)).toList))
  | padStart => do return .string ((← padding s args) ++ s)
  | padEnd => do return .string (s ++ (← padding s args))
  | toString => .ok (.string s)

end StringMethod

/-- The methods of lists. -/
inductive ListMethod
  | join
  | includes
  | indexOf
  | slice
  | reverse
  | concat
  | toString
deriving DecidableEq, Repr

namespace ListMethod

/-- The methods by the names under which scripts call them. -/
def names : List (String × ListMethod) := [
  ("join", join), ("includes", includes), ("indexOf", indexOf), ("slice", slice),
  ("reverse", reverse), ("concat", concat), ("toString", toString)]

/-- The method of a name. -/
def ofName? (name : Text) : Option ListMethod := names.lookup (String.ofList name)

/-- What is put between the items; a comma if it is left out. -/
def separator (args : List Value) : Text := if args.isEmpty then [','] else Value.argText args 0

/-- The length of the items as one string. -/
def joinBytes (items args : List Value) : Nat :=
  let parts := Value.itemTexts items
  parts.foldr (fun part bytes => part.byteSize + bytes) 0 +
    (separator args).byteSize * (parts.length - 1)

/-- The items as one string. -/
def callJoin (items args : List Value) : Result Value := do
  checkBytes (joinBytes items args)
  return .string (Text.join (separator args) (Value.itemTexts items))

/-- The items that a value adds to a list: those of a list, or the value itself. -/
def spread : Value → List Value
  | .list items => items
  | v => [v]

/-- Calls a method of a list. -/
def call (m : ListMethod) (items : List Value) (args : List Value) : Result Value :=
  match m with
  | join => callJoin items args
  | includes => .ok (.bool (args.head?.any fun v => items.any (·.strictEq v)))
  | indexOf =>
    let i := args.head?.bind fun v => items.findIdx? (·.strictEq v)
    .ok (.number ((i.map Float.ofNat).getD (-1)))
  | slice => .ok (.list (Value.slice items args))
  | reverse => .ok (.list items.reverse)
  | concat => .ok (.list (items ++ args.flatMap spread))
  | toString => .ok (.string (Value.list items).toText)

end ListMethod

namespace Value

/-- The property of a value. -/
def property (v : Value) (name : Text) : Result Value :=
  match v with
  | string s => .ok (if name = "length".toList then number (Float.ofNat s.length) else null)
  | list items => .ok (if name = "length".toList then number (Float.ofNat items.length) else null)
  | map entries => .ok (entry entries name)
  | null => .error (.propertyOfNull name)
  | _ => .ok null

/-- The item of a value at an index. -/
def subscript (v index : Value) : Result Value :=
  match v with
  | list items => .ok (((index.toIndex? items.length).bind (items[·]?)).getD null)
  | string s => .ok (((index.toIndex? s.length).bind (s[·]?)).elim null fun c => string [c])
  | map entries => .ok (entry entries index.toText)
  | null => .error (.indexOfNull index.toText)
  | _ => .ok null

/-- Calls a method of a value. -/
def callMethod (v : Value) (name : Text) (args : List Value) : Result Value :=
  match v with
  | string s =>
    match StringMethod.ofName? name with
    | some m => m.call s args
    | none => .error (.noMethod "string" name)
  | list items =>
    match ListMethod.ofName? name with
    | some m => m.call items args
    | none => .error (.noMethod "list" name)
  | v => .error (.noMethod v.typeName name)

/-- Whether `+` joins the value as text. -/
def isTextual : Value → Bool
  | null | bool _ | number _ => false
  | _ => true

/-- The length of the texts of two values joined. -/
def addBytes (a b : Value) : Nat := a.toText.byteSize + b.toText.byteSize

/-- The sum of two values: their texts joined if one of them is textual, else their numbers added. -/
def add (a b : Value) : Result Value :=
  if a.isTextual || b.isTextual then do
    checkBytes (a.addBytes b)
    return string (a.toText ++ b.toText)
  else .ok (number (a.toNumber + b.toNumber))

/-- The value of a binary operator. -/
def combine (op : BinaryOp) (a b : Value) : Result Value :=
  match op with
  | .or => .ok (if a.truthy then a else b)
  | .and => .ok (if a.truthy then b else a)
  | .add => a.add b
  | .sub => .ok (number (a.toNumber - b.toNumber))
  | .mul => .ok (number (a.toNumber * b.toNumber))
  | .div => .ok (number (a.toNumber / b.toNumber))
  | .rem => .ok (number (Decimal.remainder a.toNumber b.toNumber))
  | .equal => .ok (bool (a.strictEq b))
  | .notEqual => .ok (bool (!a.strictEq b))
  | .less => .ok (bool ((a.order? b).any (· == .lt)))
  | .lessEqual => .ok (bool ((a.order? b).any (· != .gt)))
  | .greater => .ok (bool ((a.order? b).any (· == .gt)))
  | .greaterEqual => .ok (bool ((a.order? b).any (· != .lt)))

end Value

end LiveSnippet.Script
