import LiveSnippet.Decimal.Notation
import LiveSnippet.Script.Error
import LiveSnippet.Script.Syntax
import LiveSnippet.Text.Search

/-!
# Values of the script language

Values are immutable. A function is known by the place of its declaration, so two functions are
equal exactly if they come from the same declaration.

## Main definitions

* `Value`, `Builtin`, `Site`
* `Value.truthy`, `Value.toText`, `Value.toNumber`: conversions
* `Value.strictEq`, `Value.order?`: comparisons
-/

namespace LiveSnippet.Script

/-- The functions that every script can use. -/
inductive Builtin
  | string
  | number
  | boolean
  | parseInt
  | len
  | floor
  | ceil
  | round
  | abs
  | min
  | max
  | pow
  | sqrt
deriving DecidableEq, Repr

namespace Builtin

/-- The name under which scripts find the function. -/
def name : Builtin → String
  | string => "String"
  | number => "Number"
  | boolean => "Boolean"
  | parseInt => "parseInt"
  | len => "len"
  | floor => "floor"
  | ceil => "ceil"
  | round => "round"
  | abs => "abs"
  | min => "min"
  | max => "max"
  | pow => "pow"
  | sqrt => "sqrt"

end Builtin

/-- Where a statement stands: its index among its neighbours, then the site of what holds it, up to
the number of the program that was run. -/
abbrev Site := List Nat

/-- A value. The entries of a map have ascending keys. -/
inductive Value
  | null
  | bool (value : Bool)
  | number (value : Float)
  | string (value : Text)
  | list (items : List Value)
  | map (entries : List (Text × Value))
  | function (decl : FunctionDecl) (site : Site)
  | builtin (which : Builtin)
deriving Inhabited

/-- The number that a script writes for a number: integers below 10^21 in full, all others by their
shortest decimal. -/
def numberText (x : Float) : Text :=
  match Decimal.Binary.ofFloat x with
  | .nan => "NaN".toList
  | .infinite negative => if negative then "-Infinity".toList else "Infinity".toList
  | .finite negative m e =>
    if Decimal.isWhole m e && Decimal.wholePart m e < Nat.pow 10 21 then
      Text.ofInt (if negative then -(Decimal.wholePart m e : Int) else Decimal.wholePart m e)
    else Decimal.display x

/-- The number that a text spells. White space around it is ignored, a blank text is zero, and what
spells no number is not a number. -/
def readNumber (text : Text) : Float :=
  let text := text.trim
  if text.isEmpty then 0
  else if text = "Infinity".toList || text = "+Infinity".toList then Decimal.infinity
  else if text = "-Infinity".toList then -Decimal.infinity
  else (Decimal.read? text).getD Decimal.nan

/-- The integer that a text begins with, whatever follows it. -/
def readInteger (text : Text) : Float :=
  let text := Text.trimStart text
  let (negative, digits) := match text with
    | '-' :: rest => (true, rest)
    | '+' :: rest => (false, rest)
    | _ => (false, text)
  let digits := digits.takeWhile Char.isDigit
  if digits.isEmpty then Decimal.nan
  else Decimal.withSign negative (Decimal.ofDecimal (Decimal.digitsValue digits) 0)

namespace Value

/-- A list of strings. -/
def strings (texts : List Text) : Value := list (texts.map string)

/-- Whether the value is null. -/
def isNull : Value → Bool
  | null => true
  | _ => false

/-- Whether a condition holds of the value. -/
def truthy : Value → Bool
  | null => false
  | bool b => b
  | number x => !(x == 0) && !Decimal.isNaN x
  | string s => !s.isEmpty
  | _ => true

/-- The name of the type of the value. -/
def typeName : Value → String
  | null => "null"
  | bool _ => "boolean"
  | number _ => "number"
  | string _ => "string"
  | list _ => "list"
  | map _ => "object"
  | function .. => "function"
  | builtin _ => "function"

mutual

/-- The value as a string. -/
def toText : Value → Text
  | null => "null".toList
  | bool b => (if b then "true" else "false").toList
  | number x => numberText x
  | string s => s
  | list items => Text.join [','] (itemTexts items)
  | map _ => "[object Object]".toList
  | function decl _ => "function ".toList ++ decl.name
  | builtin which => "function ".toList ++ which.name.toList

/-- The items of a list as strings. Null is empty. -/
def itemTexts : List Value → List Text
  | [] => []
  | v :: rest => (if v.isNull then [] else toText v) :: itemTexts rest

end

/-- The value as a number. -/
def toNumber : Value → Float
  | null => 0
  | bool b => if b then 1 else 0
  | number x => x
  | string s => readNumber s
  | list items => readNumber (toText (list items))
  | _ => Decimal.nan

mutual

/-- Whether two values have the same type and the same contents. -/
def strictEq : Value → Value → Bool
  | null, null => true
  | bool a, bool b => a == b
  | number a, number b => a == b
  | string a, string b => a == b
  | list as, list bs => strictEqItems as bs
  | map as, map bs => strictEqEntries as bs
  | function _ a, function _ b => a == b
  | builtin a, builtin b => a == b
  | _, _ => false

/-- Whether two lists have equal items. -/
def strictEqItems : List Value → List Value → Bool
  | [], [] => true
  | a :: as, b :: bs => strictEq a b && strictEqItems as bs
  | _, _ => false

/-- Whether two maps have equal entries. -/
def strictEqEntries : List (Text × Value) → List (Text × Value) → Bool
  | [], [] => true
  | (k, a) :: as, (k', b) :: bs => k == k' && strictEq a b && strictEqEntries as bs
  | _, _ => false

end

/-- The order of two values: of strings by their characters, of all others by their numbers, which
may have no order. -/
def order? (a b : Value) : Option Ordering :=
  match a, b with
  | string s, string t => some (if s = t then .eq else if s < t then .lt else .gt)
  | _, _ =>
    let x := a.toNumber
    let y := b.toNumber
    if x < y then some .lt else if y < x then some .gt else if x == y then some .eq else none

/-- The entry of a map with the given key; null if there is none. -/
def entry (entries : List (Text × Value)) (key : Text) : Value :=
  (entries.lookup key).getD null

/-- Puts an entry into ascending entries, in the place of one with the same key. -/
def putEntry (key : Text) (value : Value) : List (Text × Value) → List (Text × Value)
  | [] => [(key, value)]
  | (k, v) :: rest =>
    if key = k then (key, value) :: rest
    else if key < k then (key, value) :: (k, v) :: rest
    else (k, v) :: putEntry key value rest

/-- The map with the given entries, a later one before an earlier one of the same key. -/
def ofEntries (entries : List (Text × Value)) : Value :=
  map (entries.foldl (fun sorted e => putEntry e.1 e.2 sorted) [])

end Value

end LiveSnippet.Script
