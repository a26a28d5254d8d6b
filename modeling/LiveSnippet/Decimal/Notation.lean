import LiveSnippet.Decimal.Shortest
import LiveSnippet.Text.Basic

/-!
# Numbers as text

Numbers are written positionally, whatever their size, and read with an optional exponent.

## Main definitions

* `positional`: the numeral of a decimal
* `display`: a number by its shortest decimal
* `read?`: the number that a numeral denotes
-/

namespace LiveSnippet.Decimal

/-- The numeral of a decimal, without exponent. -/
def positional (d : Digits) : Text :=
  let digits := Text.ofNat d.value
  match d.exponent with
  | .ofNat k => digits ++ List.replicate k '0'
  | .negSucc k =>
    let places := k + 1
    if places < digits.length then
      digits.take (digits.length - places) ++ '.' :: digits.drop (digits.length - places)
    else '0' :: '.' :: List.replicate (places - digits.length) '0' ++ digits

/-- A number by its shortest decimal; infinities are `inf` and zero keeps its sign. -/
def display (x : Float) : Text :=
  let signed := fun (negative : Bool) (t : Text) => if negative then '-' :: t else t
  match Binary.ofFloat x with
  | .nan => "NaN".toList
  | .infinite negative => signed negative "inf".toList
  | .finite negative m q => signed negative (if m = 0 then ['0'] else positional (shortest m q))

/-- The value of ASCII digits. -/
def digitsValue (digits : Text) : Nat :=
  digits.foldl (fun n c => 10 * n + (c.toNat - '0'.toNat)) 0

/-- The number nearest to `digits * 10 ^ exponent`. Exponents far outside the range of numbers are
not expanded. -/
def ofDecimal (digits : Nat) (exponent : Int) : Float :=
  let size := (Nat.toDigits 10 digits).length + exponent
  if digits = 0 then 0
  else if 400 < size then infinity
  else if size < -400 then 0
  else match exponent with
    | .ofNat k => roundQuotient (digits * Nat.pow 10 k) 1
    | .negSucc k => roundQuotient digits (Nat.pow 10 (k + 1))

/-- The exponent at the end of a numeral: nothing, or `e` with a signed number. -/
def readExponent? : Text → Option Int
  | [] => some 0
  | e :: rest =>
    if e = 'e' || e = 'E' then
      match rest with
      | '-' :: ds => (Text.toNat? ds).map fun n => -(n : Int)
      | '+' :: ds => (Text.toNat? ds).map Int.ofNat
      | ds => (Text.toNat? ds).map Int.ofNat
    else none

/-- The number that an unsigned numeral denotes: digits with at most one point among them and a
digit on one side of it at least, then an exponent. -/
def readUnsigned? (text : Text) : Option Float :=
  let whole := text.takeWhile Char.isDigit
  let rest := text.dropWhile Char.isDigit
  let (fraction, rest) := match rest with
    | '.' :: rest => (rest.takeWhile Char.isDigit, rest.dropWhile Char.isDigit)
    | rest => ([], rest)
  if whole.isEmpty && fraction.isEmpty then none
  else (readExponent? rest).map fun e => ofDecimal (digitsValue (whole ++ fraction)) (e - fraction.length)

/-- The number that a numeral with an optional sign denotes. -/
def read? : Text → Option Float
  | '-' :: rest => (readUnsigned? rest).map Float.neg
  | '+' :: rest => readUnsigned? rest
  | text => readUnsigned? text

end LiveSnippet.Decimal
