/-!
# Floating-point numbers as fractions

A finite number is a mantissa times a power of two. All that is exact about numbers, such as
remainders, integral parts and digits, is computed on this form.

## Main definitions

* `Binary`, `Binary.ofFloat`: the decoded form of a number
* `roundQuotient`: the number nearest to a quotient of natural numbers
* `remainder`, `natural?`, `clampToNat`
-/

namespace LiveSnippet.Decimal

/-- A decoded number. -/
inductive Binary
  | nan
  | infinite (negative : Bool)
  /-- The number `mantissa * 2 ^ exponent`, negated if `negative`. -/
  | finite (negative : Bool) (mantissa : Nat) (exponent : Int)
deriving DecidableEq, Repr

namespace Binary

/-- Decodes sign, exponent and fraction. -/
def ofBits (bits : Nat) : Binary :=
  let negative := decide (bits / Nat.pow 2 63 % 2 = 1)
  let exponent : Nat := bits / Nat.pow 2 52 % Nat.pow 2 11
  let fraction : Nat := bits % Nat.pow 2 52
  if exponent = Nat.pow 2 11 - 1 then
    if fraction = 0 then infinite negative else nan
  else if exponent = 0 then finite negative fraction (-1074)
  else finite negative (Nat.pow 2 52 + fraction) (exponent - 1075)

/-- The decoded form of a number. -/
def ofFloat (x : Float) : Binary := ofBits x.toBits.toNat

end Binary

/-- `n * 2 ^ e` as numerator and denominator. -/
def scaleTwo (n : Nat) (e : Int) : Nat × Nat :=
  match e with
  | .ofNat k => (n * Nat.pow 2 k, 1)
  | .negSucc k => (n, Nat.pow 2 (k + 1))

/-- The quotient rounded to the nearest integer, a half to the even one. -/
def roundDiv (num den : Nat) : Nat :=
  let q := num / den
  let r := num % den
  if 2 * r < den then q
  else if den < 2 * r then q + 1
  else q + q % 2

/-- The bits of the number nearest to `num / den`. Of two equally near numbers the one with an even
mantissa counts; what is too large is infinite. -/
def quotientBits (num den : Nat) : Nat :=
  if num = 0 || den = 0 then 0
  else
    let guess : Int := (num.log2 : Int) - den.log2 - 52
    let fits := fun (q : Int) =>
      let (s, t) := scaleTwo 1 q
      decide (Nat.pow 2 52 * den * s ≤ num * t)
    let q := max (if fits guess then guess else guess - 1) (-1074)
    let (s, t) := scaleTwo 1 q
    let n := roundDiv (num * t) (den * s)
    let (n, q) := if n = Nat.pow 2 53 then (Nat.pow 2 52, q + 1) else (n, q)
    if 971 < q then (Nat.pow 2 11 - 1) * Nat.pow 2 52
    else if n < Nat.pow 2 52 then n
    else Int.toNat (q + 1075) * Nat.pow 2 52 + (n - Nat.pow 2 52)

/-- The number nearest to `num / den`. -/
def roundQuotient (num den : Nat) : Float := Float.ofBits (UInt64.ofNat (quotientBits num den))

/-- Whether a number is not a number. -/
def isNaN (x : Float) : Bool := Binary.ofFloat x == .nan

/-- The number that no number equals. -/
def nan : Float := Float.ofBits 0x7FF8000000000000

/-- Positive infinity. -/
def infinity : Float := Float.ofBits 0x7FF0000000000000

/-- Minus one raised to the sign. -/
def withSign (negative : Bool) (x : Float) : Float := if negative then -x else x

/-- The magnitude rounded down to a natural number. -/
def wholePart (mantissa : Nat) (exponent : Int) : Nat :=
  let (num, den) := scaleTwo mantissa exponent
  num / den

/-- Whether `mantissa * 2 ^ exponent` is an integer. -/
def isWhole (mantissa : Nat) (exponent : Int) : Bool :=
  let (num, den) := scaleTwo mantissa exponent
  num % den == 0

/-- What is left of `x` after taking away as many whole multiples of `y` as fit; it has the sign of
`x`. -/
def remainder (x y : Float) : Float :=
  match Binary.ofFloat x, Binary.ofFloat y with
  | .finite negative m e, .finite _ m' e' =>
    if m' = 0 then nan
    else
      let low := min e e'
      let r := (m * Nat.pow 2 (e - low).toNat) % (m' * Nat.pow 2 (e' - low).toNat)
      let (num, den) := scaleTwo r low
      withSign negative (roundQuotient num den)
  | .finite .., .infinite _ => x
  | _, _ => nan

/-- The natural number that `x` is, if it is one. -/
def natural? (x : Float) : Option Nat :=
  match Binary.ofFloat x with
  | .finite negative m e =>
    if isWhole m e && (!negative || m == 0) then some (wholePart m e) else none
  | _ => none

/-- The natural number nearest to zero from `x`, zero for what is negative or no number, and `top`
for what is larger than `top`. -/
def clampToNat (top : Nat) (x : Float) : Nat :=
  match Binary.ofFloat x with
  | .finite false m e => min top (wholePart m e)
  | .infinite false => top
  | _ => 0

end LiveSnippet.Decimal
