import LiveSnippet.Decimal.Binary

/-!
# Shortest digits

The shortest decimal that reads back as a given number: of all decimals with the least number of
digits the one nearest to the number, and of two equally near ones the larger.

A number `m * 2 ^ q` is the nearest one to every real within half the distance to its neighbours,
the ends included if and only if `m` is even. On the grid of multiples of a power of ten the only
candidates are the two grid points next to the number, since the set is an interval around it.

## Main definitions

* `Digits`: a decimal as digits and exponent
* `leadingExponent`: the exponent of the first digit
* `onGrid?`: the best grid point of a given number of digits
* `shortest`: the shortest decimal
-/

namespace LiveSnippet.Decimal

/-- The decimal `value * 10 ^ exponent`. -/
structure Digits where
  value : Nat
  exponent : Int
deriving DecidableEq, Repr

/-- `m * 2 ^ q / 10 ^ p` as numerator and denominator. -/
def scaled (m : Nat) (q p : Int) : Nat × Nat :=
  let (num, den) := scaleTwo m q
  match p with
  | .ofNat k => (num, den * Nat.pow 10 k)
  | .negSucc k => (num * Nat.pow 10 (k + 1), den)

/-- The largest `p` with `10 ^ p ≤ m * 2 ^ q`, for a positive `m`. -/
def leadingExponent (m : Nat) (q : Int) : Int :=
  let guess := ((m.log2 : Int) + q) * 30103 / 100000
  let fits := fun (p : Int) => let (num, den) := scaled m q p; decide (den ≤ num)
  (([guess + 1, guess, guess - 1].find? fits).getD (guess - 2))

/-- The distance to the number below, in quarters of the last place of the mantissa, halved. Below a
power of two the numbers stand twice as close. -/
def lowerMargin (m : Nat) (q : Int) : Nat := if m = Nat.pow 2 52 ∧ -1074 < q then 1 else 2

/-- The grid point of exponent `p` that reads back as `m * 2 ^ q` and is nearest to it. -/
def onGrid? (m : Nat) (q p : Int) : Option Digits :=
  let (unit, den) := scaled 1 (q - 2) p
  let d := 4 * m * unit / den
  let rest := 4 * m * unit % den
  let low := (4 * m - lowerMargin m q) * unit
  let high := (4 * m + 2) * unit
  let even := m % 2 == 0
  let below := low < d * den || even && low == d * den
  let above := (d + 1) * den < high || even && (d + 1) * den == high
  match below, above with
  | true, true => some ⟨if 2 * rest < den then d else d + 1, p⟩
  | true, false => some ⟨d, p⟩
  | false, true => some ⟨d + 1, p⟩
  | false, false => none

/-- Moves zeros at the end of the digits, at most `n` of them, into the exponent. -/
def dropZeros : Nat → Digits → Digits
  | 0, d => d
  | n + 1, d => if d.value % 10 = 0 then dropZeros n ⟨d.value / 10, d.exponent + 1⟩ else d

/-- The shortest decimal that reads back as `m * 2 ^ q`, for a positive `m`. Seventeen digits are
always enough. -/
def shortest (m : Nat) (q : Int) : Digits :=
  let top := leadingExponent m q
  let grids := (List.range 17).map fun (k : Nat) => top - (k : Int)
  match grids.findSome? (onGrid? m q) with
  | some d => dropZeros 17 d
  | none => ⟨m, 0⟩

end LiveSnippet.Decimal
