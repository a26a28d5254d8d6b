/-!
# Tables of characters

Properties of characters are given by tables of code points: closed ranges in ascending order, and
runs that a case mapping moves by a common distance (in many alphabets every second character is a
capital).

## Main definitions

* `RangeTable`, `RangeTable.contains`
* `RangeTable.ofRanges`, `RangeTable.union`, `RangeTable.compl`: the algebra of sets
* `RangeTable.ofText`, `RangeTable.runsOf`: tables written as text
* `ShiftTable`, `ShiftTable.apply`, `ShiftTable.preimages`
-/

namespace LiveSnippet.Unicode

/-- A set of code points: closed ranges, ascending and disjoint. -/
abbrev RangeTable := List (Nat × Nat)

namespace RangeTable

/-- Whether one of the ranges holds the code point `n`. -/
def containsCode (n : Nat) : RangeTable → Bool
  | [] => false
  | (first, last) :: rest => if n ≤ last then first ≤ n else containsCode n rest

/-- Whether one of the ranges holds `c`. -/
def contains (table : RangeTable) (c : Char) : Bool := containsCode c.toNat table

/-- The last code point. -/
def lastCode : Nat := 0x10FFFF

/-- Joins `range` and the ranges behind it where they touch, if their starts ascend. -/
def coalesceFrom (range : Nat × Nat) : List (Nat × Nat) → RangeTable
  | [] => [range]
  | next :: rest =>
    if next.1 ≤ range.2 + 1 then coalesceFrom (range.1, max range.2 next.2) rest
    else range :: coalesceFrom next rest

/-- The set that some ranges make up, in any order. -/
def ofRanges (ranges : List (Nat × Nat)) : RangeTable :=
  match ranges.mergeSort fun r s => r.1 ≤ s.1 with
  | [] => []
  | range :: rest => coalesceFrom range rest

/-- The code points of one of two sets. -/
def union (a b : RangeTable) : RangeTable := ofRanges (a ++ b)

/-- The code points from `n` on that are not in the set. -/
def complFrom (n : Nat) : RangeTable → RangeTable
  | [] => if n ≤ lastCode then [(n, lastCode)] else []
  | (first, last) :: rest =>
    if n < first then (n, first - 1) :: complFrom (last + 1) rest else complFrom (last + 1) rest

/-- The code points that are not in the set. -/
def compl (a : RangeTable) : RangeTable := complFrom 0 a

/-- The code points of both sets. -/
def inter (a b : RangeTable) : RangeTable := (a.compl.union b.compl).compl

/-- The code points of `a` that are not in `b`. -/
def diff (a b : RangeTable) : RangeTable := inter a b.compl

/-- The code points of one of two sets, but not of both. -/
def symmDiff (a b : RangeTable) : RangeTable := (a.diff b).union (b.diff a)

/-! ### Tables as text -/

/-- The words of a text, between its blanks. -/
def wordsOf (text : String) : List (List Char) :=
  (text.toList.splitOnP (· == ' ')).filter (· ≠ [])

/-- The number with the given hexadecimal digits. -/
def ofHex (digits : List Char) : Nat :=
  digits.foldl (fun n c =>
    16 * n + (if c.isDigit then c.toNat - '0'.toNat else c.toNat - 'a'.toNat + 10)) 0

/-- The ranges from `n` on, given by the number of code points to pass over and the number of those
that follow, and so on. -/
def ofGaps (n : Nat) : List Nat → RangeTable
  | gap :: length :: rest => (n + gap, n + gap + length - 1) :: ofGaps (n + gap + length) rest
  | _ => []

/-- The set whose gaps and ranges have the lengths that stand in the lines of a text, in
hexadecimal digits. -/
def ofText (lines : List String) : RangeTable :=
  ofGaps 0 ((lines.flatMap wordsOf).map ofHex)

/-- The runs that words stand for, from `n` on: a word is a code of `codeLength` letters and the
length of the run in hexadecimal digits. -/
def runsFrom (codeLength n : Nat) : List (List Char) → List (String × Nat × Nat)
  | [] => []
  | word :: rest =>
    let length := ofHex (word.drop codeLength)
    (String.ofList (word.take codeLength), n, n + length - 1) ::
      runsFrom codeLength (n + length) rest

/-- The runs of code points that the lines of a text list, each with its code. -/
def runsOf (codeLength : Nat) (lines : List String) : List (String × Nat × Nat) :=
  runsFrom codeLength 0 (lines.flatMap wordsOf)

end RangeTable

/-- Every `step`-th code point from `first` to `last` moves by `shift`. -/
structure ShiftRun where
  first : Nat
  last : Nat
  step : Nat
  shift : Int
deriving DecidableEq, Repr

namespace ShiftRun

/-- Whether the run moves the code point `n`. -/
def contains (run : ShiftRun) (n : Nat) : Bool :=
  run.first ≤ n && n ≤ run.last && (n - run.first) % run.step == 0

end ShiftRun

/-- A map of characters that moves the runs it lists and keeps all others. -/
abbrev ShiftTable := List ShiftRun

namespace ShiftTable

/-- The image of `c`. -/
def apply (table : ShiftTable) (c : Char) : Char :=
  match table.find? (·.contains c.toNat) with
  | some run => Char.ofNat (Int.toNat (c.toNat + run.shift))
  | none => c

/-- The moved characters whose image is `c`. -/
def preimages (table : ShiftTable) (c : Char) : List Char :=
  table.filterMap fun run =>
    let n := Int.toNat (c.toNat - run.shift)
    if run.contains n then some (Char.ofNat n) else none

end ShiftTable

end LiveSnippet.Unicode
