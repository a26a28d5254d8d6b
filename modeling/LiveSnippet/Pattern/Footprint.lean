import LiveSnippet.Pattern.Automaton

/-!
# Size of automata

The automaton of a plain expression reads bytes and must not take up more than a fixed amount of
memory, so that counted rounds cannot make it arbitrarily large. The size depends on the number of
its states and, for a set of characters, on the sequences of byte ranges that encode its members.

## Main definitions

* `byteSequences`: the sequences of byte ranges that encode a range of characters
* `Regex.footprint`: the size in bytes
* `Regex.fits`: whether the automaton may be built
-/

namespace LiveSnippet.Pattern

/-- A sequence of byte ranges. -/
abbrev ByteSequence := List (Nat × Nat)

/-- The sequences of digits to base 64 that the numbers from `first` to `last` have, where `digits`
follow the leading one. -/
def digitSequences : (digits first last : Nat) → List ByteSequence
  | 0, first, last => [[(first, last)]]
  | digits + 1, first, last =>
    let unit := Nat.pow 64 (digits + 1)
    let a := first / unit
    let b := last / unit
    let within := fun (lead first last : Nat) =>
      (digitSequences digits first last).map ((lead, lead) :: ·)
    if a = b then within a (first % unit) (last % unit)
    else
      let low := if first % unit = 0 then [] else within a (first % unit) (unit - 1)
      let high := if last % unit = unit - 1 then [] else within b 0 (last % unit)
      let a' := if low.isEmpty then a else a + 1
      let b' := if high.isEmpty then b + 1 else b
      let middle := if a' < b' then [(a', b' - 1) :: List.replicate (digits + 1) (0, 63)] else []
      low ++ middle ++ high

/-- A block of characters that are encoded alike. -/
structure EncodingBlock where
  first : Nat
  last : Nat
  /-- The number of bytes behind the first one. -/
  trailing : Nat
  /-- What the first byte adds to the leading digit. -/
  mark : Nat

/-- The blocks of characters. -/
def encodingBlocks : List EncodingBlock :=
  [⟨0, 0x7F, 0, 0⟩, ⟨0x80, 0x7FF, 1, 0xC0⟩, ⟨0x800, 0xD7FF, 2, 0xE0⟩, ⟨0xE000, 0xFFFF, 2, 0xE0⟩,
    ⟨0x10000, 0x10FFFF, 3, 0xF0⟩]

/-- The sequences of byte ranges that encode a range of characters, without the mark of trailing
bytes. -/
def byteSequences (range : Nat × Nat) : List ByteSequence :=
  encodingBlocks.flatMap fun block =>
    let first := max block.first range.1
    let last := min block.last range.2
    if first ≤ last then
      (digitSequences block.trailing first last).map fun
        | [] => []
        | (a, b) :: rest => (a + block.mark, b + block.mark) :: rest
    else []

/-- The length of what two sequences begin with in common. -/
def commonLength : ByteSequence → ByteSequence → Nat
  | a :: s, b :: t => if a = b then commonLength s t + 1 else 0
  | _, _ => 0

/-- The number of states of a tree of sequences, each of which shares states with the one before. -/
def treeSize (before : ByteSequence) : List ByteSequence → Nat
  | [] => 0
  | s :: rest => s.length - commonLength before s + treeSize s rest

namespace CharSet

/-- The size of the states that read a character of a set. -/
def footprint (s : CharSet) : Nat :=
  match s with
  | [] => 32
  | [(first, last)] =>
    if first = last then 32 * (Char.ofNat first).utf8Size else wide
  | _ => wide
where
  /-- The size for a set of several characters. -/
  wide : Nat :=
    if s.all (·.2 ≤ 0x7F) then 64 + 8 * s.length
    else
      let sequences := s.flatMap byteSequences
      64 + 4 * sequences.length + 32 * treeSize [] sequences

end CharSet

namespace Regex

/-- The set that alternatives of one character each make up, if they all are such sets. -/
def unionOfSets? : List Regex → Option CharSet
  | [] => some CharSet.none
  | set s :: rs => (unionOfSets? rs).map s.union
  | _ => none

/-- The size of rounds between two bounds, if a round has size `inner`. -/
def roundsFootprint (nullable : Bool) (inner least : Nat) : (most : Option Nat) → Nat
  | some most => inner * least + if least < most then 32 + (most - least) * (inner + 40) else 0
  | none =>
    if least = 0 then inner + (if nullable then 112 else 40) else inner * least + 40

mutual

/-- The size of the automaton of a plain expression, in bytes. -/
def footprint : Regex → Nat
  | set s => s.footprint
  | assert _ => 32
  | concat rs => footprintAll rs
  | alt rs =>
    match unionOfSets? rs with
    | some s => s.footprint
    | none => 4 * rs.length + 32 + footprintAny rs
  | .repeat r least most _ =>
    let (least, most) := r.plainBounds least most
    roundsFootprint (r.extent.least == 0) r.footprint least most
  | group _ r => 64 + r.footprint
  | _ => 0

/-- The size of expressions one after the other. -/
def footprintAll : List Regex → Nat
  | [] => 0
  | r :: rs => r.footprint + footprintAll rs

/-- The size of alternatives. -/
def footprintAny : List Regex → Nat
  | [] => 0
  | r :: rs => r.footprint + 32 + footprintAny rs

end

/-- The largest size of an automaton, in bytes. -/
def maxFootprint : Nat := 10 * Nat.pow 2 20

/-- The largest number of rounds that an automaton may count to. -/
def maxRounds : Nat := Nat.pow 2 32 - 1

mutual

/-- Whether the bounds of all loops are in order. -/
def boundsInOrder : Regex → Bool
  | concat rs | alt rs => allBoundsInOrder rs
  | .repeat r least most _ =>
    least ≤ most.getD maxRounds && most.all (· ≤ maxRounds) && least ≤ maxRounds && r.boundsInOrder
  | group _ r => r.boundsInOrder
  | _ => true

/-- Whether the bounds of all loops in expressions are in order. -/
def allBoundsInOrder : List Regex → Bool
  | [] => true
  | r :: rs => r.boundsInOrder && allBoundsInOrder rs

end

/-- Whether a plain expression may be matched by an automaton. -/
def fits (r : Regex) : Bool := r.boundsInOrder && r.footprint ≤ maxFootprint

end Regex

end LiveSnippet.Pattern
