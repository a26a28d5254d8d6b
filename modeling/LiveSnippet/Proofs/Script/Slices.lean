import LiveSnippet.Proofs.Decimal.Negation
import LiveSnippet.Script.Method

/-!
# Slices

A slice of a string or a list is what stands between two bounds. An argument denotes a bound by its
integral part, which counts from the end if it is negative; what lies outside the sequence is brought
to its nearest end. What is not a number is the start of the sequence, and so is a missing start; a
missing end is the end of the sequence. An end before the start is brought to the start.

Both bounds are resolved alike, so a bound cuts a sequence into two slices that together are the
sequence.

## Main definitions

* `Binary.bound`: the bound that a number denotes
* `Value.startBound`, `Value.stopBound`: the bounds of a slice
* `IsRun`: a part of a list from one place to another

## Main results

* `Value.toBound_eq`: what the code works out is the bound that the number denotes
* `Value.slice_cuts`: slices are runs, and the slices on both sides of a bound are the whole
-/

namespace LiveSnippet

namespace Decimal.Binary

/-- The bound in a sequence of `count` items that a decoded number denotes. -/
def bound (count : Nat) : Binary → Nat
  | nan => 0
  | infinite negative => if negative then 0 else count
  | finite negative m e =>
    let n : Int := if negative then -wholePart m e else wholePart m e
    if n < 0 then (count + n).toNat else min n.toNat count

theorem bound_le (count : Nat) (x : Binary) : x.bound count ≤ count := by
  cases x with
  | nan => exact Nat.zero_le _
  | infinite negative => cases negative <;> simp [bound]
  | finite negative m e =>
    simp only [bound]
    split_ifs <;> omega

end Decimal.Binary

/-- Of `items`, those from place `start` to place `stop` are `run`. -/
def IsRun {α : Type} (items : List α) (start stop : Nat) (run : List α) : Prop :=
  ∃ front back, items = front ++ run ++ back ∧ front.length = start ∧ (front ++ run).length = stop

theorem isRun_take_drop {α : Type} {items : List α} {start stop : Nat} (h : start ≤ stop)
    (hstop : stop ≤ items.length) : IsRun items start stop ((items.take stop).drop start) := by
  have hfront : items.take start = (items.take stop).take start := by
    rw [List.take_take, Nat.min_eq_left h]
  refine ⟨items.take start, items.drop stop, ?_, ?_, ?_⟩
  · rw [hfront, List.take_append_drop, List.take_append_drop]
  · exact List.length_take_of_le (h.trans hstop)
  · rw [hfront, List.take_append_drop, List.length_take_of_le hstop]

namespace Script.Value

open Decimal (Binary)

variable (args : List Value) (count : Nat)

/-- The bound that the argument at an index denotes, if it is not missing. -/
def argBound (i missing : Nat) : Nat :=
  (args[i]?.map fun v => (Binary.ofFloat v.toNumber).bound count).getD missing

/-- The place where a slice starts. -/
def startBound : Nat := argBound args count 0 0

/-- The place where a slice ends. -/
def stopBound : Nat := max (argBound args count 1 count) (startBound args count)

/-- The bound of an argument depends on its decoded number alone. -/
theorem toBound_eq (v : Value) : v.toBound count = (Binary.ofFloat v.toNumber).bound count := by
  rw [toBound]
  simp only [Binary.le_neg_one_iff, Decimal.clampToNat, Binary.ofFloat_neg]
  cases Binary.ofFloat v.toNumber with
  | nan => rfl
  | infinite negative => cases negative <;> simp [Binary.bound, Binary.atMostNegOne, Binary.neg]
  | finite negative m e =>
    cases negative with
    | false =>
      have hnat : ¬(Decimal.wholePart m e : Int) < 0 := Int.not_lt.mpr (Int.natCast_nonneg _)
      simp [Binary.bound, Binary.atMostNegOne, hnat, Nat.min_comm]
    | true =>
      simp only [Binary.bound, Binary.atMostNegOne, Binary.neg, Bool.true_and, decide_eq_true_eq,
        Bool.not_true, if_true]
      split_ifs <;> omega

theorem sliceBounds_eq : sliceBounds count args = (startBound args count, stopBound args count) := by
  simp only [sliceBounds, toBound_eq]
  rfl

theorem argBound_le {i missing : Nat} (h : missing ≤ count) : argBound args count i missing ≤ count := by
  rw [argBound]
  cases args[i]? with
  | none => exact h
  | some v => exact Binary.bound_le count _

theorem startBound_le_stopBound : startBound args count ≤ stopBound args count :=
  Nat.le_max_right _ _

theorem stopBound_le : stopBound args count ≤ count :=
  Nat.max_le.mpr ⟨argBound_le args count le_rfl, argBound_le args count (Nat.zero_le _)⟩

theorem isRun_slice {α : Type} (items : List α) :
    IsRun items (startBound args items.length) (stopBound args items.length) (slice items args) := by
  rw [slice, sliceBounds_eq]
  exact isRun_take_drop (startBound_le_stopBound args _) (stopBound_le args _)

theorem bound_zero : (Binary.ofFloat (number 0).toNumber).bound count = 0 := by
  have hzero : Binary.ofFloat (number 0).toNumber = .finite false 0 (-1074) := by decide
  rw [hzero, Binary.bound, Binary.wholePart_zero]
  exact Nat.zero_min count

theorem slice_append_slice {α : Type} (items : List α) (k : Value) :
    slice items [number 0, k] ++ slice items [k] = items := by
  have hle := Binary.bound_le items.length (Binary.ofFloat k.toNumber)
  have hfront : sliceBounds items.length [number 0, k] =
      (0, (Binary.ofFloat k.toNumber).bound items.length) := by
    rw [sliceBounds_eq, stopBound, startBound]
    simp [argBound, bound_zero]
  have hback : sliceBounds items.length [k] =
      ((Binary.ofFloat k.toNumber).bound items.length, items.length) := by
    rw [sliceBounds_eq, stopBound, startBound]
    simp [argBound, hle]
  rw [slice, slice, hfront, hback]
  dsimp only
  rw [List.drop_zero, List.take_length, List.take_append_drop]

/-- A slice is the run between its bounds, which stay in order and inside the sequence, whatever the
arguments are. The slices up to a bound and from it on are the whole sequence. -/
theorem slice_cuts (args : List Value) (k : Value) :
    (∀ count, sliceBounds count args = (startBound args count, stopBound args count) ∧
      startBound args count ≤ stopBound args count ∧ stopBound args count ≤ count) ∧
    (∀ s : Text, ∃ run, (string s).callMethod "slice".toList args = .ok (string run) ∧
      IsRun s (startBound args s.length) (stopBound args s.length) run) ∧
    (∀ items : List Value, ∃ run, (list items).callMethod "slice".toList args = .ok (list run) ∧
      IsRun items (startBound args items.length) (stopBound args items.length) run) ∧
    (∀ s : Text, ∃ front back,
      (string s).callMethod "slice".toList [number 0, k] = .ok (string front) ∧
      (string s).callMethod "slice".toList [k] = .ok (string back) ∧ front ++ back = s) ∧
    ∀ items : List Value, ∃ front back,
      (list items).callMethod "slice".toList [number 0, k] = .ok (list front) ∧
      (list items).callMethod "slice".toList [k] = .ok (list back) ∧ front ++ back = items := by
  refine ⟨fun count => ?bounds, fun s => ?string, fun items => ?list, fun s => ?cutString,
    fun items => ?cutList⟩
  case bounds =>
    exact ⟨sliceBounds_eq args count, startBound_le_stopBound args count, stopBound_le args count⟩
  case string => exact ⟨slice s args, rfl, isRun_slice args s⟩
  case list => exact ⟨slice items args, rfl, isRun_slice args items⟩
  case cutString => exact ⟨_, _, rfl, rfl, slice_append_slice s k⟩
  case cutList => exact ⟨_, _, rfl, rfl, slice_append_slice items k⟩

/-- A negative bound counts characters from the end. -/
example : (string "hé…llo".toList).callMethod "slice".toList [number 1, number (-1)] =
    .ok (string "é…ll".toList) := by
  rfl

end Script.Value

end LiveSnippet
