import LiveSnippet.Proofs.Text.Size
import Mathlib.Order.Monotone.Basic

/-!
# Byte offsets

A place in a text is told by the index of a character or by a byte offset. Not every offset is a
place: it may lie inside a character or behind the end of the text.

## Main definitions

* `behind?`, `IsBoundary`: what stands behind an offset that is a place
* `next?`: the place one character further on
* `offsetOf`, `indexAt`: offsets from indices, and back

## Main results

* `indexAt_offsetOf`: an index is told from its offset
* `isBoundary_iff`: the places are the offsets of indices
* `next?_offsetOf`: one character further on is the next index
* `IsBoundary.le_of_lt_next`: no place lies between the two
-/

namespace LiveSnippet.Text

variable {text : Text} {i j o o' : Nat}

/-- What stands behind a byte offset; `none` inside a character and behind the end. -/
def behind? : Text → Nat → Option Text
  | text, 0 => some text
  | [], _ + 1 => none
  | c :: rest, o + 1 => if c.utf8Size ≤ o + 1 then behind? rest (o + 1 - c.utf8Size) else none

/-- An offset is a place in the text. -/
def IsBoundary (text : Text) (o : Nat) : Prop := (text.behind? o).isSome

instance (text : Text) (o : Nat) : Decidable (text.IsBoundary o) :=
  inferInstanceAs (Decidable ((text.behind? o).isSome = true))

/-- The offset behind the character at a place; at the end of the text it is one byte further on. -/
def next? (text : Text) (o : Nat) : Option Nat :=
  (text.behind? o).map fun rest => o + (rest.head?.map Char.utf8Size).getD 1

/-- The byte offset of an index. Behind the end each index counts for one byte. -/
def offsetOf : Text → Nat → Nat
  | [], i => i
  | _ :: _, 0 => 0
  | c :: rest, i + 1 => c.utf8Size + offsetOf rest i

/-- The index of the character in which a byte offset lies. -/
def indexAt : Text → Nat → Nat
  | [], o => o
  | c :: rest, o => if o < c.utf8Size then 0 else indexAt rest (o - c.utf8Size) + 1

/-! ### Offsets of indices -/

@[simp] theorem offsetOf_zero (text : Text) : text.offsetOf 0 = 0 := by
  cases text <;> rfl

@[simp] theorem offsetOf_length (text : Text) : text.offsetOf text.length = text.byteSize := by
  induction text with
  | nil => rfl
  | cons c rest ih => rw [List.length_cons, offsetOf, ih, byteSize_cons]

theorem offsetOf_lt_succ (text : Text) (i : Nat) : text.offsetOf i < text.offsetOf (i + 1) := by
  induction text generalizing i with
  | nil => exact i.lt_succ_self
  | cons c rest ih =>
    cases i with
    | zero => exact Nat.lt_add_right _ c.utf8Size_pos
    | succ i => exact Nat.add_lt_add_left (ih i) _

theorem offsetOf_strictMono (text : Text) : StrictMono text.offsetOf :=
  strictMono_nat_of_lt_succ text.offsetOf_lt_succ

theorem byteSize_lt_offsetOf_iff : text.byteSize < text.offsetOf i ↔ text.length < i := by
  rw [← offsetOf_length, text.offsetOf_strictMono.lt_iff_lt]

theorem indexAt_offsetOf (text : Text) (i : Nat) : text.indexAt (text.offsetOf i) = i := by
  induction text generalizing i with
  | nil => rfl
  | cons c rest ih =>
    cases i with
    | zero => exact if_pos c.utf8Size_pos
    | succ i =>
      rw [offsetOf, indexAt, if_neg (Nat.not_lt.mpr (Nat.le_add_right _ _)), Nat.add_sub_cancel_left,
        ih]

/-! ### Places -/

theorem behind?_offsetOf (h : i ≤ text.length) :
    text.behind? (text.offsetOf i) = some (text.drop i) := by
  induction text generalizing i with
  | nil =>
    obtain rfl : i = 0 := Nat.le_zero.mp h
    rfl
  | cons c rest ih =>
    cases i with
    | zero => rfl
    | succ i =>
      have hne : c.utf8Size + offsetOf rest i ≠ 0 :=
        (Nat.lt_add_right _ c.utf8Size_pos).ne'
      obtain ⟨n, hn⟩ := Nat.exists_eq_add_one_of_ne_zero hne
      rw [offsetOf, hn, behind?, if_pos (by omega), ← hn, Nat.add_sub_cancel_left,
        ih (Nat.le_of_succ_le_succ h), List.drop_succ_cons]

/-- The places are the offsets of indices. -/
theorem isBoundary_iff : text.IsBoundary o ↔ ∃ i ≤ text.length, text.offsetOf i = o := by
  constructor
  · intro h
    induction text generalizing o with
    | nil =>
      cases o with
      | zero => exact ⟨0, le_rfl, rfl⟩
      | succ o => cases h
    | cons c rest ih =>
      cases o with
      | zero => exact ⟨0, Nat.zero_le _, rfl⟩
      | succ o =>
        rw [IsBoundary, behind?] at h
        split_ifs at h with hle
        · obtain ⟨i, hi, heq⟩ := ih h
          exact ⟨i + 1, Nat.succ_le_succ hi, by rw [offsetOf, heq]; omega⟩
        · cases h
  · rintro ⟨i, hi, rfl⟩
    rw [IsBoundary, behind?_offsetOf hi]
    rfl

theorem IsBoundary.le_byteSize (h : text.IsBoundary o) : o ≤ text.byteSize := by
  obtain ⟨i, hi, rfl⟩ := isBoundary_iff.mp h
  rw [← offsetOf_length]
  exact text.offsetOf_strictMono.monotone hi

/-- One character further on is the next index. -/
theorem next?_offsetOf (h : i ≤ text.length) :
    text.next? (text.offsetOf i) = some (text.offsetOf (i + 1)) := by
  rw [next?, behind?_offsetOf h, Option.map_some]
  congr 1
  induction text generalizing i with
  | nil =>
    obtain rfl : i = 0 := Nat.le_zero.mp h
    rfl
  | cons c rest ih =>
    cases i with
    | zero => simp [offsetOf]
    | succ i =>
      have hnext := ih (Nat.le_of_succ_le_succ h)
      rw [List.drop_succ_cons, offsetOf, offsetOf, Nat.add_assoc, hnext]

/-- Between a place and the one behind its character there is no other. -/
theorem IsBoundary.le_of_lt_next {next : Nat} (h : text.IsBoundary o) (h' : text.IsBoundary o')
    (hnext : text.next? o = some next) (hlt : o' < next) : o' ≤ o := by
  obtain ⟨i, hi, rfl⟩ := isBoundary_iff.mp h
  obtain ⟨j, hj, rfl⟩ := isBoundary_iff.mp h'
  rw [next?_offsetOf hi] at hnext
  obtain rfl := Option.some.inj hnext
  rw [text.offsetOf_strictMono.lt_iff_lt] at hlt
  exact text.offsetOf_strictMono.monotone (Nat.le_of_lt_succ hlt)

end LiveSnippet.Text
