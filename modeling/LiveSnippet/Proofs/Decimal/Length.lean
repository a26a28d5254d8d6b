import LiveSnippet.Script.Value
import Mathlib.Data.Nat.Digits.Defs
import Mathlib.Tactic.Common

/-!
# The length of numerals

A number of 64 bits is below `2 ^ 1024` and a multiple of `2 ^ -1074`, so its numeral is not long. The
bounds are coarse: it is enough that a numeral is short of what a script may build.

## Main results

* `Decimal.Binary.representable_ofBits`: mantissas and exponents
* `Decimal.shortest_short`: digits and exponents
* `Script.length_numberText_le`: the numerals that scripts write
-/

namespace LiveSnippet.Decimal

/-- A mantissa and an exponent of 64 bits. -/
structure Representable (m : Nat) (q : Int) : Prop where
  mantissa_lt : m < Nat.pow 2 53
  le_exponent : -1074 ≤ q
  exponent_le : q ≤ 971

theorem Binary.representable_ofBits {bits : Nat} {negative : Bool} {m : Nat} {q : Int}
    (h : Binary.ofBits bits = .finite negative m q) : Representable m q := by
  have hfraction : bits % Nat.pow 2 52 < Nat.pow 2 52 := Nat.mod_lt _ (by decide)
  have hexponent : bits / Nat.pow 2 52 % Nat.pow 2 11 < Nat.pow 2 11 := Nat.mod_lt _ (by decide)
  have hpow : Nat.pow 2 53 = Nat.pow 2 52 + Nat.pow 2 52 := by decide
  rw [Binary.ofBits] at h
  split_ifs at h with htop hzero hsub
  · injection h with _ hm hq
    exact ⟨by omega, by omega, by omega⟩
  · injection h with _ hm hq
    have hlast : Nat.pow 2 11 = 2048 := by decide
    exact ⟨by omega, by omega, by omega⟩

variable {m : Nat} {q p : Int}

theorem Representable.log2_le (h : Representable m q) : m.log2 ≤ 52 := by
  rcases Nat.eq_zero_or_pos m with rfl | hm
  · decide
  · exact Nat.le_of_lt_succ ((Nat.log2_lt (Nat.pos_iff_ne_zero.mp hm)).mpr h.mantissa_lt)

theorem leadingExponent_bounds (h : Representable m q) :
    -330 ≤ leadingExponent m q ∧ leadingExponent m q ≤ 310 := by
  have hlog := h.log2_le
  have hlow := h.le_exponent
  have hhigh := h.exponent_le
  rw [leadingExponent]
  -- The factor is that of the logarithms to the bases two and ten.
  set guess : Int := ((m.log2 : Int) + q) * 30103 / 100000 with hguess
  have hbounds : -325 ≤ guess ∧ guess ≤ 308 := by omega
  clear_value guess
  dsimp only
  cases hfind : List.find? _ [guess + 1, guess, guess - 1] with
  | none =>
    rw [Option.getD_none]
    omega
  | some p =>
    have hmem := List.mem_of_find?_eq_some hfind
    simp only [List.mem_cons, List.not_mem_nil, or_false] at hmem
    rw [Option.getD_some]
    omega

theorem scaleTwo_one_le {k : Nat} (hq : q ≤ k) : (scaleTwo 1 q).1 ≤ 10 ^ k := by
  have hpow : ∀ j ≤ k, Nat.pow 2 j ≤ 10 ^ k := fun j hj =>
    (Nat.pow_le_pow_left (by decide) j).trans (Nat.pow_le_pow_right (by decide) hj)
  cases q with
  | ofNat j => exact (Nat.one_mul _).trans_le (hpow j (Int.ofNat_le.mp hq))
  | negSucc j => exact Nat.one_le_pow _ _ (by decide)

theorem scaled_one_le {k l : Nat} (hq : q ≤ k) (hp : -l ≤ p) : (scaled 1 q p).1 ≤ 10 ^ (k + l) := by
  have htwo := scaleTwo_one_le hq
  rw [Nat.pow_add]
  cases p with
  | ofNat j => exact htwo.trans (Nat.le_mul_of_pos_right _ (Nat.pow_pos (by decide)))
  | negSucc j => exact Nat.mul_le_mul htwo (Nat.pow_le_pow_right (by decide) (by omega))

/-- The grid points next to a number. -/
theorem onGrid?_bounds {d : Digits} {a k l n : Nat} (hm : m ≤ 2 ^ a) (hq : q - 2 ≤ k) (hp : -l ≤ p)
    (hn : a + (k + l) < n) (hd : onGrid? m q p = some d) : d.exponent = p ∧ d.value < 10 ^ n := by
  have hunit := scaled_one_le hq hp
  have hvalue : d.exponent = p ∧ d.value ≤ 4 * m * (scaled 1 (q - 2) p).1 + 1 := by
    rw [onGrid?] at hd
    dsimp only at hd
    have hdiv := Nat.div_le_self (4 * m * (scaled 1 (q - 2) p).1) (scaled 1 (q - 2) p).2
    split at hd
    · cases hd
      refine ⟨rfl, ?_⟩
      dsimp only
      split_ifs <;> omega
    · cases hd
      exact ⟨rfl, hdiv.trans (Nat.le_succ _)⟩
    · cases hd
      exact ⟨rfl, Nat.succ_le_succ hdiv⟩
    · cases hd
  -- Four times the number has one digit more than the number at most.
  have hten : m * (scaled 1 (q - 2) p).1 ≤ 10 ^ (a + (k + l)) := by
    rw [Nat.pow_add]
    exact Nat.mul_le_mul (hm.trans (Nat.pow_le_pow_left (by decide) a)) hunit
  have hpos : 0 < 10 ^ (a + (k + l)) := Nat.pow_pos (by decide)
  have hpow : 10 ^ (a + (k + l)) * 10 ≤ 10 ^ n := Nat.pow_le_pow_right (Nat.succ_pos 9) hn
  rw [Nat.mul_assoc] at hvalue
  exact ⟨hvalue.1, by omega⟩

/-- A decimal of `n` digits at most, and an exponent that does not make it much longer. -/
structure Digits.Short (n : Nat) (d : Digits) : Prop where
  value_lt : d.value < 10 ^ n
  le_exponent : -400 ≤ d.exponent
  exponent_le : d.exponent ≤ 400

theorem dropZeros_bounds (n : Nat) (d : Digits) : (dropZeros n d).value ≤ d.value ∧
    d.exponent ≤ (dropZeros n d).exponent ∧ (dropZeros n d).exponent ≤ d.exponent + n := by
  induction n generalizing d with
  | zero => simp [dropZeros]
  | succ n ih =>
    rw [dropZeros]
    split_ifs
    · obtain ⟨hvalue, hlow, hhigh⟩ := ih ⟨d.value / 10, d.exponent + 1⟩
      dsimp only at hvalue hlow hhigh
      exact ⟨hvalue.trans (Nat.div_le_self _ _), by omega, by omega⟩
    · exact ⟨le_rfl, le_rfl, by omega⟩

theorem shortest_short {n : Nat} (hn : 1372 < n) (h : Representable m q) :
    (shortest m q).Short n := by
  obtain ⟨hlow, hhigh⟩ := leadingExponent_bounds h
  have hm : m ≤ 2 ^ 53 := h.mantissa_lt.le
  have hq : q - 2 ≤ (969 : Nat) := by
    have := h.exponent_le
    omega
  unfold shortest
  dsimp only
  split
  · rename_i d hfind
    obtain ⟨p, hp, hd⟩ := List.exists_of_findSome?_eq_some hfind
    obtain ⟨k, hk, rfl⟩ := List.mem_map.mp hp
    rw [List.mem_range] at hk
    obtain ⟨hexponent, hvalue⟩ :=
      onGrid?_bounds hm hq (show -((350 : Nat) : Int) ≤ _ by omega) hn hd
    obtain ⟨hle, hfrom, hto⟩ := dropZeros_bounds 17 d
    exact ⟨Nat.lt_of_le_of_lt hle hvalue, by omega, by omega⟩
  · refine ⟨?_, show (-400 : Int) ≤ 0 by decide, show (0 : Int) ≤ 400 by decide⟩
    exact (h.mantissa_lt.trans_le (Nat.pow_le_pow_left (by decide) 53)).trans_le
      (Nat.pow_le_pow_right (by decide) (by omega))

theorem length_positional_le {d : Digits} {n : Nat} (hn : 0 < n) (h : d.Short n) :
    (positional d).length ≤ n + 500 := by
  have hdigits : (Text.ofNat d.value).length ≤ n :=
    Nat.toDigits_length 10 d.value n hn h.value_lt
  have hlow := h.le_exponent
  have hhigh := h.exponent_le
  rw [positional]
  split
  · -- Zeros follow the digits.
    rename_i k hk
    rw [hk] at hhigh
    have hk' : k ≤ 400 := Int.ofNat_le.mp hhigh
    rw [List.length_append, List.length_replicate]
    omega
  · -- The point stands among the digits, or zeros stand in front of them.
    rename_i k hk
    dsimp only
    split_ifs <;> simp only [List.length_append, List.length_cons, List.length_take,
      List.length_drop, List.length_replicate] <;> omega

theorem length_display_le (x : Float) : (display x).length ≤ 1901 := by
  rw [display]
  split
  · exact (by decide : "NaN".toList.length ≤ 1901)
  · rename_i negative _
    cases negative <;> decide
  · rename_i negative m q hx
    have hshort : (shortest m q).Short 1400 :=
      shortest_short (by decide) (Binary.representable_ofBits hx)
    have hdigits : (if m = 0 then ['0'] else positional (shortest m q)).length ≤ 1900 := by
      split_ifs
      · decide
      · exact length_positional_le (by decide) hshort
    cases negative
    · exact hdigits.trans (Nat.le_succ _)
    · exact Nat.succ_le_succ hdigits

end LiveSnippet.Decimal

namespace LiveSnippet

theorem Text.length_ofInt_le {n : Int} {k : Nat} (hk : 0 < k) (hn : n.natAbs < 10 ^ k) :
    (Text.ofInt n).length ≤ k + 1 := by
  cases n with
  | ofNat n => exact (Nat.toDigits_length 10 n k hk hn).trans (Nat.le_succ k)
  | negSucc n => exact Nat.succ_le_succ (Nat.toDigits_length 10 (n + 1) k hk hn)

/-- No numeral that a script writes is long. -/
theorem Script.length_numberText_le (x : Float) : (numberText x).length ≤ 1901 := by
  rw [numberText]
  split
  · decide
  · split_ifs <;> decide
  · rename_i negative m q hx
    split
    · rename_i hwhole
      rw [Bool.and_eq_true, decide_eq_true_eq] at hwhole
      refine (Text.length_ofInt_le (show 0 < 21 by decide) ?_).trans (by decide)
      split_ifs
      · rw [Int.natAbs_neg]
        exact hwhole.2
      · exact hwhole.2
    · exact Decimal.length_display_le x

end LiveSnippet
