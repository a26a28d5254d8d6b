import LiveSnippet.Proofs.Decimal.Length
import Mathlib

/-!
# Negative numbers

Whether a number is at most minus one, and what the opposite number is, can be told from its decoded
form: arithmetic on 64 bits does there what it says.

An operation takes the bits of a number apart and packs its result into bits again. Of what has been
taken apart that loses nothing, so it is enough to know what the operation does in between. What is
taken apart is in normal form: the mantissa has all its 53 bits unless the exponent is the least one.
That is why the order of numbers is that of their exponents, then of their mantissas.

## Main results

* `Decimal.Binary.ofFloat_neg`: the opposite number
* `Decimal.Binary.le_neg_one_iff`: the numbers that are at most minus one
-/

namespace LiveSnippet.Decimal

open Float.Model Float.Model.UnpackedFloat

/-- A mantissa of full size, or the least exponent. -/
structure Normal (m : Nat) (e : Int) : Prop extends Representable m e where
  full_or_least : Nat.pow 2 52 ≤ m ∨ e = -1074

namespace Binary

/-- The opposite number. -/
def neg : Binary → Binary
  | nan => nan
  | infinite negative => infinite !negative
  | finite negative m e => finite (!negative) m e

/-- A number in normal form. -/
def IsNormal : Binary → Prop
  | finite _ m e => Normal m e
  | _ => True

theorem isNormal_ofBits (bits : Nat) : (ofBits bits).IsNormal := by
  cases h : ofBits bits with
  | nan | infinite negative => trivial
  | finite negative m e =>
    refine ⟨representable_ofBits h, ?_⟩
    rw [ofBits] at h
    split_ifs at h with htop hnan hlow
    · injection h with _ _ he
      exact .inr he.symm
    · injection h with _ hm
      exact .inl (hm ▸ Nat.le_add_right _ _)

/-! ### Taking bits apart -/

/-- Whether the sign is that of negative numbers. -/
def isMinus : Sign → Bool
  | .negative => true
  | .positive => false

/-- The decoded form of a number whose bits have been taken apart. -/
def ofUnpacked : UnpackedFloat → Binary
  | .notANumber => nan
  | .infinity s => infinite (isMinus s)
  | .zero s => finite (isMinus s) 0 (-1074)
  | .finite s m e _ => finite (isMinus s) m e

theorem ofUnpacked_neg (u : UnpackedFloat) : ofUnpacked u.neg = (ofUnpacked u).neg := by
  cases u with
  | notANumber => rfl
  | infinity s | zero s | finite s m e h => cases s <;> rfl

theorem bias_eq : (Format.binary64.exponentBias : Int) + (52 : Nat) = 1075 := by decide

theorem toNat_eq_zero_iff {w : Nat} (v : BitVec w) : v.toNat = 0 ↔ v = 0#_ := by
  rw [← BitVec.toNat_inj, BitVec.toNat_zero]

theorem toNat_eq_top_iff (v : BitVec 11) : v.toNat = Nat.pow 2 11 - 1 ↔ v = -1#_ := by
  rw [← BitVec.toNat_inj]
  rfl

/-- The mantissa of a number whose leading bit is not stored. -/
theorem toNat_leadingBit (v : BitVec 52) : (1#1 ++ v).toNat = Nat.pow 2 52 + v.toNat := by
  rw [BitVec.toNat_append, ← Nat.shiftLeft_add_eq_or_of_lt v.isLt, Nat.shiftLeft_eq]
  rfl

section

variable (b : BitVec Format.binary64.numBits)

theorem toNat_unpackMantissa : (unpackMantissa b).toNat = b.toNat % Nat.pow 2 52 := by
  rw [unpackMantissa_def, BitVec.extractLsb'_toNat]
  rfl

theorem toNat_unpackExponent :
    (unpackExponent b).toNat = b.toNat / Nat.pow 2 52 % Nat.pow 2 11 := by
  rw [unpackExponent_def, BitVec.extractLsb'_toNat, Nat.shiftRight_eq_div_pow]
  rfl

theorem isMinus_unpackSign :
    isMinus (Sign.ofBitVec (unpackSign b)) = decide (b.toNat / Nat.pow 2 63 % 2 = 1) := by
  have hsign : (unpackSign b).toNat = b.toNat / Nat.pow 2 63 % 2 := by
    rw [unpackSign_def, BitVec.extractLsb'_toNat, Nat.shiftRight_eq_div_pow]
    rfl
  rw [← hsign]
  generalize unpackSign b = sign
  revert sign
  decide

/-- Decoding is taking the bits apart. -/
theorem ofBits_eq_ofUnpacked :
    ofBits b.toNat = ofUnpacked (UnpackedFloat.unpack .binary64 b) := by
  rw [ofBits, UnpackedFloat.unpack]
  dsimp only
  rw [← toNat_unpackMantissa, ← toNat_unpackExponent, ← isMinus_unpackSign]
  simp only [toNat_eq_top_iff, toNat_eq_zero_iff, bias_eq]
  split_ifs with htop hnan hlow hzero
  · rfl
  · rfl
  · rw [hzero]
    rfl
  · rw [hlow]
    rfl
  · simp only [toNat_leadingBit, ofUnpacked]

/-! ### Packing -/

/-- What has been taken apart is the same after it has been packed. -/
theorem unpack_pack_unpack :
    UnpackedFloat.unpack .binary64 (UnpackedFloat.pack .binary64 (UnpackedFloat.unpack .binary64 b)) =
      UnpackedFloat.unpack .binary64 b := by
  rw [pack_unpack]
  split_ifs with hnan
  -- What is not a number is packed into bits of its own, and is the same taken apart.
  · rw [isNaNBits, decide_eq_true_eq] at hnan
    rw [unpack_packedNaN, UnpackedFloat.unpack]
    dsimp only
    rw [if_pos hnan.1, if_neg hnan.2]
  · rfl

/-- The opposite number has the other sign bit. -/
theorem unpack_otherSign :
    UnpackedFloat.unpack .binary64 (packComponents .binary64 (-Sign.ofBitVec (unpackSign b))
      (unpackExponent b) (unpackMantissa b)) = (UnpackedFloat.unpack .binary64 b).neg := by
  rw [UnpackedFloat.unpack, UnpackedFloat.unpack]
  simp only [unpackSign_packComponents, unpackExponent_packComponents, unpackMantissa_packComponents,
    Sign.ofBitVec_toBitVec]
  split_ifs <;> rfl

theorem unpack_pack_neg :
    UnpackedFloat.unpack .binary64
      (UnpackedFloat.pack .binary64 (UnpackedFloat.unpack .binary64 b).neg) =
      (UnpackedFloat.unpack .binary64 b).neg := by
  rw [← unpack_otherSign, unpack_pack_unpack]

end

/-! ### Numbers -/

theorem ofFloat_eq_ofUnpacked (x : Float) : ofFloat x = ofUnpacked x.toModel.unpack :=
  ofBits_eq_ofUnpacked x.toBits.toBitVec

theorem isNormal_ofFloat (x : Float) : (ofFloat x).IsNormal := isNormal_ofBits _

/-- The opposite number has the same mantissa and exponent. -/
theorem ofFloat_neg (x : Float) : ofFloat (-x) = (ofFloat x).neg := by
  calc ofFloat (-x) = ofUnpacked (-x).toModel.unpack := ofFloat_eq_ofUnpacked _
    _ = ofUnpacked x.toModel.unpack.neg := congrArg ofUnpacked (unpack_pack_neg _)
    _ = (ofFloat x).neg := by rw [ofUnpacked_neg, ofFloat_eq_ofUnpacked]

/-- Whether a decoded number is at most minus one. -/
def atMostNegOne : Binary → Bool
  | nan => false
  | infinite negative => negative
  | finite negative m e => negative && decide (0 < wholePart m e)

theorem wholePart_zero (e : Int) : wholePart 0 e = 0 := by
  cases e with
  | ofNat k => exact (Nat.div_one _).trans (Nat.zero_mul _)
  | negSucc k => exact Nat.zero_div _

/-- Of a number in normal form, the exponent tells whether it is less than one. -/
theorem wholePart_pos_iff {m : Nat} {e : Int} (hm : 0 < m) (h : Normal m e) :
    0 < wholePart m e ↔ -52 ≤ e := by
  have hlt : m < 2 ^ 53 := h.mantissa_lt
  rw [wholePart]
  cases e with
  | ofNat k =>
    refine iff_of_true ?_ (Int.le_trans (by decide) (Int.natCast_nonneg k))
    exact Nat.div_pos (Nat.mul_pos hm (Nat.two_pow_pos k)) Nat.one_pos
  | negSucc k =>
    change 0 < m / 2 ^ (k + 1) ↔ _
    rw [Nat.div_pos_iff]
    constructor
    · rintro ⟨-, hle⟩
      have hexp : k + 1 < 53 := (Nat.pow_lt_pow_iff_right (by decide)).mp (hle.trans_lt hlt)
      omega
    · intro he
      have hfull : 2 ^ 52 ≤ m := h.full_or_least.resolve_right (by omega)
      exact ⟨Nat.two_pow_pos _, (Nat.pow_le_pow_right (by decide) (by omega)).trans hfull⟩

/-- The order of negative numbers, by their exponents first. -/
theorem isLE_swap_then_iff {e e' : Int} {m m' : Nat} :
    ((compare e e').then (compare m m')).swap.isLE ↔ e' < e ∨ e' = e ∧ m' ≤ m := by
  rw [Ordering.swap_then, Int.compare_swap, Nat.compare_swap, Ordering.isLE_then_iff_or,
    Int.compare_eq_lt, Int.compare_eq_eq, Nat.isLE_compare]

theorem le_neg_one_iff (x : Float) : x ≤ -1 ↔ (ofFloat x).atMostNegOne := by
  have hone : (-1 : Float).toModel.unpack = .finite .negative (2 ^ 52) (-52) (by decide) := rfl
  have hle : x ≤ -1 ↔ x.toModel.unpack.le (-1 : Float).toModel.unpack = true :=
    decide_eq_true_iff
  have hnormal := isNormal_ofFloat x
  rw [hle, hone]
  rw [ofFloat_eq_ofUnpacked] at hnormal ⊢
  cases hu : x.toModel.unpack with
  | notANumber => rfl
  | infinity s => cases s <;> rfl
  | zero s =>
    have hzero : (ofUnpacked (.zero s)).atMostNegOne = false := by
      rw [ofUnpacked, atMostNegOne, wholePart_zero]
      exact Bool.and_false _
    rw [hzero]
    cases s <;> rfl
  | finite s m e hm =>
    rw [hu] at hnormal
    cases s with
    | positive => rfl
    | negative =>
      have hpos := wholePart_pos_iff hm hnormal
      have hfull := hnormal.full_or_least
      change ((compare e (-52)).then (compare m (2 ^ 52))).swap.isLE = true ↔
        decide (0 < wholePart m e) = true
      rw [isLE_swap_then_iff, decide_eq_true_iff, hpos]
      change 2 ^ 52 ≤ m ∨ e = -1074 at hfull
      omega

end Binary

end LiveSnippet.Decimal
