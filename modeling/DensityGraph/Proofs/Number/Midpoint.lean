import DensityGraph.Proofs.Number.Amount
import DensityGraph.Proofs.Parameter

/-!
# Midpoints

A midpoint is made by two roundings, that of a sum and that of its half.  Neither
carries it past the numbers that it lies between, and the least bits of subnormal
numbers are no exception.  A sum that is too large for a number has no midpoint.
-/

namespace DensityGraph.Number

open Float.Model (Format UnpackedFloat)
open Float.Model.UnpackedFloat

/-- One half, unpacked. -/
def half : UnpackedFloat := .finite .positive (2 ^ 52) (-53) (by decide)

theorem unpacked_half : unpacked 0.5 = half := rfl

section Half

variable {m m' : Nat} {e e' : Int} {positive : 0 < m} {s z : UnpackedFloat}

theorem begins_half (positive : 0 < m) : -53 + e ≤ lastPlace (2 ^ 52 * m) (-53 + e) := by
  have log := log2_mul_two_pow positive 52
  rw [Nat.mul_comm] at log
  unfold lastPlace
  omega

/-- Aligned with the half of a number, another number stands for its double beside the number itself. -/
theorem aligned_half (low : -1074 ≤ e) (low' : -1074 ≤ e') (start : -53 + e ≤ e') :
    m' * 2 ^ (e' - (-53 + e)).toNat * 2 ^ (e + 1074).toNat = 2 ^ 52 * (2 * magnitude m' e') := by
  rw [Nat.mul_assoc, ← Nat.pow_add, show (e' - (-53 + e)).toNat + (e + 1074).toNat = (e' + 1074).toNat + 53 by omega,
    Nat.pow_add, magnitude]
  ring

theorem mul_half_finite (sign : Sign) : mul Format.binary64 half (.finite sign m e positive) =
    roundWithAccuracy Format.binary64 sign (2 ^ 52 * m) (-53 + e) .exact := by
  cases sign <;> rfl

theorem mul_half_neg (s : UnpackedFloat) : mul Format.binary64 half s.neg = (mul Format.binary64 half s).neg := by
  rcases s with sign | _ | sign | ⟨sign, m, e, positive⟩
  · cases sign <;> rfl
  · rfl
  · cases sign <;> rfl
  · change mul Format.binary64 half (.finite (-sign) m e positive) = _
    rw [mul_half_finite, mul_half_finite, roundWithAccuracy_neg]

/-- Half of a positive number is rounded to zero or to a positive number. -/
theorem mul_half_of_positive (normal : Normal m e) :
    mul Format.binary64 half (.finite .positive m e positive) = .zero .positive ∨
      ∃ m' e' positive', mul Format.binary64 half (.finite .positive m e positive) = .finite .positive m' e' positive' ∧
        Normal m' e' := by
  have atMost : 2 ^ 52 * m ≤ m * 2 ^ (e - (-53 + e)).toNat := by
    rw [show (e - (-53 + e)).toNat = 53 by omega, Nat.mul_comm]
    exact Nat.mul_le_mul_left _ (by decide)
  rw [mul_half_finite]
  obtain none | ⟨m', e', positive', result, normal', _⟩ := (rounded_roundWithAccuracy .positive (begins_half positive)).atMost
    (by positivity) (begins_half positive) normal (by omega) atMost
  · exact .inl none
  · exact .inr ⟨m', e', positive', result, normal'⟩

theorem unbounded_mul_half (unbounded : Unbounded s) : Unbounded (mul Format.binary64 half s) := by
  rcases s with _ | _ | sign | ⟨_ | _, m, e, positive⟩
  · cases unbounded
  · cases unbounded
  · trivial
  · rw [← show (UnpackedFloat.finite .positive m e positive).neg = .finite .negative m e positive from rfl, mul_half_neg]
    apply Unbounded.neg
    obtain none | ⟨_, _, _, result, normal⟩ := @mul_half_of_positive m e positive unbounded
    · rw [none]
      trivial
    · rw [result]
      exact normal
  · obtain none | ⟨_, _, _, result, normal⟩ := @mul_half_of_positive m e positive unbounded
    · rw [none]
      trivial
    · rw [result]
      exact normal

theorem amount_mul_half_nonneg (normal : Normal m e) :
    0 ≤ amount (mul Format.binary64 half (.finite .positive m e positive)) := by
  obtain none | ⟨_, _, _, result, _⟩ := @mul_half_of_positive m e positive normal
  · rw [none]
    exact le_rfl
  · rw [result]
    exact Int.natCast_nonneg _

/-- Half of a positive number is not rounded to one below a positive number whose double it is not below. -/
theorem magnitude_le_mul_half (normal : Normal m e) (normal' : Normal m' e') (some : 0 < m')
    (atLeast : 2 * magnitude m' e' ≤ magnitude m e) :
    (magnitude m' e' : Int) ≤ amount (mul Format.binary64 half (.finite .positive m e positive)) := by
  have low := normal.low
  by_cases start : -53 + e ≤ e'
  · have aligned : m' * 2 ^ (e' - (-53 + e)).toNat ≤ 2 ^ 52 * m := by
      apply Nat.le_of_mul_le_mul_right _ (show 0 < 2 ^ (e + 1074).toNat by positivity)
      rw [aligned_half low normal'.low start, Nat.mul_assoc]
      exact Nat.mul_le_mul_left _ atLeast
    rw [mul_half_finite]
    obtain ⟨_, _, _, result, resultNormal, beyond⟩ := (rounded_roundWithAccuracy .positive (begins_half positive)).atLeast
      (by positivity) (begins_half positive) normal' some start aligned
    rw [result]
    exact Int.ofNat_le.2 ((magnitude_le_iff normal' resultNormal).2 beyond)
  · -- the number lies far below, under one that shares the last place of the half
    have between : Normal (2 ^ 52) (-53 + e) := ⟨by decide, by have := normal'.low; omega, fun _ => le_rfl⟩
    have aligned : 2 ^ 52 * 2 ^ (-53 + e - (-53 + e)).toNat ≤ 2 ^ 52 * m := by
      rw [Int.sub_self]
      exact Nat.mul_le_mul_left _ positive
    rw [mul_half_finite]
    obtain ⟨_, _, _, result, resultNormal, beyond⟩ := (rounded_roundWithAccuracy .positive (begins_half positive)).atLeast
      (by positivity) (begins_half positive) between (by decide) le_rfl aligned
    rw [result]
    apply Int.ofNat_le.2
    exact ((magnitude_le_iff normal' resultNormal).2 (by omega))

/-- Half of a positive number is not rounded to one beyond a number whose double it does not exceed. -/
theorem mul_half_le_magnitude (normal : Normal m e) (normal' : Normal m' e')
    (atMost : magnitude m e ≤ 2 * magnitude m' e') :
    amount (mul Format.binary64 half (.finite .positive m e positive)) ≤ magnitude m' e' := by
  have low := normal.low
  have start : -53 + e ≤ e' := by
    by_contra far
    have low' := normal'.low
    have below : magnitude m' e' < magnitude (2 ^ 52) (e - 1) :=
      magnitude_lt normal' ⟨by decide, by omega, fun _ => le_rfl⟩ (by omega)
    have doubled := @magnitude_from (2 ^ 52) e (e - 1) (by omega) (by omega)
    have atLeast : magnitude (2 ^ 52) e ≤ magnitude m e := Nat.mul_le_mul_right _ (normal.large (by omega))
    rw [show (e - (e - 1)).toNat = 1 by omega, Nat.mul_right_comm] at doubled
    change magnitude (2 ^ 52) e = magnitude (2 ^ 52) (e - 1) * 2 ^ 1 at doubled
    omega
  have aligned : 2 ^ 52 * m ≤ m' * 2 ^ (e' - (-53 + e)).toNat := by
    apply Nat.le_of_mul_le_mul_right _ (show 0 < 2 ^ (e + 1074).toNat by positivity)
    rw [aligned_half low normal'.low start, Nat.mul_assoc]
    exact Nat.mul_le_mul_left _ atMost
  rw [mul_half_finite]
  obtain none | ⟨_, _, _, result, resultNormal, nearer⟩ := (rounded_roundWithAccuracy .positive (begins_half positive)).atMost
    (by positivity) (begins_half positive) normal' start aligned
  · rw [none]
    exact Int.natCast_nonneg _
  · rw [result]
    exact Int.ofNat_le.2 ((magnitude_le_iff resultNormal normal').2 nearer)

/-- Half of a number is not rounded to one below a number whose double it is not below. -/
theorem le_mul_half (sUnbounded : Unbounded s) (zUnbounded : Unbounded z) (atLeast : 2 * amount z ≤ amount s) :
    amount z ≤ amount (mul Format.binary64 half s) := by
  rcases s with _ | _ | sign | ⟨_ | _, m, e, positive⟩
  · cases sUnbounded
  · cases sUnbounded
  · change amount z ≤ 0
    change 2 * amount z ≤ 0 at atLeast
    omega
  · have flipped : amount (mul Format.binary64 half (.finite .negative m e positive)) =
        -amount (mul Format.binary64 half (.finite .positive m e positive)) := by
      rw [← amount_neg, ← mul_half_neg]
      rfl
    have some := @magnitude_pos m e positive
    rw [flipped]
    rcases z with _ | _ | _ | ⟨_ | _, m', e', positive'⟩ <;> simp only [amount, Sign.apply] at atLeast
    · omega
    · omega
    · omega
    · have nearer := @mul_half_le_magnitude m m' e e' positive sUnbounded zUnbounded (by omega)
      exact Int.neg_le_neg nearer
    · omega
  · have nonneg := @amount_mul_half_nonneg m e positive sUnbounded
    rcases z with _ | _ | _ | ⟨_ | _, m', e', positive'⟩
    · exact nonneg
    · exact nonneg
    · exact nonneg
    · exact Int.le_trans (Int.neg_nonpos_of_nonneg (Int.natCast_nonneg _)) nonneg
    · simp only [amount, Sign.apply] at atLeast
      exact magnitude_le_mul_half sUnbounded zUnbounded positive' (by omega)

theorem mul_half_le (sUnbounded : Unbounded s) (zUnbounded : Unbounded z) (atMost : amount s ≤ 2 * amount z) :
    amount (mul Format.binary64 half s) ≤ amount z := by
  have negated : 2 * amount z.neg ≤ amount s.neg := by
    rw [amount_neg, amount_neg]
    omega
  have beyond := le_mul_half sUnbounded.neg zUnbounded.neg negated
  rw [mul_half_neg, amount_neg, amount_neg] at beyond
  omega

end Half

section Float

variable {x y : Float}

/-- A sum of finite numbers is packed as it is, or it is too large and is packed as an infinity. -/
theorem unpacked_add_of_finite (xFinite : x.isFinite = true) (yFinite : y.isFinite = true) :
    ((x + y).isFinite = true ∧ unpacked (x + y) = add Format.binary64 (unpacked x) (unpacked y)) ∨
      (x + y).isFinite = false ∧ ∃ sign, unpacked (x + y) = .infinity sign := by
  have unbounded := unbounded_add (unbounded_unpacked xFinite) (unbounded_unpacked yFinite)
  change ((unpacked (x + y)).isFinite = true ∧ _) ∨ (unpacked (x + y)).isFinite = false ∧ _
  rw [unpacked_add]
  generalize add Format.binary64 (unpacked x) (unpacked y) = sum at unbounded
  rcases sum with _ | _ | sign | ⟨sign, m, e, positive⟩
  · cases unbounded
  · cases unbounded
  · have canonical : Canonical (.zero sign) := trivial
    rw [unbounded.unpack_pack canonical]
    exact .inl ⟨rfl, rfl⟩
  · by_cases overflow : 971 < e
    · rw [unpack_pack_of_overflow overflow]
      exact .inr ⟨rfl, sign, rfl⟩
    · have canonical : Canonical (.finite sign m e positive) := ⟨unbounded, by omega⟩
      rw [unbounded.unpack_pack canonical]
      exact .inl ⟨rfl, rfl⟩

theorem unpacked_mul (x y : Float) : unpacked (x * y) =
    unpack Format.binary64 (pack Format.binary64 (mul Format.binary64 (unpacked x) (unpacked y))) :=
  rfl

/-- The midpoint of two numbers lies between them if their sum is finite. -/
theorem midpoint_between (xFinite : x.isFinite = true) (yFinite : y.isFinite = true) (ordered : x ≤ y)
    (sumFinite : (x + y).isFinite = true) : x ≤ 0.5 * (x + y) ∧ 0.5 * (x + y) ≤ y := by
  obtain ⟨_, sumEq⟩ | ⟨infinite, _⟩ := unpacked_add_of_finite xFinite yFinite
  · have xUnbounded := unbounded_unpacked xFinite
    have yUnbounded := unbounded_unpacked yFinite
    have sumUnbounded := unbounded_add xUnbounded yUnbounded
    rw [le_iff_amount_unpacked xFinite yFinite] at ordered
    obtain ⟨above, below⟩ := add_between xUnbounded yUnbounded ordered
    have midAbove := le_mul_half sumUnbounded xUnbounded above
    have midBelow := mul_half_le sumUnbounded yUnbounded below
    have midUnbounded := unbounded_mul_half sumUnbounded
    have midCanonical := midUnbounded.canonical (canonical_unpacked x) (canonical_unpacked y) xFinite yFinite
      midAbove midBelow
    have midEq : unpacked (0.5 * (x + y)) =
        mul Format.binary64 half (add Format.binary64 (unpacked x) (unpacked y)) := by
      rw [unpacked_mul, unpacked_half, sumEq, midUnbounded.unpack_pack midCanonical]
    rw [le_iff, le_iff, midEq, le_iff_amount xUnbounded midUnbounded, le_iff_amount midUnbounded yUnbounded]
    exact ⟨midAbove, midBelow⟩
  · rw [sumFinite] at infinite
    cases infinite

/-- The midpoint of two numbers is as large as their sum if that is not finite. -/
theorem midpoint_not_finite (xFinite : x.isFinite = true) (yFinite : y.isFinite = true)
    (sumInfinite : (x + y).isFinite = false) : (0.5 * (x + y)).isFinite = false := by
  obtain ⟨sumFinite, _⟩ | ⟨_, sign, sumEq⟩ := unpacked_add_of_finite xFinite yFinite
  · rw [sumFinite] at sumInfinite
    cases sumInfinite
  · change (unpacked (0.5 * (x + y))).isFinite = false
    rw [unpacked_mul, unpacked_half, sumEq]
    cases sign <;> rfl

end Float

end DensityGraph.Number

namespace DensityGraph.Bounds

/-- The midpoint of valid bounds lies within them if their sum is finite, and is not finite otherwise. -/
theorem admits_midpoint {bounds : Bounds} (valid : bounds.valid = true) :
    Parameter.admits bounds bounds.midpoint = (bounds.lower + bounds.upper).isFinite := by
  obtain ⟨lowerFinite, upperFinite, ordered⟩ := valid_iff.1 valid
  cases sum : (bounds.lower + bounds.upper).isFinite with
  | true =>
      rw [Parameter.admits_eq_contains valid, contains_iff]
      exact Number.midpoint_between lowerFinite upperFinite ordered sum
  | false =>
      have infinite := Number.midpoint_not_finite lowerFinite upperFinite sum
      simp only [Parameter.admits, midpoint, infinite, Bool.false_and]

end DensityGraph.Bounds
