import DensityGraph.Proofs.Number.Order
import Mathlib

/-!
# Rounding to floating-point numbers

A result that is not a floating-point number is rounded to a neighbour.  Rounding
does not carry it past any floating-point number: what is not below such a number
is not below it when it has been rounded, and likewise from above.
-/

namespace DensityGraph.Number

open Float.Model (Format UnpackedFloat totalExponent)
open Float.Model.UnpackedFloat

/-- The mantissas and exponents of the finite numbers that are not zero: subnormal
numbers share the least exponent. -/
structure Normal (mantissa : Nat) (exponent : Int) : Prop where
  small : mantissa < 2 ^ 53
  low : -1074 ≤ exponent
  large : -1074 < exponent → 2 ^ 52 ≤ mantissa

/-- The numbers that packed bits can stand for. -/
def Canonical : UnpackedFloat → Prop
  | .finite _ mantissa exponent _ => Normal mantissa exponent ∧ exponent ≤ 971
  | _ => True

theorem toNat_implicit_append (mantissa : BitVec 52) :
    (1#1 ++ mantissa).toNat = 2 ^ 52 + mantissa.toNat := by
  rw [BitVec.toNat_append, ← Nat.shiftLeft_add_eq_or_of_lt mantissa.isLt]
  rfl

theorem canonical_unpack (bits : BitVec 64) : Canonical (unpack Format.binary64 bits) := by
  have mantissaSmall := (@unpackMantissa Format.binary64 bits).isLt
  have exponentSmall := (@unpackExponent Format.binary64 bits).isLt
  change _ < 2 ^ 52 at mantissaSmall
  change _ < 2 ^ 11 at exponentSmall
  unfold unpack
  dsimp only
  split
  · split <;> trivial
  · rename_i notAllOnes
    split
    · rename_i exponentZero
      split
      · trivial
      · simp only [Canonical, exponentZero, BitVec.toNat_zero]
        norm_num [Format.exponentBias]
        exact ⟨by omega, by omega, by omega⟩
    · rename_i exponentPositive
      have atLeastOne : (@unpackExponent Format.binary64 bits).toNat ≠ 0 := by
        intro zero
        exact exponentPositive (BitVec.eq_of_toNat_eq zero)
      have atMost : (@unpackExponent Format.binary64 bits).toNat ≠ 2047 := by
        intro allOnes
        exact notAllOnes (BitVec.eq_of_toNat_eq allOnes)
      simp only [Canonical]
      rw [toNat_implicit_append]
      norm_num [Format.exponentBias]
      exact ⟨⟨by omega, by omega, fun _ => by omega⟩, by omega⟩

theorem canonical_unpacked (x : Float) : Canonical (unpacked x) :=
  canonical_unpack x.toModel.toBits.toBitVec

@[simp]
theorem unpackSign_packComponents {format : Format} {sign : Sign} {exponent : BitVec format.exponentBits}
    {mantissa : BitVec format.mantissaBitsWithoutImplicit} :
    unpackSign (packComponents format sign exponent mantissa) = sign.toBitVec := by
  apply BitVec.eq_of_getLsbD_eq
  intro i inside
  obtain rfl : i = 0 := by omega
  unfold unpackSign
  simp [packComponents, BitVec.getLsbD_append, BitVec.getElem_append]

@[simp]
theorem ofBitVec_toBitVec (sign : Sign) : Sign.ofBitVec sign.toBitVec = sign := by
  cases sign <;> rfl

theorem unpack_packComponents_infinity (sign : Sign) :
    unpack Format.binary64 (packComponents Format.binary64 sign (-1#11) 0#52) = .infinity sign := by
  unfold unpack
  simp only [unpackMantissa_packComponents, unpackExponent_packComponents, unpackSign_packComponents,
    ofBitVec_toBitVec]
  rfl

/-- The exponent of a finite number that does not overflow is not all ones. -/
theorem ofNat_ne_allOnes {biased : Nat} (fits : ¬ 2 ^ 11 ≤ biased + 1) :
    BitVec.ofNat 11 biased ≠ -1#11 := by
  intro allOnes
  have values := congrArg BitVec.toNat allOnes
  rw [BitVec.toNat_ofNat, Nat.mod_eq_of_lt (by omega)] at values
  have : (-1#11).toNat = 2047 := rfl
  omega

/-- A number whose exponent is too large is packed as an infinity. -/
theorem unpack_pack_of_overflow {sign : Sign} {mantissa : Nat} {exponent : Int} {positive : 0 < mantissa}
    (overflow : 971 < exponent) :
    unpack Format.binary64 (pack Format.binary64 (.finite sign mantissa exponent positive)) = .infinity sign := by
  unfold pack
  dsimp only
  rw [if_pos]
  · exact unpack_packComponents_infinity sign
  · change 2 ^ 11 ≤ (exponent + 1023 + 52).toNat + 1
    omega

theorem unpack_packComponents_normal {sign : Sign} {exponent : BitVec 11} {mantissa : BitVec 52}
    (notOnes : exponent ≠ -1#11) (notZero : exponent ≠ 0#11) :
    unpack Format.binary64 (packComponents Format.binary64 sign exponent mantissa) =
      .finite sign (2 ^ 52 + mantissa.toNat) (exponent.toNat - 1075)
        (Nat.add_pos_left (Nat.two_pow_pos 52) _) := by
  unfold unpack
  simp only [unpackMantissa_packComponents, unpackExponent_packComponents, unpackSign_packComponents,
    ofBitVec_toBitVec, toNat_implicit_append, if_neg notOnes, if_neg notZero]
  rfl

theorem unpack_packComponents_subnormal {sign : Sign} {mantissa : BitVec 52} (positive : 0 < mantissa.toNat) :
    unpack Format.binary64 (packComponents Format.binary64 sign 0#11 mantissa) =
      .finite sign mantissa.toNat (-1074) positive := by
  have notZero : mantissa ≠ 0#52 := by
    rintro rfl
    cases positive
  unfold unpack
  simp only [unpackMantissa_packComponents, unpackExponent_packComponents, unpackSign_packComponents,
    ofBitVec_toBitVec, dif_neg notZero]
  rfl

/-- Packing loses nothing of a canonical number. -/
theorem unpack_pack {x : UnpackedFloat} (canonical : Canonical x) (number : x ≠ .notANumber) :
    unpack Format.binary64 (pack Format.binary64 x) = x := by
  cases x with
  | notANumber => exact absurd rfl number
  | infinity sign => exact unpack_packComponents_infinity sign
  | zero sign => cases sign <;> rfl
  | finite sign mantissa exponent positive =>
      obtain ⟨⟨small, low, large⟩, high⟩ := canonical
      unfold pack
      dsimp only
      obtain ⟨biased, biasedEq⟩ : ∃ biased : Nat, exponent = biased - 1075 := ⟨(exponent + 1075).toNat, by omega⟩
      have packedExponent : (exponent + (Format.binary64.exponentBias : Nat) + (52 : Nat)).toNat = biased := by
        change (exponent + 1023 + 52).toNat = biased
        omega
      rw [packedExponent]
      have fits : ¬ 2 ^ 11 ≤ biased + 1 := by omega
      rw [if_neg fits]
      split
      · rename_i full
        change mantissa.log2 + 1 = 53 at full
        have atLeast : 2 ^ 52 ≤ mantissa := (Nat.le_log2 positive.ne').mp (by omega)
        have notZero : BitVec.ofNat 11 biased ≠ 0#11 := by
          intro zero
          have values := congrArg BitVec.toNat zero
          rw [BitVec.toNat_ofNat, Nat.mod_eq_of_lt (by omega), BitVec.toNat_zero] at values
          omega
        rw [unpack_packComponents_normal (ofNat_ne_allOnes fits) notZero]
        simp only [BitVec.toNat_ofNat, finite.injEq, true_and]
        omega
      · rename_i notFull
        change ¬ mantissa.log2 + 1 = 53 at notFull
        have log : mantissa.log2 < 53 := (Nat.log2_lt positive.ne').mpr small
        have below : mantissa < 2 ^ 52 := (Nat.log2_lt positive.ne').mp (by omega)
        have kept : (BitVec.ofNat 52 mantissa).toNat = mantissa := by
          rw [BitVec.toNat_ofNat, Nat.mod_eq_of_lt below]
        have least : exponent = -1074 := by
          by_contra above
          have := large (by omega)
          omega
        rw [unpack_packComponents_subnormal (by rw [kept]; exact positive)]
        simp only [kept, least]

theorem mantissa_shiftRight (extended : ExtendedMantissa) (count : Nat) :
    (extended >>> count).mantissa = extended.mantissa / 2 ^ count := by
  induction count with
  | zero => simp [HShiftRight.hShiftRight, Nat.repeat]
  | succ count ih =>
      change (extended >>> count).mantissa / 2 = _
      rw [ih, Nat.div_div_eq_div_mul, Nat.pow_succ]

/-- Nothing is lost when a multiple of a power of two is shifted. -/
theorem roundedMantissa_shiftRight_mul (mantissa count : Nat) :
    (ExtendedMantissa.mk (mantissa * 2 ^ count) false false >>> count).roundedMantissa = mantissa := by
  have shifted : ExtendedMantissa.mk (mantissa * 2 ^ count) false false >>> count =
      ⟨mantissa, false, false⟩ := by
    induction count generalizing mantissa with
    | zero => simp [HShiftRight.hShiftRight, Nat.repeat]
    | succ count ih =>
        change (ExtendedMantissa.mk (mantissa * 2 ^ (count + 1)) false false >>> count).shiftRightOne = _
        have doubled : mantissa * 2 ^ (count + 1) = mantissa * 2 * 2 ^ count := by
          rw [Nat.pow_succ, Nat.mul_comm (2 ^ count) 2, Nat.mul_assoc]
        rw [doubled, ih]
        simp [ExtendedMantissa.shiftRightOne]
  rw [shifted]
  rfl

theorem roundedMantissa_le (extended : ExtendedMantissa) :
    extended.roundedMantissa ≤ extended.mantissa + 1 := by
  rcases extended with ⟨mantissa, _ | _, _ | _⟩ <;>
    simp [ExtendedMantissa.roundedMantissa, ExtendedMantissa.accuracy, Accuracy.roundToNearestEven]
  omega

theorem le_roundedMantissa (extended : ExtendedMantissa) :
    extended.mantissa ≤ extended.roundedMantissa := by
  rcases extended with ⟨mantissa, _ | _, _ | _⟩ <;>
    simp [ExtendedMantissa.roundedMantissa, ExtendedMantissa.accuracy, Accuracy.roundToNearestEven]

/-- The exponent of the last place that is kept of a mantissa. -/
def lastPlace (mantissa : Nat) (exponent : Int) : Int := max ((mantissa.log2 : Int) + 1 + exponent - 53) (-1074)

/-- The mantissa in units of the last place that is kept, rounded. -/
def roundedUnits (mantissa : Nat) (exponent : Int) : Nat :=
  (ExtendedMantissa.mk mantissa false false >>> (lastPlace mantissa exponent - exponent).toNat).roundedMantissa

section Rounding

variable {mantissa : Nat} {exponent : Int}

theorem targetExponent_binary64 : Format.binary64.targetExponent (totalExponent mantissa exponent) =
    lastPlace mantissa exponent :=
  rfl

/-- Rounding goes to the whole number of units below or to the next one. -/
theorem roundedUnits_bounds :
    mantissa / 2 ^ (lastPlace mantissa exponent - exponent).toNat ≤ roundedUnits mantissa exponent ∧
      roundedUnits mantissa exponent ≤ mantissa / 2 ^ (lastPlace mantissa exponent - exponent).toNat + 1 := by
  have below := le_roundedMantissa
    (ExtendedMantissa.mk mantissa false false >>> (lastPlace mantissa exponent - exponent).toNat)
  have above := roundedMantissa_le
    (ExtendedMantissa.mk mantissa false false >>> (lastPlace mantissa exponent - exponent).toNat)
  rw [mantissa_shiftRight] at below above
  exact ⟨below, above⟩

theorem units_lt : mantissa / 2 ^ (lastPlace mantissa exponent - exponent).toNat < 2 ^ 53 := by
  rw [Nat.div_lt_iff_lt_mul (by positivity), ← Nat.pow_add]
  apply Nat.lt_of_lt_of_le Nat.lt_log2_self
  apply Nat.pow_le_pow_right (by omega)
  unfold lastPlace
  omega

theorem le_units (positive : 0 < mantissa) (start : exponent ≤ lastPlace mantissa exponent)
    (above : -1074 < lastPlace mantissa exponent) :
    2 ^ 52 ≤ mantissa / 2 ^ (lastPlace mantissa exponent - exponent).toNat := by
  rw [Nat.le_div_iff_mul_le (by positivity), ← Nat.pow_add]
  refine Nat.le_trans ?_ (Nat.log2_self_le positive.ne')
  apply Nat.pow_le_pow_right (by omega)
  unfold lastPlace at *
  omega

/-- A number that is not below a floating-point number has its last place no lower. -/
theorem le_lastPlace {m : Nat} {e : Int} (normal : Normal m e) (start : exponent ≤ e)
    (atLeast : m * 2 ^ (e - exponent).toNat ≤ mantissa) : e ≤ lastPlace mantissa exponent := by
  unfold lastPlace
  by_cases least : e = -1074
  · omega
  · have large := normal.large (lt_of_le_of_ne normal.low (Ne.symm least))
    have power : 2 ^ (52 + (e - exponent).toNat) ≤ mantissa := by
      rw [Nat.pow_add]
      exact Nat.le_trans (Nat.mul_le_mul_right _ large) atLeast
    have notZero : mantissa ≠ 0 := (Nat.lt_of_lt_of_le (Nat.two_pow_pos _) power).ne'
    have log : 52 + (e - exponent).toNat ≤ mantissa.log2 := (Nat.le_log2 notZero).mpr power
    omega

/-- A number that does not exceed a floating-point number has its last place no higher. -/
theorem lastPlace_le {m : Nat} {e : Int} (normal : Normal m e) (positive : 0 < mantissa) (start : exponent ≤ e)
    (atMost : mantissa ≤ m * 2 ^ (e - exponent).toNat) : lastPlace mantissa exponent ≤ e := by
  have power : mantissa < 2 ^ (53 + (e - exponent).toNat) := by
    rw [Nat.pow_add]
    exact Nat.lt_of_le_of_lt atMost (Nat.mul_lt_mul_of_pos_right normal.small (by positivity))
  have log : mantissa.log2 < 53 + (e - exponent).toNat := (Nat.log2_lt positive.ne').mpr power
  have low := normal.low
  unfold lastPlace
  omega

/-- In units of its own last place a floating-point number is not below what is rounded to units of the
same place, if it was not below before. -/
theorem roundedUnits_le {m : Nat} {e : Int} (same : lastPlace mantissa exponent = e)
    (atMost : mantissa ≤ m * 2 ^ (e - exponent).toNat) : roundedUnits mantissa exponent ≤ m := by
  by_cases exact : mantissa = m * 2 ^ (e - exponent).toNat
  · unfold roundedUnits
    rw [same, exact, roundedMantissa_shiftRight_mul]
  · have bounds := (@roundedUnits_bounds mantissa exponent).2
    have strict : mantissa / 2 ^ (e - exponent).toNat < m := by
      rw [Nat.div_lt_iff_lt_mul (by positivity)]
      omega
    rw [same] at bounds
    omega

/-- Units that fit are not moved again. -/
theorem shift_of_lt {units : Nat} {place : Int} (fits : units < 2 ^ 53) (low : -1074 ≤ place) :
    shiftToTargetExponent Format.binary64 units place .exact = (⟨units, false, false⟩, place) := by
  have log : units.log2 < 53 := by
    by_cases zero : units = 0
    · subst zero
      decide
    · exact (Nat.log2_lt zero).mpr fits
  have none : (lastPlace units place - place).toNat = 0 := by
    unfold lastPlace
    omega
  simp only [shiftToTargetExponent, shiftToExponent, targetExponent_binary64, none,
    ExtendedMantissa.ofMantissaAndAccuracy, Prod.mk.injEq]
  exact ⟨rfl, by omega⟩

/-- Units with one bit too many are moved by one place. -/
theorem shift_of_eq {place : Int} (low : -1074 ≤ place) :
    shiftToTargetExponent Format.binary64 (2 ^ 53) place .exact = (⟨2 ^ 52, false, false⟩, place + 1) := by
  have one : (lastPlace (2 ^ 53) place - place).toNat = 1 := by
    have log : (2 ^ 53).log2 = 53 := Nat.log2_two_pow
    unfold lastPlace
    omega
  simp only [shiftToTargetExponent, shiftToExponent, targetExponent_binary64, one,
    ExtendedMantissa.ofMantissaAndAccuracy, Prod.mk.injEq]
  exact ⟨rfl, rfl⟩

/-- What rounding makes of a number. -/
inductive Rounded (sign : Sign) (mantissa : Nat) (exponent : Int) : UnpackedFloat → Prop where
  | zero (none : roundedUnits mantissa exponent = 0) : Rounded sign mantissa exponent (.zero sign)
  | units (fits : roundedUnits mantissa exponent < 2 ^ 53) (positive : 0 < roundedUnits mantissa exponent) :
      Rounded sign mantissa exponent
        (.finite sign (roundedUnits mantissa exponent) (lastPlace mantissa exponent) positive)
  /-- one bit too many moves the number to the next place -/
  | carried (full : roundedUnits mantissa exponent = 2 ^ 53) :
      Rounded sign mantissa exponent (.finite sign (2 ^ 52) (lastPlace mantissa exponent + 1)
        (Nat.two_pow_pos 52))

theorem rounded_roundWithAccuracy (sign : Sign) (start : exponent ≤ lastPlace mantissa exponent) :
    Rounded sign mantissa exponent (roundWithAccuracy Format.binary64 sign mantissa exponent .exact) := by
  have first : shiftToTargetExponent Format.binary64 mantissa exponent .exact =
      (ExtendedMantissa.mk mantissa false false >>> (lastPlace mantissa exponent - exponent).toNat,
        lastPlace mantissa exponent) := by
    simp only [shiftToTargetExponent, shiftToExponent, targetExponent_binary64,
      ExtendedMantissa.ofMantissaAndAccuracy, Prod.mk.injEq, true_and]
    omega
  have units : (ExtendedMantissa.mk mantissa false false >>>
      (lastPlace mantissa exponent - exponent).toNat).roundedMantissa = roundedUnits mantissa exponent := rfl
  have low : -1074 ≤ lastPlace mantissa exponent := le_max_right _ _
  unfold roundWithAccuracy
  simp only [first, units]
  by_cases fits : roundedUnits mantissa exponent < 2 ^ 53
  · simp only [shift_of_lt fits low]
    split
    · rename_i zero
      exact .zero zero
    · exact .units fits _
  · have full : roundedUnits mantissa exponent = 2 ^ 53 := by
      have bounds := (@roundedUnits_bounds mantissa exponent).2
      have few := @units_lt mantissa exponent
      omega
    simp only [full, shift_of_eq low]
    exact .carried full

/-- A number that is not below a floating-point number is not rounded to one below it. -/
theorem Rounded.atLeast {sign : Sign} {x : UnpackedFloat} (rounded : Rounded sign mantissa exponent x)
    (mantissaPositive : 0 < mantissa) (begins : exponent ≤ lastPlace mantissa exponent)
    {m : Nat} {e : Int} (normal : Normal m e) (positive : 0 < m) (start : exponent ≤ e)
    (atLeast : m * 2 ^ (e - exponent).toNat ≤ mantissa) :
    ∃ m' e' positive', x = .finite sign m' e' positive' ∧ Normal m' e' ∧ (e < e' ∨ e = e' ∧ m ≤ m') := by
  have placed := le_lastPlace normal start atLeast
  have low : -1074 ≤ lastPlace mantissa exponent := le_max_right _ _
  have bounds := (@roundedUnits_bounds mantissa exponent).1
  have large := le_units mantissaPositive begins
  have same : e = lastPlace mantissa exponent → m ≤ roundedUnits mantissa exponent := by
    intro same
    apply Nat.le_trans _ bounds
    rw [← same, Nat.le_div_iff_mul_le (by positivity)]
    exact atLeast
  have normalLow := normal.low
  cases rounded with
  | zero none =>
      by_cases above : -1074 < lastPlace mantissa exponent
      · have := large above
        omega
      · have := same (by omega)
        omega
  | units fits unitsPositive =>
      refine ⟨_, _, unitsPositive, rfl, ⟨fits, low, fun above => Nat.le_trans (large above) bounds⟩, ?_⟩
      omega
  | carried full =>
      exact ⟨_, _, by positivity, rfl, ⟨by omega, by omega, fun _ => Nat.le_refl _⟩, by omega⟩

/-- A number that does not exceed a floating-point number is not rounded to one beyond it. -/
theorem Rounded.atMost {sign : Sign} {x : UnpackedFloat} (rounded : Rounded sign mantissa exponent x)
    (mantissaPositive : 0 < mantissa) (begins : exponent ≤ lastPlace mantissa exponent)
    {m : Nat} {e : Int} (normal : Normal m e) (start : exponent ≤ e)
    (atMost : mantissa ≤ m * 2 ^ (e - exponent).toNat) :
    x = .zero sign ∨
      ∃ m' e' positive', x = .finite sign m' e' positive' ∧ Normal m' e' ∧ (e' < e ∨ e' = e ∧ m' ≤ m) := by
  have placed := lastPlace_le normal mantissaPositive start atMost
  have low : -1074 ≤ lastPlace mantissa exponent := le_max_right _ _
  have bounds := (@roundedUnits_bounds mantissa exponent).1
  have large := le_units mantissaPositive begins
  have same : lastPlace mantissa exponent = e → roundedUnits mantissa exponent ≤ m :=
    fun same => roundedUnits_le same atMost
  have small := normal.small
  cases rounded with
  | zero none => exact .inl rfl
  | units fits unitsPositive =>
      refine .inr ⟨_, _, unitsPositive, rfl, ⟨fits, low, fun above => Nat.le_trans (large above) bounds⟩, ?_⟩
      omega
  | carried full =>
      refine .inr ⟨_, _, by positivity, rfl, ⟨by omega, by omega, fun _ => Nat.le_refl _⟩, ?_⟩
      by_cases next : lastPlace mantissa exponent + 1 = e
      · exact .inr ⟨next, normal.large (by omega)⟩
      · omega

theorem log2_mul_two_pow (positive : 0 < mantissa) (count : Nat) :
    (mantissa * 2 ^ count).log2 = mantissa.log2 + count := by
  induction count with
  | zero => rw [Nat.pow_zero, Nat.mul_one, Nat.add_zero]
  | succ count ih =>
      have doubled : mantissa * 2 ^ (count + 1) = 2 * (mantissa * 2 ^ count) := by
        rw [Nat.pow_succ, ← Nat.mul_assoc, Nat.mul_comm]
      rw [doubled, Nat.log2_two_mul (by positivity), ih, Nat.add_assoc]

/-- Before a number is rounded it is written with an exponent that is low enough. -/
theorem rounded_round (sign : Sign) (positive : 0 < mantissa) :
    ∃ shift : Nat, exponent - shift ≤ lastPlace (mantissa * 2 ^ shift) (exponent - shift) ∧
      Rounded sign (mantissa * 2 ^ shift) (exponent - shift)
        (UnpackedFloat.round Format.binary64 sign mantissa exponent) := by
  refine ⟨(exponent - lastPlace mantissa exponent).toNat, ?_⟩
  have begins : exponent - (exponent - lastPlace mantissa exponent).toNat ≤
      lastPlace (mantissa * 2 ^ (exponent - lastPlace mantissa exponent).toNat)
        (exponent - (exponent - lastPlace mantissa exponent).toNat) := by
    have log : (mantissa * 2 ^ (exponent - lastPlace mantissa exponent).toNat).log2 =
        mantissa.log2 + (exponent - lastPlace mantissa exponent).toNat := log2_mul_two_pow positive _
    unfold lastPlace at *
    omega
  refine ⟨begins, ?_⟩
  unfold UnpackedFloat.round decreaseExponent
  rw [targetExponent_binary64]
  simp only [Nat.shiftLeft_eq]
  exact rounded_roundWithAccuracy sign begins

theorem round_atLeast (sign : Sign) (mantissaPositive : 0 < mantissa) {m : Nat} {e : Int}
    (normal : Normal m e) (positive : 0 < m) (start : exponent ≤ e)
    (atLeast : m * 2 ^ (e - exponent).toNat ≤ mantissa) :
    ∃ m' e' positive', UnpackedFloat.round Format.binary64 sign mantissa exponent = .finite sign m' e' positive' ∧
      Normal m' e' ∧ (e < e' ∨ e = e' ∧ m ≤ m') := by
  obtain ⟨shift, begins, rounded⟩ := @rounded_round mantissa exponent sign mantissaPositive
  apply rounded.atLeast (by positivity) begins normal positive (by omega)
  have moved : (e - (exponent - shift)).toNat = (e - exponent).toNat + shift := by omega
  rw [moved, Nat.pow_add, ← Nat.mul_assoc]
  exact Nat.mul_le_mul_right _ atLeast

theorem round_atMost (sign : Sign) (mantissaPositive : 0 < mantissa) {m : Nat} {e : Int}
    (normal : Normal m e) (start : exponent ≤ e) (atMost : mantissa ≤ m * 2 ^ (e - exponent).toNat) :
    UnpackedFloat.round Format.binary64 sign mantissa exponent = .zero sign ∨
      ∃ m' e' positive', UnpackedFloat.round Format.binary64 sign mantissa exponent = .finite sign m' e' positive' ∧
        Normal m' e' ∧ (e' < e ∨ e' = e ∧ m' ≤ m) := by
  obtain ⟨shift, begins, rounded⟩ := @rounded_round mantissa exponent sign mantissaPositive
  apply rounded.atMost (by positivity) begins normal (by omega)
  have moved : (e - (exponent - shift)).toNat = (e - exponent).toNat + shift := by omega
  rw [moved, Nat.pow_add, ← Nat.mul_assoc]
  exact Nat.mul_le_mul_right _ atMost

end Rounding

end DensityGraph.Number
