import DensityGraph.Proofs.Number.Rounding
import DensityGraph.Random.Distribution

/-!
# Signs and sizes of sums and products

A number drawn from a range is a product of numbers that are not negative, added
to the finite lower end.  Rounding does not carry such a sum below the lower end.
-/

namespace DensityGraph.Number

open Float.Model (Format UnpackedFloat totalExponent)
open Float.Model.UnpackedFloat

/-- The numbers that are zero or above. -/
def NonNegative : UnpackedFloat → Prop
  | .finite sign .. | .infinity sign => sign = .positive
  | .zero _ => True
  | .notANumber => False

/-- Components that do not stand for `NaN` unpack to a number of their sign. -/
theorem nonNegative_unpack_packComponents {exponent : BitVec 11} {mantissa : BitVec 52}
    (notNaN : exponent = -1#11 → mantissa = 0#52) :
    NonNegative (unpack Format.binary64 (packComponents Format.binary64 .positive exponent mantissa)) := by
  unfold unpack
  simp only [unpackMantissa_packComponents, unpackExponent_packComponents, unpackSign_packComponents,
    ofBitVec_toBitVec]
  split
  · rename_i allOnes
    rw [if_pos (notNaN allOnes)]
    rfl
  · split
    · split
      · trivial
      · rfl
    · rfl

/-- Packing keeps a number from falling below zero. -/
theorem nonNegative_unpack_pack {x : UnpackedFloat} (nonNegative : NonNegative x) :
    NonNegative (unpack Format.binary64 (pack Format.binary64 x)) := by
  cases x with
  | notANumber => cases nonNegative
  | infinity sign =>
      obtain rfl : sign = .positive := nonNegative
      exact nonNegative_unpack_packComponents fun _ => rfl
  | zero sign => cases sign <;> trivial
  | finite sign mantissa exponent positive =>
      obtain rfl : sign = .positive := nonNegative
      unfold pack
      dsimp only
      split
      · exact nonNegative_unpack_packComponents fun _ => rfl
      · rename_i fits
        split
        · exact nonNegative_unpack_packComponents fun allOnes => absurd allOnes (ofNat_ne_allOnes fits)
        · exact nonNegative_unpack_packComponents fun allOnes => absurd allOnes (by decide)

theorem nonNegative_round (mantissa : Nat) (exponent : Int) :
    NonNegative (UnpackedFloat.round Format.binary64 .positive mantissa exponent) := by
  unfold UnpackedFloat.round roundWithAccuracy
  dsimp only
  split
  · trivial
  · rfl

theorem normalize_of_pos {sum exponent : Int} (positive : 0 < sum) :
    UnpackedFloat.normalize Format.binary64 sum exponent .positive =
      UnpackedFloat.round Format.binary64 .positive sum.toNat exponent := by
  unfold UnpackedFloat.normalize
  rw [compare_gt_iff_gt.mpr positive]

theorem normalize_of_neg {sum exponent : Int} (negative : sum < 0) :
    UnpackedFloat.normalize Format.binary64 sum exponent .positive =
      UnpackedFloat.round Format.binary64 .negative (-sum).toNat exponent := by
  unfold UnpackedFloat.normalize
  rw [compare_lt_iff_lt.mpr negative]

theorem nonNegative_normalize {mantissa : Int} (exponent : Int) (nonNegative : 0 ≤ mantissa) :
    NonNegative (UnpackedFloat.normalize Format.binary64 mantissa exponent .positive) := by
  unfold UnpackedFloat.normalize
  split
  · rename_i negative
    rw [compare_lt_iff_lt] at negative
    omega
  · trivial
  · exact nonNegative_round _ _

theorem decreaseExponent_fst (mantissa : Nat) (exponent target : Int) :
    (decreaseExponent mantissa exponent target).1 = mantissa * 2 ^ (exponent - target).toNat := by
  rw [decreaseExponent, Nat.shiftLeft_eq]

/-- Of two canonical mantissas brought to one exponent, that of the greater number
is greater. -/
theorem aligned_lt {m₁ m₂ : Nat} {e₁ e₂ : Int} (small : m₁ < 2 ^ 53) (low : -1074 ≤ e₁)
    (normal : -1074 < e₂ → 2 ^ 52 ≤ m₂) (ordered : e₁ < e₂ ∨ e₁ = e₂ ∧ m₁ < m₂) :
    m₁ * 2 ^ (e₁ - min e₁ e₂).toNat < m₂ * 2 ^ (e₂ - min e₁ e₂).toNat := by
  rcases ordered with lower | ⟨rfl, smaller⟩
  · obtain ⟨gap, gapEq⟩ : ∃ gap : Nat, (e₂ - min e₁ e₂).toNat = gap + 1 :=
      ⟨(e₂ - min e₁ e₂).toNat - 1, by omega⟩
    rw [gapEq, show (e₁ - min e₁ e₂).toNat = 0 by omega, Nat.pow_zero, Nat.mul_one, Nat.pow_succ]
    have half := normal (by omega)
    calc
      m₁ < 2 ^ 52 * 2 := by omega
      _ ≤ m₂ * (2 ^ gap * 2) := Nat.mul_le_mul half (Nat.le_mul_of_pos_left 2 (by positivity))
  · exact Nat.mul_lt_mul_of_pos_right smaller (by positivity)

/-- Of two canonical mantissas brought to one exponent, that of the greater
number is not smaller. -/
theorem aligned_le {m₁ m₂ : Nat} {e₁ e₂ : Int} (small : m₁ < 2 ^ 53) (low : -1074 ≤ e₁)
    (normal : -1074 < e₂ → 2 ^ 52 ≤ m₂) (ordered : e₁ < e₂ ∨ e₁ = e₂ ∧ m₁ ≤ m₂) :
    m₁ * 2 ^ (e₁ - min e₁ e₂).toNat ≤ m₂ * 2 ^ (e₂ - min e₁ e₂).toNat := by
  by_cases same : e₁ = e₂ ∧ m₁ = m₂
  · obtain ⟨rfl, rfl⟩ := same
    exact Nat.le_refl _
  · exact (aligned_lt small low normal (by omega)).le

/-- A number without a smaller one is not negative. -/
theorem nonNegative_sub {x y : UnpackedFloat} (xCanonical : Canonical x) (yCanonical : Canonical y)
    (xFinite : x.isFinite = true) (yFinite : y.isFinite = true) (ordered : x.le y = true) :
    NonNegative (sub Format.binary64 y x) := by
  rw [le_eq_place] at ordered
  rcases x with _ | _ | xSign | ⟨xSign, m₁, e₁, _⟩
  · cases xFinite
  · cases xFinite
  · rcases y with _ | _ | ySign | ⟨ySign, m₂, e₂, _⟩
    · cases yFinite
    · cases yFinite
    · cases xSign <;> cases ySign <;> trivial
    · cases ySign with
      | positive => rfl
      | negative => simp [place?, Sign.apply, Prod.Lex.le_iff] at ordered
  · rcases y with _ | _ | ySign | ⟨ySign, m₂, e₂, _⟩
    · cases yFinite
    · cases yFinite
    · cases xSign with
      | positive => simp [place?, Sign.apply, Prod.Lex.le_iff] at ordered
      | negative => rfl
    · obtain ⟨⟨xSmall, xLow, xNormal⟩, _⟩ := xCanonical
      obtain ⟨⟨ySmall, yLow, yNormal⟩, _⟩ := yCanonical
      unfold sub
      dsimp only
      apply nonNegative_normalize
      simp only [decreaseExponent_fst]
      cases xSign <;> cases ySign <;>
        simp only [place?, Sign.apply, Option.mem_def, Option.some.injEq, exists_eq_left',
          Prod.Lex.le_iff, ofLex_toLex] at ordered ⊢
      · have aligned := aligned_le ySmall yLow xNormal (by omega)
        omega
      · omega
      · omega
      · have aligned := aligned_le xSmall xLow yNormal (by omega)
        rw [min_comm] at aligned
        omega

theorem nonNegative_mul {x y : UnpackedFloat} (xNonNegative : NonNegative x) (yNonNegative : NonNegative y) :
    NonNegative (mul Format.binary64 x y) ∨ mul Format.binary64 x y = .notANumber := by
  rcases x with xSign | _ | xSign | ⟨xSign, m₁, e₁, _⟩
  · obtain rfl : xSign = .positive := xNonNegative
    rcases y with ySign | _ | ySign | ⟨ySign, m₂, e₂, _⟩
    · obtain rfl : ySign = .positive := yNonNegative
      exact .inl rfl
    · cases yNonNegative
    · exact .inr rfl
    · obtain rfl : ySign = .positive := yNonNegative
      exact .inl rfl
  · cases xNonNegative
  · rcases y with ySign | _ | ySign | ⟨ySign, m₂, e₂, _⟩
    · exact .inr rfl
    · cases yNonNegative
    · exact .inl trivial
    · exact .inl trivial
  · obtain rfl : xSign = .positive := xNonNegative
    rcases y with ySign | _ | ySign | ⟨ySign, m₂, e₂, _⟩
    · obtain rfl : ySign = .positive := yNonNegative
      exact .inl rfl
    · cases yNonNegative
    · exact .inl trivial
    · obtain rfl : ySign = .positive := yNonNegative
      left
      unfold mul roundWithAccuracy
      dsimp only
      split
      · trivial
      · rfl

/-- A number that is not positive does not exceed one that is not negative. -/
theorem le_of_nonNegative {y z : UnpackedFloat} (zNonNegative : NonNegative z)
    (notPositive : (∃ sign, y = .zero sign) ∨ ∃ m e positive, y = .finite .negative m e positive) :
    y.le z = true := by
  rw [le_eq_place]
  obtain ⟨sign, rfl⟩ | ⟨m, e, positive, rfl⟩ := notPositive <;>
    rcases z with sign' | _ | sign' | ⟨sign', m', e', _⟩ <;>
    simp_all [NonNegative, place?, Sign.apply, Prod.Lex.le_iff]

theorem finite_le_iff {sign : Sign} {m₁ m₂ : Nat} {e₁ e₂ : Int} {positive₁ : 0 < m₁} {positive₂ : 0 < m₂} :
    (finite sign m₁ e₁ positive₁).le (finite sign m₂ e₂ positive₂) = true ↔
      match sign with
      | .positive => e₁ < e₂ ∨ e₁ = e₂ ∧ m₁ ≤ m₂
      | .negative => e₂ < e₁ ∨ e₂ = e₁ ∧ m₂ ≤ m₁ := by
  rw [le_eq_place]
  cases sign <;> simp [place?, Sign.apply, Prod.Lex.le_iff, eq_comm]

theorem le_infinity {y : UnpackedFloat} (finite : y.isFinite = true) : y.le (.infinity .positive) = true := by
  rw [le_eq_place]
  obtain ⟨p, placed, _, high⟩ := (isFinite_iff_place y).1 finite
  refine ⟨p, placed, _, rfl, ?_⟩
  rw [Prod.Lex.le_iff]
  exact .inl high

/-- A sum that is not below a positive number is not rounded to one below it. -/
theorem le_unpack_pack_normalize_of_positive {m : Nat} {e exponent sum : Int} {positive : 0 < m}
    (normal : Normal m e) (start : exponent ≤ e) (atLeast : (m * 2 ^ (e - exponent).toNat : Nat) ≤ sum) :
    (UnpackedFloat.finite .positive m e positive).le (unpack Format.binary64 (pack Format.binary64
      (UnpackedFloat.normalize Format.binary64 sum exponent .positive))) = true := by
  have shifted : 0 < m * 2 ^ (e - exponent).toNat := by positivity
  obtain ⟨m', e', positive', rounded, normal', beyond⟩ :=
    @round_atLeast sum.toNat exponent .positive (by omega) m e normal positive start (by omega)
  rw [normalize_of_pos (by omega), rounded]
  by_cases overflow : 971 < e'
  · rw [unpack_pack_of_overflow overflow]
    exact le_infinity rfl
  · have canonical : Canonical (.finite .positive m' e' positive') := ⟨normal', by omega⟩
    rw [unpack_pack canonical (by simp), finite_le_iff]
    exact beyond

/-- A sum that is not below a negative number is not rounded to one below it. -/
theorem le_unpack_pack_normalize_of_negative {m : Nat} {e exponent sum : Int} {positive : 0 < m}
    (normal : Normal m e) (high : e ≤ 971) (start : exponent ≤ e)
    (atLeast : -(m * 2 ^ (e - exponent).toNat : Nat) ≤ sum) :
    (UnpackedFloat.finite .negative m e positive).le (unpack Format.binary64 (pack Format.binary64
      (UnpackedFloat.normalize Format.binary64 sum exponent .positive))) = true := by
  by_cases nonNegative : 0 ≤ sum
  · exact le_of_nonNegative (nonNegative_unpack_pack (nonNegative_normalize exponent nonNegative))
      (.inr ⟨m, e, positive, rfl⟩)
  rw [normalize_of_neg (by omega)]
  obtain none | ⟨m', e', positive', rounded, normal', nearer⟩ :=
    @round_atMost (-sum).toNat exponent .negative (by omega) m e normal start (by omega)
  · have canonical : Canonical (.zero .negative) := trivial
    rw [none, unpack_pack canonical (by simp)]
    exact le_of_nonNegative trivial (.inr ⟨m, e, positive, rfl⟩)
  · have canonical : Canonical (.finite .negative m' e' positive') := ⟨normal', by omega⟩
    rw [rounded, unpack_pack canonical (by simp), finite_le_iff]
    exact nearer

/-- The sum of a finite number and one that is not negative is not below the finite number. -/
theorem le_unpack_pack_add {x y : UnpackedFloat} (xCanonical : Canonical x) (xNonNegative : NonNegative x)
    (yCanonical : Canonical y) (yFinite : y.isFinite = true) :
    y.le (unpack Format.binary64 (pack Format.binary64 (add Format.binary64 x y))) = true := by
  have yNumber : y ≠ .notANumber := by
    rintro rfl
    cases yFinite
  have yBelow : y.le y = true := by
    rw [le_eq_place]
    obtain ⟨p, placed, _⟩ := (isFinite_iff_place y).1 yFinite
    exact ⟨p, placed, p, placed, le_rfl⟩
  rcases x with xSign | _ | xSign | ⟨xSign, m₁, e₁, xPositive⟩
  · obtain rfl : xSign = .positive := xNonNegative
    have sum : add Format.binary64 (.infinity .positive) y = .infinity .positive := by
      rcases y with _ | _ | _ | _
      · cases yFinite
      · cases yFinite
      · rfl
      · rfl
    have canonical : Canonical (.infinity .positive) := trivial
    rw [sum, unpack_pack canonical (by simp)]
    exact le_infinity yFinite
  · cases xNonNegative
  · rcases y with _ | _ | ySign | ⟨ySign, m₂, e₂, yPositive⟩
    · cases yFinite
    · cases yFinite
    · have sum : NonNegative (add Format.binary64 (.zero xSign) (.zero ySign)) := by
        cases xSign <;> cases ySign <;> trivial
      exact le_of_nonNegative (nonNegative_unpack_pack sum) (.inl ⟨ySign, rfl⟩)
    · have sum : add Format.binary64 (.zero xSign) (.finite ySign m₂ e₂ yPositive) =
          .finite ySign m₂ e₂ yPositive := rfl
      rw [sum, unpack_pack yCanonical yNumber]
      exact yBelow
  · obtain rfl : xSign = .positive := xNonNegative
    rcases y with _ | _ | ySign | ⟨ySign, m₂, e₂, yPositive⟩
    · cases yFinite
    · cases yFinite
    · have sum : add Format.binary64 (.finite .positive m₁ e₁ xPositive) (.zero ySign) =
          .finite .positive m₁ e₁ xPositive := rfl
      rw [sum, unpack_pack xCanonical (by simp)]
      exact le_of_nonNegative rfl (.inl ⟨ySign, rfl⟩)
    · obtain ⟨normal, high⟩ := yCanonical
      unfold add
      dsimp only
      simp only [decreaseExponent_fst]
      generalize m₁ * 2 ^ (e₁ - min e₁ e₂).toNat = added
      have start : min e₁ e₂ ≤ e₂ := min_le_right e₁ e₂
      cases ySign with
      | positive => exact le_unpack_pack_normalize_of_positive normal start (by simp [Sign.apply])
      | negative => exact le_unpack_pack_normalize_of_negative normal high start (by simp [Sign.apply])

section Float

variable {lower upper x : Float}

/-- The bits of a number from one up to two. -/
def oneToTwoBits (word : UInt64) : BitVec 64 := ((word >>> 12) ||| 0x3ff0000000000000).toBitVec

theorem unpackExponent_oneToTwoBits (word : UInt64) :
    @unpackExponent Format.binary64 (oneToTwoBits word) = 1023#11 := by
  have constant : ∀ i < 11,
      (decide (i ≤ 10) && (0x3ff0000000000000#64).getLsbD (52 + i)) = (1023#11).getLsbD i := by decide
  apply BitVec.eq_of_getLsbD_eq
  intro i inside
  have beyond : word.toBitVec.getLsbD (12 + (52 + i)) = false := BitVec.getLsbD_of_ge _ _ (by omega)
  simpa [unpackExponent, oneToTwoBits, beyond] using constant i inside

theorem unpackSign_oneToTwoBits (word : UInt64) :
    @unpackSign Format.binary64 (oneToTwoBits word) = 0#1 := by
  apply BitVec.eq_of_getLsbD_eq
  intro i inside
  obtain rfl : i = 0 := by omega
  have beyond : word.toBitVec.getLsbD 75 = false := BitVec.getLsbD_of_ge _ _ (by omega)
  unfold unpackSign
  simp [oneToTwoBits, beyond]

theorem unpacked_oneToTwo (word : UInt64) :
    ∃ mantissa positive, 2 ^ 52 ≤ mantissa ∧
      unpacked (Random.oneToTwo word) = .finite .positive mantissa (-52) positive := by
  have fromBits : ∀ bits : BitVec 52, 0 < (1#1 ++ bits).toNat := fun bits => by
    rw [toNat_implicit_append]
    omega
  have unpackBits : unpack Format.binary64 (oneToTwoBits word) =
      .finite .positive _ (-52) (fromBits (@unpackMantissa Format.binary64 (oneToTwoBits word))) := by
    unfold unpack
    simp only [unpackExponent_oneToTwoBits, unpackSign_oneToTwoBits]
    rfl
  have implicit := toNat_implicit_append (@unpackMantissa Format.binary64 (oneToTwoBits word))
  have mantissaSmall := (@unpackMantissa Format.binary64 (oneToTwoBits word)).isLt
  change _ < 2 ^ 52 at mantissaSmall
  change ∃ mantissa positive, 2 ^ 52 ≤ mantissa ∧
    unpack Format.binary64 (pack Format.binary64 (unpack Format.binary64 (oneToTwoBits word))) = _
  rw [unpackBits]
  generalize @unpackMantissa Format.binary64 (oneToTwoBits word) = bits at *
  have log : (1#1 ++ bits).toNat.log2 = 52 := by
    rw [Nat.log2_eq_iff (by omega)]
    omega
  refine ⟨_, fromBits (BitVec.ofNat 52 (1#1 ++ bits).toNat), ?_, ?_⟩
  · rw [toNat_implicit_append]
    omega
  · have packed : pack Format.binary64 (.finite .positive (1#1 ++ bits).toNat (-52) (fromBits bits)) =
        packComponents Format.binary64 .positive 1023#11 (BitVec.ofNat 52 (1#1 ++ bits).toNat) := by
      unfold pack
      dsimp only
      rw [if_neg (by decide), if_pos (by rw [log]; rfl)]
      rfl
    rw [packed]
    unfold unpack
    simp only [unpackMantissa_packComponents, unpackExponent_packComponents, unpackSign_packComponents]
    rfl

theorem one_le_oneToTwo (word : UInt64) : (1 : Float) ≤ Random.oneToTwo word := by
  obtain ⟨mantissa, positive, large, unpackedEq⟩ := unpacked_oneToTwo word
  have one : unpacked 1 = .finite .positive (2 ^ 52) (-52) (by decide) := rfl
  rw [le_iff, le_eq_place, unpackedEq, one]
  simpa [place?, Sign.apply, Prod.Lex.le_iff] using large

/-- A number drawn from the range between two finite numbers is not below the lower one. -/
theorem lower_le_rangeValue (lowerFinite : lower.isFinite = true) (upperFinite : upper.isFinite = true)
    (ordered : lower ≤ upper) {word : UInt64}
    (below : Random.Stream.rangeValue lower (upper - lower) word < upper) :
    lower ≤ Random.Stream.rangeValue lower (upper - lower) word := by
  have shareNonNegative : NonNegative (unpacked (Random.oneToTwo word - 1)) := by
    have oneFinite : (unpacked 1).isFinite = true := rfl
    have wordFinite : (unpacked (Random.oneToTwo word)).isFinite = true := by
      obtain ⟨mantissa, positive, _, unpackedEq⟩ := unpacked_oneToTwo word
      rw [unpackedEq]
      rfl
    have difference := nonNegative_sub (canonical_unpacked 1) (canonical_unpacked _) oneFinite wordFinite
      (le_iff.1 (one_le_oneToTwo word))
    exact nonNegative_unpack_pack difference
  have scaleNonNegative : NonNegative (unpacked (upper - lower)) := by
    have difference := nonNegative_sub (canonical_unpacked lower) (canonical_unpacked upper) lowerFinite upperFinite
      (le_iff.1 ordered)
    exact nonNegative_unpack_pack difference
  rcases nonNegative_mul shareNonNegative scaleNonNegative with product | noNumber
  · rw [le_iff]
    exact le_unpack_pack_add (canonical_unpacked ((Random.oneToTwo word - 1) * (upper - lower)))
      (nonNegative_unpack_pack product) (canonical_unpacked lower) lowerFinite
  · -- infinity times zero is no number, and nor is its sum with the lower end
    obtain ⟨p, placed, _⟩ := lt_iff_place.1 below
    have noValue : unpacked (Random.Stream.rangeValue lower (upper - lower) word) = .notANumber := by
      change unpack Format.binary64 (pack Format.binary64 (add Format.binary64
        (unpack Format.binary64 (pack Format.binary64 (mul Format.binary64
          (unpacked (Random.oneToTwo word - 1)) (unpacked (upper - lower))))) (unpacked lower))) = _
      have packed : unpack Format.binary64 (pack Format.binary64 .notANumber) = .notANumber := rfl
      have sum : add Format.binary64 .notANumber (unpacked lower) = .notANumber := by
        cases unpacked lower <;> rfl
      rw [noNumber, packed, sum, packed]
    rw [noValue] at placed
    cases placed

end Float

end DensityGraph.Number
