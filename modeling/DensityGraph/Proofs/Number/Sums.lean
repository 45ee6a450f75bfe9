import DensityGraph.Proofs.Number.Arithmetic

/-!
# Sums of numbers that are not negative

A sum is not below its summands, and adding a zero does not move a number.  The
difference of two different finite numbers is not rounded to zero, since numbers that
are subnormal lie as close to each other as to zero.  The words of a stream stand for
numbers from zero up to one.
-/

namespace DensityGraph.Number

open Float.Model (Format UnpackedFloat totalExponent)
open Float.Model.UnpackedFloat

theorem add_swap (x y : UnpackedFloat) : add Format.binary64 x y = add Format.binary64 y x := by
  rcases x with xSign | _ | xSign | ⟨xSign, m₁, e₁, _⟩ <;>
    rcases y with ySign | _ | ySign | ⟨ySign, m₂, e₂, _⟩ <;> try rfl
  · cases xSign <;> cases ySign <;> rfl
  · cases xSign <;> cases ySign <;> rfl
  · unfold add
    dsimp only
    simp only [decreaseExponent_fst, min_comm e₂ e₁, Int.add_comm]

theorem nonNegative_add {x y : UnpackedFloat} (xNonNegative : NonNegative x) (yNonNegative : NonNegative y) :
    NonNegative (add Format.binary64 x y) := by
  rcases x with xSign | _ | xSign | ⟨xSign, m₁, e₁, _⟩
  · obtain rfl : xSign = .positive := xNonNegative
    rcases y with ySign | _ | ySign | ⟨ySign, m₂, e₂, _⟩
    · obtain rfl : ySign = .positive := yNonNegative
      rfl
    · cases yNonNegative
    · rfl
    · rfl
  · cases xNonNegative
  · rcases y with ySign | _ | ySign | ⟨ySign, m₂, e₂, _⟩
    · exact yNonNegative
    · cases yNonNegative
    · cases xSign <;> cases ySign <;> trivial
    · exact yNonNegative
  · obtain rfl : xSign = .positive := xNonNegative
    rcases y with ySign | _ | ySign | ⟨ySign, m₂, e₂, _⟩
    · exact yNonNegative
    · cases yNonNegative
    · rfl
    · obtain rfl : ySign = .positive := yNonNegative
      unfold add
      dsimp only
      apply nonNegative_normalize
      simp only [Sign.apply]
      positivity

/-- Nothing is lost or won by adding to infinity. -/
theorem infinity_add {x : UnpackedFloat} (nonNegative : NonNegative x) :
    add Format.binary64 (.infinity .positive) x = .infinity .positive := by
  rcases x with sign | _ | sign | ⟨sign, m, e, _⟩
  · obtain rfl : sign = .positive := nonNegative
    rfl
  · cases nonNegative
  · rfl
  · rfl

theorem isFinite_or_infinity {x : UnpackedFloat} (nonNegative : NonNegative x) :
    x.isFinite = true ∨ x = .infinity .positive := by
  rcases x with sign | _ | sign | ⟨sign, m, e, _⟩
  · obtain rfl : sign = .positive := nonNegative
    exact .inr rfl
  · cases nonNegative
  · exact .inl rfl
  · exact .inl rfl

/-- Adding a zero does not move a number. -/
theorem place?_add_zero {x : UnpackedFloat} (canonical : Canonical x) (sign : Sign) :
    place? (unpack Format.binary64 (pack Format.binary64 (add Format.binary64 x (.zero sign)))) = place? x := by
  rcases x with xSign | _ | xSign | ⟨xSign, m, e, positive⟩
  · have sum : add Format.binary64 (.infinity xSign) (.zero sign) = .infinity xSign := rfl
    rw [sum, unpack_pack canonical (by simp)]
  · have sum : add Format.binary64 .notANumber (.zero sign) = .notANumber := rfl
    rw [sum]
    rfl
  · cases xSign <;> cases sign <;> rfl
  · have sum : add Format.binary64 (.finite xSign m e positive) (.zero sign) = .finite xSign m e positive := rfl
    rw [sum, unpack_pack canonical (by simp)]

section Float

variable {x y u w : Float}

theorem nonNegative_iff : NonNegative (unpacked x) ↔ 0 ≤ x := by
  have zero : unpacked 0 = .zero .positive := rfl
  rw [le_iff, le_eq_place, zero]
  rcases unpacked x with sign | _ | sign | ⟨sign, m, e, _⟩
  · cases sign <;> simp [NonNegative, place?, Sign.apply, Prod.Lex.le_iff]
  · simp [NonNegative, place?]
  · simp [NonNegative, place?]
  · cases sign <;> simp [NonNegative, place?, Sign.apply, Prod.Lex.le_iff]

theorem unpacked_add (x y : Float) : unpacked (x + y) =
    unpack Format.binary64 (pack Format.binary64 (add Format.binary64 (unpacked x) (unpacked y))) :=
  rfl

theorem zero_le_add (xNonNegative : 0 ≤ x) (wNonNegative : 0 ≤ w) : 0 ≤ x + w := by
  rw [← nonNegative_iff] at xNonNegative wNonNegative ⊢
  exact nonNegative_unpack_pack (nonNegative_add xNonNegative wNonNegative)

theorem le_add (xNonNegative : 0 ≤ x) (wNonNegative : 0 ≤ w) : x ≤ x + w := by
  rw [← nonNegative_iff] at xNonNegative wNonNegative
  rw [le_iff, unpacked_add]
  obtain finite | infinite := isFinite_or_infinity xNonNegative
  · rw [add_swap]
    exact le_unpack_pack_add (canonical_unpacked w) wNonNegative (canonical_unpacked x) finite
  · rw [infinite, infinity_add wNonNegative]
    rfl

/-- What is added to a sum that passes a number is not zero. -/
theorem pos_of_lt_add (wNonNegative : 0 ≤ w) (passed : u < x + w) (before : ¬ u < x) : 0 < w := by
  obtain ⟨p, placedZero, q, placed, below⟩ := le_iff_place.1 wNonNegative
  refine lt_iff_place.2 ⟨p, placedZero, q, placed, lt_of_le_of_ne below ?_⟩
  rintro rfl
  apply before
  have isZero : ∃ sign, unpacked w = .zero sign := by
    obtain rfl : toLex ((0 : ℤ), toLex ((0 : ℤ), (0 : ℤ))) = p := Option.some.inj placedZero
    rw [← nonNegative_iff] at wNonNegative
    generalize unpacked w = value at wNonNegative placed
    rcases value with sign | _ | sign | ⟨sign, m, e, _⟩
    · obtain rfl : sign = .positive := wNonNegative
      simp [place?, Sign.apply] at placed
    · cases wNonNegative
    · exact ⟨sign, rfl⟩
    · obtain rfl : sign = .positive := wNonNegative
      simp [place?, Sign.apply] at placed
  obtain ⟨sign, zero⟩ := isZero
  rw [lt_iff_place, unpacked_add, zero, place?_add_zero (canonical_unpacked x)] at passed
  exact lt_iff_place.2 passed

end Float

/-- The numbers above zero. -/
def Positive : UnpackedFloat → Prop
  | .finite sign .. | .infinity sign => sign = .positive
  | .zero _ | .notANumber => False

theorem positive_iff {x : Float} : Positive (unpacked x) ↔ 0 < x := by
  have zero : unpacked 0 = .zero .positive := rfl
  rw [lt_iff, lt_eq_place, zero]
  rcases unpacked x with sign | _ | sign | ⟨sign, m, e, _⟩
  · cases sign <;> simp [Positive, place?, Sign.apply, Prod.Lex.lt_iff]
  · simp [Positive, place?]
  · simp [Positive, place?]
  · cases sign <;> simp [Positive, place?, Sign.apply, Prod.Lex.lt_iff]

theorem positive_unpack_pack {m : Nat} {e : Int} {positive : 0 < m} (normal : Normal m e) :
    Positive (unpack Format.binary64 (pack Format.binary64 (.finite .positive m e positive))) := by
  by_cases overflow : 971 < e
  · rw [unpack_pack_of_overflow overflow]
    rfl
  · have canonical : Canonical (.finite .positive m e positive) := ⟨normal, by omega⟩
    rw [unpack_pack canonical (by simp)]
    rfl

/-- A multiple of the least positive number is not rounded to zero. -/
theorem exists_round {mantissa : Nat} {exponent : Int} (sign : Sign) (positive : 0 < mantissa)
    (low : -1074 ≤ exponent) : ∃ m e positive', Normal m e ∧
      UnpackedFloat.round Format.binary64 sign mantissa exponent = .finite sign m e positive' := by
  obtain ⟨shift, begins, rounded⟩ := @rounded_round mantissa exponent sign positive
  have shifted : 0 < mantissa * 2 ^ shift := by positivity
  have least : -1074 ≤ lastPlace (mantissa * 2 ^ shift) (exponent - shift) := le_max_right _ _
  have units := (@roundedUnits_bounds (mantissa * 2 ^ shift) (exponent - shift)).1
  have large := le_units shifted begins
  have some : 0 < mantissa * 2 ^ shift /
      2 ^ (lastPlace (mantissa * 2 ^ shift) (exponent - shift) - (exponent - shift)).toNat := by
    by_cases above : -1074 < lastPlace (mantissa * 2 ^ shift) (exponent - shift)
    · have := large above
      omega
    · have few : (lastPlace (mantissa * 2 ^ shift) (exponent - shift) - (exponent - shift)).toNat ≤ shift := by omega
      apply Nat.div_pos _ (by positivity)
      exact Nat.le_trans (Nat.pow_le_pow_right (by decide) few) (Nat.le_mul_of_pos_left _ positive)
  generalize UnpackedFloat.round Format.binary64 sign mantissa exponent = result at rounded
  cases rounded with
  | zero none => omega
  | units fits unitsPositive =>
      exact ⟨_, _, unitsPositive, ⟨fits, least, fun above => Nat.le_trans (large above) units⟩, rfl⟩
  | carried full => exact ⟨_, _, by positivity, ⟨by omega, by omega, fun _ => Nat.le_refl _⟩, rfl⟩

theorem positive_unpack_pack_normalize {sum exponent : Int} (positive : 0 < sum) (low : -1074 ≤ exponent) :
    Positive (unpack Format.binary64 (pack Format.binary64
      (UnpackedFloat.normalize Format.binary64 sum exponent .positive))) := by
  obtain ⟨m, e, positive', normal, rounded⟩ := @exists_round sum.toNat exponent .positive (by omega) low
  rw [normalize_of_pos positive, rounded]
  exact positive_unpack_pack normal

/-- A number without one below it is positive. -/
theorem positive_sub {x y : UnpackedFloat} (xCanonical : Canonical x) (yCanonical : Canonical y)
    (xFinite : x.isFinite = true) (yFinite : y.isFinite = true) (ordered : x.lt y = true) :
    Positive (unpack Format.binary64 (pack Format.binary64 (sub Format.binary64 y x))) := by
  rw [lt_eq_place] at ordered
  rcases x with _ | _ | xSign | ⟨xSign, m₁, e₁, xPositive⟩
  · cases xFinite
  · cases xFinite
  · rcases y with _ | _ | ySign | ⟨ySign, m₂, e₂, yPositive⟩
    · cases yFinite
    · cases yFinite
    · simp [place?] at ordered
    · cases ySign with
      | positive =>
          have difference : sub Format.binary64 (.finite .positive m₂ e₂ yPositive) (.zero xSign) =
              .finite .positive m₂ e₂ yPositive := rfl
          rw [difference]
          exact positive_unpack_pack yCanonical.1
      | negative => simp [place?, Sign.apply, Prod.Lex.lt_iff] at ordered
  · rcases y with _ | _ | ySign | ⟨ySign, m₂, e₂, yPositive⟩
    · cases yFinite
    · cases yFinite
    · cases xSign with
      | positive => simp [place?, Sign.apply, Prod.Lex.lt_iff] at ordered
      | negative =>
          have difference : sub Format.binary64 (.zero ySign) (.finite .negative m₁ e₁ xPositive) =
              .finite .positive m₁ e₁ xPositive := rfl
          rw [difference]
          exact positive_unpack_pack xCanonical.1
    · obtain ⟨⟨xSmall, xLow, xNormal⟩, _⟩ := xCanonical
      obtain ⟨⟨ySmall, yLow, yNormal⟩, _⟩ := yCanonical
      unfold sub
      dsimp only
      apply positive_unpack_pack_normalize _ (by omega)
      simp only [decreaseExponent_fst]
      have xSome : 0 < m₁ * 2 ^ (e₁ - min e₂ e₁).toNat := by positivity
      have ySome : 0 < m₂ * 2 ^ (e₂ - min e₂ e₁).toNat := by positivity
      cases xSign <;> cases ySign <;>
        simp only [place?, Sign.apply, Option.mem_def, Option.some.injEq, exists_eq_left',
          Prod.Lex.lt_iff, ofLex_toLex] at ordered ⊢
      · have aligned := aligned_lt ySmall yLow xNormal (by omega)
        omega
      · omega
      · omega
      · have aligned := aligned_lt xSmall xLow yNormal (by omega)
        rw [min_comm] at aligned
        omega

theorem sub_pos {x y : Float} (xFinite : x.isFinite = true) (yFinite : y.isFinite = true) (ordered : x < y) :
    0 < y - x := by
  rw [← positive_iff]
  exact positive_sub (canonical_unpacked x) (canonical_unpacked y) xFinite yFinite (lt_iff.1 ordered)

/-- Zero, or a positive number of full precision whose last place is not above a
given one. -/
inductive UpTo (place : Int) : UnpackedFloat → Prop where
  | zero (sign : Sign) : UpTo place (.zero sign)
  | finite {m : Nat} {e : Int} (positive : 0 < m) (normal : Normal m e) (low : e ≤ place) :
      UpTo place (.finite .positive m e positive)

theorem UpTo.unpack_pack {place : Int} {x : UnpackedFloat} (upTo : UpTo place x) (fits : place ≤ 971) :
    unpack Format.binary64 (pack Format.binary64 x) = x := by
  cases upTo with
  | zero sign => exact @Number.unpack_pack (.zero sign) trivial (by simp)
  | finite positive normal low =>
      exact @Number.unpack_pack (.finite .positive _ _ positive) ⟨normal, by omega⟩ (by simp)

/-- The greatest mantissa is a normal one at every place. -/
theorem normal_greatest {place : Int} (low : -1074 ≤ place) : Normal (2 ^ 53 - 1) place :=
  ⟨by decide, low, fun _ => by decide⟩

theorem unpacked_toFloat (word : UInt64) : unpacked word.toFloat = unpack Format.binary64
    (pack Format.binary64 (UnpackedFloat.normalize Format.binary64 (word.toNat : Int) 0 .positive)) :=
  rfl

theorem unpacked_unitOf (word : UInt64) : unpacked (Random.unitOf word) = unpack Format.binary64
    (pack Format.binary64 (mul Format.binary64 (unpacked (word >>> 11).toFloat) (unpacked Random.halfUnit))) :=
  rfl

/-- A whole number of 53 bits stays one. -/
theorem upTo_toFloat {word : UInt64} (small : word.toNat < 2 ^ 53) : UpTo 0 (unpacked word.toFloat) := by
  have rounded : UpTo 0 (UnpackedFloat.normalize Format.binary64 (word.toNat : Int) 0 .positive) := by
    by_cases zero : word.toNat = 0
    · rw [zero]
      exact .zero .positive
    · have atMost : word.toNat ≤ (2 ^ 53 - 1) * 2 ^ ((0 : Int) - 0).toNat := by
        change word.toNat ≤ (2 ^ 53 - 1) * 1
        omega
      rw [normalize_of_pos (by omega), Int.toNat_natCast]
      obtain none | ⟨m, e, positive, rounded, normal, below⟩ :=
        round_atMost .positive (by omega) (normal_greatest (by decide)) (Int.le_refl 0) atMost
      · rw [none]
        exact .zero .positive
      · rw [rounded]
        exact .finite positive normal (by omega)
  rw [unpacked_toFloat, rounded.unpack_pack (by decide)]
  exact rounded

theorem upTo_mul_halfUnit {x : UnpackedFloat} (upTo : UpTo 0 x) :
    UpTo (-53) (mul Format.binary64 x (unpacked Random.halfUnit)) := by
  have half : unpacked Random.halfUnit = .finite .positive (2 ^ 52) (-105) (by decide) := rfl
  rw [half]
  cases upTo with
  | zero sign => exact .zero _
  | @finite m e positive normal low =>
      have small := normal.small
      have begins : e + -105 ≤ lastPlace (m * 2 ^ 52) (e + -105) := by
        have log := log2_mul_two_pow positive 52
        unfold lastPlace
        omega
      have atMost : m * 2 ^ 52 ≤ (2 ^ 53 - 1) * 2 ^ ((-53 : Int) - (e + -105)).toNat :=
        Nat.mul_le_mul (by omega) (Nat.pow_le_pow_right (by decide) (by omega))
      have product : mul Format.binary64 (.finite .positive m e positive)
          (.finite .positive (2 ^ 52) (-105) (by decide)) = roundWithAccuracy Format.binary64 .positive (m * 2 ^ 52) (e + -105) .exact := rfl
      rw [product]
      obtain none | ⟨m', e', positive', rounded, normal', below⟩ :=
        (rounded_roundWithAccuracy .positive begins).atMost (by positivity) begins (normal_greatest (by decide))
          (by omega) atMost
      · rw [none]
        exact .zero .positive
      · rw [rounded]
        exact .finite positive' normal' (by omega)

theorem upTo_unitOf (word : UInt64) : UpTo (-53) (unpacked (Random.unitOf word)) := by
  have small : (word >>> 11).toNat < 2 ^ 53 := by
    have bounded := word.toNat_lt
    have eleven : (11 : UInt64).toNat % 64 = 11 := rfl
    rw [UInt64.toNat_shiftRight, Nat.shiftRight_eq_div_pow, eleven]
    omega
  have product := upTo_mul_halfUnit (upTo_toFloat small)
  rw [unpacked_unitOf, product.unpack_pack (by decide)]
  exact product

theorem UpTo.bounds {x : UnpackedFloat} (upTo : UpTo (-53) x) : NonNegative x ∧ x.lt (unpacked 1) = true := by
  have one : unpacked 1 = .finite .positive (2 ^ 52) (-52) (by decide) := rfl
  rw [lt_eq_place, one]
  cases upTo with
  | zero sign => exact ⟨trivial, _, rfl, _, rfl, by simp [Sign.apply, Prod.Lex.lt_iff]⟩
  | @finite m e positive normal low =>
      have lower : e < -52 := by omega
      exact ⟨rfl, _, rfl, _, rfl, Prod.Lex.lt_iff.mpr (.inr ⟨rfl, Prod.Lex.lt_iff.mpr (.inl lower)⟩)⟩

/-- A word stands for a number that is not below zero and is below one. -/
theorem unitOf_bounds (word : UInt64) : 0 ≤ Random.unitOf word ∧ Random.unitOf word < 1 := by
  obtain ⟨nonNegative, belowOne⟩ := (upTo_unitOf word).bounds
  exact ⟨nonNegative_iff.1 nonNegative, lt_iff.2 belowOne⟩

end DensityGraph.Number
