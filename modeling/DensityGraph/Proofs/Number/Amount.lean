import DensityGraph.Proofs.Number.Sums

/-!
# Multiples of the least positive number

Every finite number is a multiple of the least positive one, and finite numbers are
ordered as these multiples are.  The sum of two numbers is rounded, but not past any
number that has the last place of one of them, and so not past their doubles.
-/

namespace DensityGraph.Number

open Float.Model (Format UnpackedFloat)
open Float.Model.UnpackedFloat

/-- A mantissa with its exponent, in multiples of the least positive number. -/
def magnitude (mantissa : Nat) (exponent : Int) : Nat := mantissa * 2 ^ (exponent + 1074).toNat

/-- How many times the least positive number a finite number is. -/
def amount : UnpackedFloat → Int
  | .finite sign mantissa exponent _ => sign.apply (magnitude mantissa exponent)
  | .zero _ | .infinity _ | .notANumber => 0

/-- A finite number whose exponent may be too large for it to be packed. -/
def Unbounded : UnpackedFloat → Prop
  | .finite _ mantissa exponent _ => Normal mantissa exponent
  | .zero _ => True
  | .infinity _ | .notANumber => False

section Amount

variable {m₁ m₂ : Nat} {e₁ e₂ : Int} {x y z : UnpackedFloat}

theorem magnitude_pos (positive : 0 < m₁) : 0 < magnitude m₁ e₁ := by
  unfold magnitude
  positivity

/-- A mantissa is moved to a lower exponent. -/
theorem magnitude_from {start : Int} (low : -1074 ≤ start) (above : start ≤ e₁) :
    magnitude m₁ e₁ = m₁ * 2 ^ (e₁ - start).toNat * 2 ^ (start + 1074).toNat := by
  have exponents : (e₁ + 1074).toNat = (e₁ - start).toNat + (start + 1074).toNat := by omega
  rw [magnitude, exponents, Nat.pow_add, Nat.mul_assoc]

/-- The order of numbers is that of the multiples. -/
theorem magnitude_lt (first : Normal m₁ e₁) (second : Normal m₂ e₂) (ordered : e₁ < e₂ ∨ e₁ = e₂ ∧ m₁ < m₂) :
    magnitude m₁ e₁ < magnitude m₂ e₂ := by
  have aligned := aligned_lt first.small first.low second.large ordered
  have low : -1074 ≤ min e₁ e₂ := le_min first.low second.low
  rw [magnitude_from low (min_le_left _ _), magnitude_from low (min_le_right _ _)]
  exact Nat.mul_lt_mul_of_pos_right aligned (by positivity)

theorem magnitude_le_iff (first : Normal m₁ e₁) (second : Normal m₂ e₂) :
    magnitude m₁ e₁ ≤ magnitude m₂ e₂ ↔ e₁ < e₂ ∨ e₁ = e₂ ∧ m₁ ≤ m₂ := by
  constructor
  · intro ordered
    by_contra beyond
    have := magnitude_lt second first (by omega)
    omega
  · rintro (lower | ⟨rfl, smaller⟩)
    · exact (magnitude_lt first second (.inl lower)).le
    · exact Nat.mul_le_mul_right _ smaller

theorem le_iff_amount (first : Unbounded x) (second : Unbounded y) : x.le y = true ↔ amount x ≤ amount y := by
  rw [le_eq_place]
  rcases x with _ | _ | _ | ⟨sign₁, m₁, e₁, positive₁⟩
  · cases first
  · cases first
  · rcases y with _ | _ | _ | ⟨sign₂, m₂, e₂, positive₂⟩
    · cases second
    · cases second
    · simp [place?, amount]
    · have := @magnitude_pos m₂ e₂ positive₂
      cases sign₂ <;> simp [place?, amount, Sign.apply, Prod.Lex.le_iff]
      omega
  · have := @magnitude_pos m₁ e₁ positive₁
    rcases y with _ | _ | _ | ⟨sign₂, m₂, e₂, positive₂⟩
    · cases second
    · cases second
    · cases sign₁ <;> simp [place?, amount, Sign.apply, Prod.Lex.le_iff]
      omega
    · have := @magnitude_pos m₂ e₂ positive₂
      have forward := magnitude_le_iff first second
      have backward := magnitude_le_iff second first
      cases sign₁ <;> cases sign₂ <;>
        simp [place?, amount, Sign.apply, Prod.Lex.le_iff] <;> omega

theorem amount_neg : amount x.neg = -amount x := by
  rcases x with _ | _ | _ | ⟨_ | _, m, e, _⟩ <;>
    simp [UnpackedFloat.neg, amount, Sign.apply, show -Sign.negative = .positive from rfl,
      show -Sign.positive = .negative from rfl]

theorem Unbounded.neg (unbounded : Unbounded x) : Unbounded x.neg := by
  cases x with
  | infinity | notANumber => cases unbounded
  | zero => trivial
  | finite => exact unbounded

theorem Unbounded.isFinite (unbounded : Unbounded x) : x.isFinite = true := by
  cases x with
  | infinity | notANumber => cases unbounded
  | zero | finite => rfl

theorem Unbounded.unpack_pack (unbounded : Unbounded x) (canonical : Canonical x) :
    unpack Format.binary64 (pack Format.binary64 x) = x := by
  apply Number.unpack_pack canonical
  rintro rfl
  exact unbounded

theorem unbounded_of_canonical (canonical : Canonical x) (finite : x.isFinite = true) : Unbounded x := by
  cases x with
  | infinity | notANumber => cases finite
  | zero => trivial
  | finite => exact canonical.1

/-- A number between two that can be packed can be packed itself. -/
theorem Unbounded.canonical (unbounded : Unbounded z) (first : Canonical x) (second : Canonical y)
    (xFinite : x.isFinite = true) (yFinite : y.isFinite = true) (above : amount x ≤ amount z) (below : amount z ≤ amount y) :
    Canonical z := by
  rcases z with _ | _ | _ | ⟨sign, m, e, positive⟩
  · cases unbounded
  · cases unbounded
  · trivial
  · refine ⟨unbounded, ?_⟩
    have positive := @magnitude_pos m e positive
    cases sign with
    | positive =>
        rcases y with _ | _ | _ | ⟨_ | _, m', e', _⟩ <;> simp only [amount, Sign.apply] at below
        · cases yFinite
        · cases yFinite
        · omega
        · omega
        · have ordered := (magnitude_le_iff unbounded second.1).1 (by omega)
          have high := second.2
          omega
    | negative =>
        rcases x with _ | _ | _ | ⟨_ | _, m', e', _⟩ <;> simp only [amount, Sign.apply] at above
        · cases xFinite
        · cases xFinite
        · omega
        · have ordered := (magnitude_le_iff unbounded first.1).1 (by omega)
          have high := first.2
          omega
        · omega

end Amount

section Rounding

variable {m m' mantissa : Nat} {e e' exponent : Int} {sign : Sign}

theorem magnitude_le_magnitude_iff (low : -1074 ≤ exponent) (start : exponent ≤ e) :
    magnitude m e ≤ magnitude mantissa exponent ↔ m * 2 ^ (e - exponent).toNat ≤ mantissa := by
  rw [magnitude_from low start, magnitude, Nat.mul_le_mul_right_iff (by positivity)]

theorem magnitude_le_magnitude_iff' (low : -1074 ≤ exponent) (start : exponent ≤ e) :
    magnitude mantissa exponent ≤ magnitude m e ↔ mantissa ≤ m * 2 ^ (e - exponent).toNat := by
  rw [magnitude_from low start, magnitude, Nat.mul_le_mul_right_iff (by positivity)]

theorem magnitude_le_of_round (positive : 0 < mantissa) (low : -1074 ≤ exponent)
    {rounded : 0 < m'} (normal : Normal m e) (mPositive : 0 < m) (start : exponent ≤ e)
    (result : UnpackedFloat.round Format.binary64 sign mantissa exponent = .finite sign m' e' rounded)
    (atLeast : magnitude m e ≤ magnitude mantissa exponent) : magnitude m e ≤ magnitude m' e' := by
  rw [magnitude_le_magnitude_iff low start] at atLeast
  obtain ⟨_, _, _, again, resultNormal, beyond⟩ := round_atLeast sign positive normal mPositive start atLeast
  rw [result] at again
  cases again
  exact (magnitude_le_iff normal resultNormal).2 beyond

theorem magnitude_of_round_le (positive : 0 < mantissa) (low : -1074 ≤ exponent)
    {rounded : 0 < m'} (normal : Normal m e) (start : exponent ≤ e)
    (result : UnpackedFloat.round Format.binary64 sign mantissa exponent = .finite sign m' e' rounded)
    (atMost : magnitude mantissa exponent ≤ magnitude m e) : magnitude m' e' ≤ magnitude m e := by
  rw [magnitude_le_magnitude_iff' low start] at atMost
  obtain none | ⟨_, _, _, again, resultNormal, nearer⟩ := round_atMost sign positive normal start atMost
  · rw [result] at none
    cases none
  · rw [result] at again
    cases again
    exact (magnitude_le_iff resultNormal normal).2 nearer

end Rounding

section Sum

variable {x y z : UnpackedFloat} {sum exponent : Int}

theorem roundWithAccuracy_neg (sign : Sign) (mantissa : Nat) (exponent : Int) :
    roundWithAccuracy Format.binary64 (-sign) mantissa exponent .exact =
      (roundWithAccuracy Format.binary64 sign mantissa exponent .exact).neg := by
  unfold roundWithAccuracy
  dsimp only
  split
  · rfl
  · rfl

theorem round_neg (sign : Sign) (mantissa : Nat) (exponent : Int) :
    UnpackedFloat.round Format.binary64 (-sign) mantissa exponent =
      (UnpackedFloat.round Format.binary64 sign mantissa exponent).neg :=
  roundWithAccuracy_neg _ _ _

theorem amount_normalize_neg :
    amount (UnpackedFloat.normalize Format.binary64 (-sum) exponent .positive) =
      -amount (UnpackedFloat.normalize Format.binary64 sum exponent .positive) := by
  have flipped (mantissa : Nat) : amount (UnpackedFloat.round Format.binary64 .negative mantissa exponent) =
      -amount (UnpackedFloat.round Format.binary64 .positive mantissa exponent) := by
    rw [← amount_neg, ← round_neg]
    rfl
  rcases lt_trichotomy sum 0 with negative | rfl | positive
  · rw [normalize_of_pos (by omega), normalize_of_neg negative, flipped, neg_neg]
  · rfl
  · rw [normalize_of_neg (by omega), normalize_of_pos positive, flipped, neg_neg]

theorem unbounded_normalize (low : -1074 ≤ exponent) :
    Unbounded (UnpackedFloat.normalize Format.binary64 sum exponent .positive) := by
  rcases lt_trichotomy sum 0 with negative | rfl | positive
  · obtain ⟨m, e, _, normal, rounded⟩ := @exists_round (-sum).toNat exponent .negative (by omega) low
    rw [normalize_of_neg negative, rounded]
    exact normal
  · trivial
  · obtain ⟨m, e, _, normal, rounded⟩ := @exists_round sum.toNat exponent .positive (by omega) low
    rw [normalize_of_pos positive, rounded]
    exact normal

/-- The exponent of a number is not below a given one. -/
def StartsAt (exponent : Int) : UnpackedFloat → Prop
  | .finite _ _ e _ => exponent ≤ e
  | .zero _ | .infinity _ | .notANumber => True

theorem StartsAt.neg (start : StartsAt exponent z) : StartsAt exponent z.neg := by
  cases z <;> exact start

/-- Twice a number is a number, though it may be too large to be packed. -/
theorem Unbounded.exists_double (unbounded : Unbounded z) :
    ∃ double, Unbounded double ∧ amount double = 2 * amount z ∧
      ∀ exponent, StartsAt exponent z → StartsAt exponent double := by
  rcases z with _ | _ | sign | ⟨sign, m, e, positive⟩
  · cases unbounded
  · cases unbounded
  · exact ⟨.zero sign, trivial, rfl, fun _ => id⟩
  obtain ⟨double, place, some, normal, above, doubled⟩ : ∃ double place, 0 < double ∧
      Normal double place ∧ e ≤ place ∧ magnitude double place = 2 * magnitude m e := by
    by_cases fits : 2 * m < 2 ^ 53 ∧ e = -1074
    · obtain ⟨small, rfl⟩ := fits
      exact ⟨2 * m, -1074, by omega, ⟨small, le_rfl, fun above => absurd above (lt_irrefl _)⟩, le_rfl, by
        simp [magnitude]⟩
    · have large : 2 ^ 52 ≤ m := by
        by_cases least : e = -1074
        · omega
        · exact unbounded.large (lt_of_le_of_ne unbounded.low (Ne.symm least))
      have low := unbounded.low
      refine ⟨m, e + 1, positive, ⟨unbounded.small, by omega, fun _ => large⟩, by omega, ?_⟩
      rw [magnitude, magnitude, show (e + 1 + 1074).toNat = (e + 1074).toNat + 1 by omega, Nat.pow_succ]
      ring
  refine ⟨.finite sign double place some, normal, ?_, fun exponent start => ?_⟩
  · cases sign <;> simp [amount, Sign.apply, doubled]
  · exact Int.le_trans start above

/-- Rounding does not carry a sum below a number that it is not below. -/
theorem le_normalize (low : -1074 ≤ exponent) (unbounded : Unbounded z) (start : StartsAt exponent z)
    (atLeast : amount z ≤ sum * 2 ^ (exponent + 1074).toNat) :
    amount z ≤ amount (UnpackedFloat.normalize Format.binary64 sum exponent .positive) := by
  have unit : (0 : Int) < 2 ^ (exponent + 1074).toNat := by positivity
  rcases lt_trichotomy sum 0 with negative | rfl | positive
  · obtain ⟨m', e', rounded, _, result⟩ := @exists_round (-sum).toNat exponent .negative (by omega) low
    have whole : ((magnitude (-sum).toNat exponent : Nat) : Int) = -(sum * 2 ^ (exponent + 1074).toNat) := by
      rw [magnitude, Nat.cast_mul, Int.toNat_of_nonneg (by omega)]
      push_cast
      ring
    have below : sum * 2 ^ (exponent + 1074).toNat < 0 := Int.mul_neg_of_neg_of_pos negative unit
    rw [normalize_of_neg negative, result]
    rcases z with _ | _ | _ | ⟨_ | _, m, e, some⟩ <;> simp only [amount, Sign.apply] at atLeast ⊢
    · cases unbounded
    · cases unbounded
    · omega
    · have nearer := magnitude_of_round_le (by omega) low unbounded start result (by omega)
      omega
    · omega
  · rw [Int.zero_mul] at atLeast
    exact atLeast
  · obtain ⟨m', e', rounded, _, result⟩ := @exists_round sum.toNat exponent .positive (by omega) low
    have whole : ((magnitude sum.toNat exponent : Nat) : Int) = sum * 2 ^ (exponent + 1074).toNat := by
      rw [magnitude, Nat.cast_mul, Int.toNat_of_nonneg (by omega)]
      push_cast
      rfl
    rw [normalize_of_pos positive, result]
    rcases z with _ | _ | _ | ⟨_ | _, m, e, some⟩ <;> simp only [amount, Sign.apply] at atLeast ⊢
    · cases unbounded
    · cases unbounded
    · omega
    · omega
    · have beyond := magnitude_le_of_round (by omega) low unbounded some start result (by omega)
      omega

/-- Rounding does not carry a sum beyond a number that it does not exceed. -/
theorem normalize_le (low : -1074 ≤ exponent) (unbounded : Unbounded z) (start : StartsAt exponent z)
    (atMost : sum * 2 ^ (exponent + 1074).toNat ≤ amount z) :
    amount (UnpackedFloat.normalize Format.binary64 sum exponent .positive) ≤ amount z := by
  have atLeast : amount z.neg ≤ -sum * 2 ^ (exponent + 1074).toNat := by
    rw [amount_neg, Int.neg_mul]
    omega
  have negated := le_normalize low unbounded.neg start.neg atLeast
  rw [amount_normalize_neg, amount_neg] at negated
  omega

/-- A sum is exact before it is normalized, unless a summand is zero and it is the other one. -/
theorem add_eq_normalize (xUnbounded : Unbounded x) (yUnbounded : Unbounded y) :
    (Unbounded (add Format.binary64 x y) ∧ amount (add Format.binary64 x y) = amount x + amount y) ∨
      ∃ sum exponent, -1074 ≤ exponent ∧ StartsAt exponent x ∧ StartsAt exponent y ∧
        sum * 2 ^ (exponent + 1074).toNat = amount x + amount y ∧
          add Format.binary64 x y = UnpackedFloat.normalize Format.binary64 sum exponent .positive := by
  rcases x with _ | _ | sign₁ | ⟨sign₁, m₁, e₁, some₁⟩
  · cases xUnbounded
  · cases xUnbounded
  · rcases y with _ | _ | sign₂ | ⟨sign₂, m₂, e₂, some₂⟩
    · cases yUnbounded
    · cases yUnbounded
    · cases sign₁ <;> cases sign₂ <;> exact .inl ⟨trivial, rfl⟩
    · exact .inl ⟨yUnbounded, (Int.zero_add _).symm⟩
  · rcases y with _ | _ | sign₂ | ⟨sign₂, m₂, e₂, some₂⟩
    · cases yUnbounded
    · cases yUnbounded
    · exact .inl ⟨xUnbounded, (Int.add_zero _).symm⟩
    · have low : -1074 ≤ min e₁ e₂ := le_min xUnbounded.low yUnbounded.low
      refine .inr ⟨sign₁.apply (m₁ * 2 ^ (e₁ - min e₁ e₂).toNat : Nat) +
        sign₂.apply (m₂ * 2 ^ (e₂ - min e₁ e₂).toNat : Nat), min e₁ e₂, low, min_le_left _ _, min_le_right _ _, ?_, by
          simp only [add, decreaseExponent_fst]⟩
      have exact₁ := @magnitude_from m₁ e₁ _ low (min_le_left _ _)
      have exact₂ := @magnitude_from m₂ e₂ _ low (min_le_right _ _)
      simp only [amount, exact₁, exact₂]
      cases sign₁ <;> cases sign₂ <;> simp only [Sign.apply] <;> push_cast <;> ring

theorem unbounded_add (xUnbounded : Unbounded x) (yUnbounded : Unbounded y) :
    Unbounded (add Format.binary64 x y) := by
  obtain ⟨unbounded, _⟩ | ⟨sum, exponent, low, _, _, _, rounds⟩ := add_eq_normalize xUnbounded yUnbounded
  · exact unbounded
  · rw [rounds]
    exact unbounded_normalize low

/-- A sum that is not below a number with the last place of a summand is not rounded to one below it. -/
theorem le_amount_add (xUnbounded : Unbounded x) (yUnbounded : Unbounded y) (zUnbounded : Unbounded z)
    (start : ∀ exponent, StartsAt exponent x → StartsAt exponent y → StartsAt exponent z)
    (atLeast : amount z ≤ amount x + amount y) : amount z ≤ amount (add Format.binary64 x y) := by
  obtain ⟨_, kept⟩ | ⟨sum, exponent, low, startX, startY, whole, rounds⟩ := add_eq_normalize xUnbounded yUnbounded
  · omega
  · rw [rounds]
    exact le_normalize low zUnbounded (start exponent startX startY) (by omega)

theorem amount_add_le (xUnbounded : Unbounded x) (yUnbounded : Unbounded y) (zUnbounded : Unbounded z)
    (start : ∀ exponent, StartsAt exponent x → StartsAt exponent y → StartsAt exponent z)
    (atMost : amount x + amount y ≤ amount z) : amount (add Format.binary64 x y) ≤ amount z := by
  obtain ⟨_, kept⟩ | ⟨sum, exponent, low, startX, startY, whole, rounds⟩ := add_eq_normalize xUnbounded yUnbounded
  · omega
  · rw [rounds]
    exact normalize_le low zUnbounded (start exponent startX startY) (by omega)

/-- The sum of two numbers in order lies between their doubles. -/
theorem add_between (xUnbounded : Unbounded x) (yUnbounded : Unbounded y) (ordered : amount x ≤ amount y) :
    2 * amount x ≤ amount (add Format.binary64 x y) ∧ amount (add Format.binary64 x y) ≤ 2 * amount y := by
  obtain ⟨double₁, unbounded₁, twice₁, start₁⟩ := xUnbounded.exists_double
  obtain ⟨double₂, unbounded₂, twice₂, start₂⟩ := yUnbounded.exists_double
  constructor
  · rw [← twice₁]
    exact le_amount_add xUnbounded yUnbounded unbounded₁ (fun exponent start _ => start₁ exponent start) (by omega)
  · rw [← twice₂]
    exact amount_add_le xUnbounded yUnbounded unbounded₂ (fun exponent _ start => start₂ exponent start) (by omega)

end Sum

section Float

variable {x y : Float}

theorem unbounded_unpacked (finite : x.isFinite = true) : Unbounded (unpacked x) :=
  unbounded_of_canonical (canonical_unpacked x) finite

theorem le_iff_amount_unpacked (xFinite : x.isFinite = true) (yFinite : y.isFinite = true) :
    x ≤ y ↔ amount (unpacked x) ≤ amount (unpacked y) := by
  rw [le_iff, le_iff_amount (unbounded_unpacked xFinite) (unbounded_unpacked yFinite)]

end Float

end DensityGraph.Number
