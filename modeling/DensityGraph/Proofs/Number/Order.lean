import DensityGraph.Parameter
import Mathlib.Data.Prod.Lex
import Mathlib.Algebra.Order.Ring.Int
import Mathlib.Order.Compare

/-!
# The order of floating-point numbers

Comparisons of floating-point numbers compare their unpacked values.  Every
number that is not `NaN` has a place in a linear order, which the two zeros
share, and whatever lies between two finite numbers is finite.
-/

namespace DensityGraph.Number

open Float.Model

/-- The value of a number as a sign, a mantissa and an exponent. -/
def unpacked (x : Float) : UnpackedFloat := x.toModel.unpack

/-- The place of a number in the linear order of the numbers that are not
`NaN`: first the class of its magnitude, then its exponent, then its
mantissa. -/
def place? : UnpackedFloat → Option (ℤ ×ₗ ℤ ×ₗ ℤ)
  | .notANumber => none
  | .infinity sign => some (toLex (sign.apply 2, toLex (0, 0)))
  | .zero _ => some (toLex (0, toLex (0, 0)))
  | .finite sign mantissa exponent _ =>
    some (toLex (sign.apply 1, toLex (sign.apply exponent, sign.apply mantissa)))

theorem le_iff {x y : Float} : x ≤ y ↔ (unpacked x).le (unpacked y) = true := by
  change x.le y = true ↔ _
  simp only [Float.le, decide_eq_true_eq]
  rfl

theorem lt_iff {x y : Float} : x < y ↔ (unpacked x).lt (unpacked y) = true := by
  change x.lt y = true ↔ _
  simp only [Float.lt, decide_eq_true_eq]
  rfl

theorem le_eq_place (a b : UnpackedFloat) :
    a.le b = true ↔ ∃ p ∈ place? a, ∃ q ∈ place? b, p ≤ q := by
  rcases a with (_ | _) | _ | (_ | _) | ⟨_ | _, m₁, e₁, _⟩ <;>
    rcases b with (_ | _) | _ | (_ | _) | ⟨_ | _, m₂, e₂, _⟩ <;>
    dsimp only [UnpackedFloat.le, UnpackedFloat.compare, place?] <;>
    simp [UnpackedFloat.Sign.apply, Prod.Lex.le_iff, compare]
  all_goals
    simp only [compareOfLessAndEq]
    split_ifs <;> simp [Ordering.then] <;> omega

theorem lt_eq_place (a b : UnpackedFloat) :
    a.lt b = true ↔ ∃ p ∈ place? a, ∃ q ∈ place? b, p < q := by
  rcases a with (_ | _) | _ | (_ | _) | ⟨_ | _, m₁, e₁, _⟩ <;>
    rcases b with (_ | _) | _ | (_ | _) | ⟨_ | _, m₂, e₂, _⟩ <;>
    dsimp only [UnpackedFloat.lt, UnpackedFloat.compare, place?] <;>
    simp [UnpackedFloat.Sign.apply, Prod.Lex.lt_iff, compare]
  all_goals
    simp only [compareOfLessAndEq]
    split_ifs <;> simp [Ordering.then] <;> omega

/-- A finite number has a place strictly between those of the infinite
numbers. -/
theorem isFinite_iff_place (a : UnpackedFloat) :
    a.isFinite = true ↔ ∃ p ∈ place? a, -2 < (ofLex p).1 ∧ (ofLex p).1 < 2 := by
  rcases a with (_ | _) | _ | (_ | _) | ⟨_ | _, m, e, _⟩ <;>
    dsimp only [UnpackedFloat.isFinite, place?] <;> simp [UnpackedFloat.Sign.apply]

theorem fst_mono {p q : ℤ ×ₗ ℤ ×ₗ ℤ} (below : p ≤ q) : (ofLex p).1 ≤ (ofLex q).1 := by
  rcases (Prod.Lex.le_iff (x := p) (y := q)).mp below with first | ⟨equal, _⟩
  · exact first.le
  · exact equal.le

section Float

variable {x y z : Float}

theorem le_iff_place : x ≤ y ↔ ∃ p ∈ place? (unpacked x), ∃ q ∈ place? (unpacked y), p ≤ q :=
  Iff.trans le_iff (le_eq_place _ _)

theorem lt_iff_place : x < y ↔ ∃ p ∈ place? (unpacked x), ∃ q ∈ place? (unpacked y), p < q :=
  Iff.trans lt_iff (lt_eq_place _ _)

theorem finite_iff_place :
    x.isFinite = true ↔ ∃ p ∈ place? (unpacked x), -2 < (ofLex p).1 ∧ (ofLex p).1 < 2 :=
  isFinite_iff_place (unpacked x)

theorem le_refl_of_finite (finite : x.isFinite = true) : x ≤ x := by
  obtain ⟨p, placed, _⟩ := finite_iff_place.1 finite
  exact le_iff_place.2 ⟨p, placed, p, placed, le_rfl⟩

theorem le_trans (first : x ≤ y) (second : y ≤ z) : x ≤ z := by
  obtain ⟨p, placedX, q, placedY, below⟩ := le_iff_place.1 first
  obtain ⟨q', placedY', r, placedZ, above⟩ := le_iff_place.1 second
  obtain rfl : q = q' := Option.some.inj (placedY.symm.trans placedY')
  exact le_iff_place.2 ⟨p, placedX, r, placedZ, below.trans above⟩

theorem le_of_lt (below : x < y) : x ≤ y := by
  obtain ⟨p, placedX, q, placedY, strict⟩ := lt_iff_place.1 below
  exact le_iff_place.2 ⟨p, placedX, q, placedY, strict.le⟩

/-- Of two finite numbers one does not exceed the other. -/
theorem le_of_not_lt (xFinite : x.isFinite = true) (yFinite : y.isFinite = true)
    (notBelow : ¬ x < y) : y ≤ x := by
  obtain ⟨p, placedX, _⟩ := finite_iff_place.1 xFinite
  obtain ⟨q, placedY, _⟩ := finite_iff_place.1 yFinite
  refine le_iff_place.2 ⟨q, placedY, p, placedX, ?_⟩
  by_contra above
  exact notBelow (lt_iff_place.2 ⟨p, placedX, q, placedY, not_le.mp above⟩)

/-- Whatever lies between two finite numbers is finite. -/
theorem isFinite_of_between (xFinite : x.isFinite = true) (zFinite : z.isFinite = true)
    (above : x ≤ y) (below : y ≤ z) : y.isFinite = true := by
  obtain ⟨p, placedX, q, placedY, pq⟩ := le_iff_place.1 above
  obtain ⟨q', placedY', r, placedZ, qr⟩ := le_iff_place.1 below
  obtain rfl : q = q' := Option.some.inj (placedY.symm.trans placedY')
  obtain ⟨p', placedX', pLow, _⟩ := finite_iff_place.1 xFinite
  obtain rfl : p = p' := Option.some.inj (placedX.symm.trans placedX')
  obtain ⟨r', placedZ', _, rHigh⟩ := finite_iff_place.1 zFinite
  obtain rfl : r = r' := Option.some.inj (placedZ.symm.trans placedZ')
  have low := fst_mono pq
  have high := fst_mono qr
  exact finite_iff_place.2 ⟨q, placedY, by omega, by omega⟩

theorem lt_of_lt_of_le (first : x < y) (second : y ≤ z) : x < z := by
  obtain ⟨p, placedX, q, placedY, below⟩ := lt_iff_place.1 first
  obtain ⟨q', placedY', r, placedZ, above⟩ := le_iff_place.1 second
  obtain rfl : q = q' := Option.some.inj (placedY.symm.trans placedY')
  exact lt_iff_place.2 ⟨p, placedX, r, placedZ, below.trans_le above⟩

theorem lt_of_le_of_lt (first : x ≤ y) (second : y < z) : x < z := by
  obtain ⟨p, placedX, q, placedY, below⟩ := le_iff_place.1 first
  obtain ⟨q', placedY', r, placedZ, above⟩ := lt_iff_place.1 second
  obtain rfl : q = q' := Option.some.inj (placedY.symm.trans placedY')
  exact lt_iff_place.2 ⟨p, placedX, r, placedZ, below.trans_lt above⟩

theorem not_lt_of_le (ordered : x ≤ y) : ¬ y < x := by
  intro less
  obtain ⟨p, placed, q, placedToo, below⟩ := lt_iff_place.1 (lt_of_le_of_lt ordered less)
  obtain rfl : p = q := Option.some.inj (placed.symm.trans placedToo)
  exact lt_irrefl p below

/-- Numbers that are comparable with zero are comparable with each other. -/
theorem not_lt_iff (xNonNegative : 0 ≤ x) (yNonNegative : 0 ≤ y) : ¬ x < y ↔ y ≤ x := by
  constructor
  · intro notBelow
    obtain ⟨_, _, p, placedX, _⟩ := le_iff_place.1 xNonNegative
    obtain ⟨_, _, q, placedY, _⟩ := le_iff_place.1 yNonNegative
    refine le_iff_place.2 ⟨q, placedY, p, placedX, ?_⟩
    by_contra above
    exact notBelow (lt_iff_place.2 ⟨p, placedX, q, placedY, not_le.mp above⟩)
  · exact not_lt_of_le

theorem le_refl_of_nonNegative (nonNegative : 0 ≤ x) : x ≤ x := by
  obtain ⟨_, _, p, placed, _⟩ := le_iff_place.1 nonNegative
  exact le_iff_place.2 ⟨p, placed, p, placed, le_rfl⟩

/-- What is greater than something is a number. -/
theorem isNaN_of_lt (less : x < y) : y.isNaN = false := by
  obtain ⟨_, _, q, placed, _⟩ := lt_iff_place.1 less
  change (unpacked y).isNaN = false
  generalize unpacked y = value at placed
  cases value with
  | notANumber => cases placed
  | infinity | zero | finite => rfl

end Float

end DensityGraph.Number
