import DensityGraph.Parameter
import DensityGraph.Proofs.Number.Order

/-!
# Values within bounds

A free parameter is sound if its bounds are finite and in order and its value
lies between them.  Every way of making or changing a parameter gives a sound
one.
-/

namespace DensityGraph

namespace Bounds

theorem valid_iff {bounds : Bounds} :
    bounds.valid = true ↔
      bounds.lower.isFinite = true ∧ bounds.upper.isFinite = true ∧ bounds.lower ≤ bounds.upper := by
  simp [valid, and_assoc]

theorem contains_iff {bounds : Bounds} {value : Float} :
    bounds.contains value = true ↔ bounds.lower ≤ value ∧ value ≤ bounds.upper := by
  simp [contains]

/-- Whatever lies within valid bounds is finite. -/
theorem isFinite_of_contains {bounds : Bounds} {value : Float} (valid : bounds.valid = true)
    (within : bounds.contains value = true) : value.isFinite = true := by
  obtain ⟨lowerFinite, upperFinite, _⟩ := valid_iff.1 valid
  obtain ⟨above, below⟩ := contains_iff.1 within
  exact Number.isFinite_of_between lowerFinite upperFinite above below

/-- Clamping a finite value moves it into valid bounds. -/
theorem contains_clamp {bounds : Bounds} {value : Float} (valid : bounds.valid = true)
    (finite : value.isFinite = true) : bounds.contains (bounds.clamp value) = true := by
  obtain ⟨lowerFinite, upperFinite, ordered⟩ := valid_iff.1 valid
  rw [contains_iff]
  unfold clamp
  by_cases low : value < bounds.lower
  · simp only [if_pos low]
    by_cases high : bounds.upper < bounds.lower
    · simp only [if_pos high]
      exact ⟨ordered, Number.le_refl_of_finite upperFinite⟩
    · simp only [if_neg high]
      exact ⟨Number.le_refl_of_finite lowerFinite, ordered⟩
  · simp only [if_neg low]
    by_cases high : bounds.upper < value
    · simp only [if_pos high]
      exact ⟨ordered, Number.le_refl_of_finite upperFinite⟩
    · simp only [if_neg high]
      exact ⟨Number.le_of_not_lt finite lowerFinite low,
        Number.le_of_not_lt upperFinite finite high⟩

end Bounds

namespace Parameter

theorem admits_iff {bounds : Bounds} {value : Float} :
    admits bounds value = true ↔ value.isFinite = true ∧ bounds.contains value = true := by
  simp [admits]

/-- Valid bounds admit exactly the values that they contain. -/
theorem admits_eq_contains {bounds : Bounds} {value : Float} (valid : bounds.valid = true) :
    admits bounds value = bounds.contains value := by
  rw [Bool.eq_iff_iff, admits_iff]
  exact ⟨And.right, fun within => ⟨Bounds.isFinite_of_contains valid within, within⟩⟩

/-- A free parameter holds a value within valid bounds. -/
def Sound (p : Parameter) : Prop :=
  ∀ value bounds, p.kind = .free value bounds → bounds.valid = true ∧ admits bounds value = true

theorem free_eq_ok {name : String} {value lower upper : Float} {p : Parameter} :
    free name value lower upper = .ok p ↔
      Bounds.valid ⟨lower, upper⟩ = true ∧ admits ⟨lower, upper⟩ value = true ∧
        p = ⟨name, .free value ⟨lower, upper⟩⟩ := by
  unfold free checkedBounds
  by_cases valid : Bounds.valid ⟨lower, upper⟩ = true
  · by_cases admitted : admits ⟨lower, upper⟩ value = true
    · simp [valid, admitted, eq_comm]
    · simp [valid, admitted]
  · simp [valid]

theorem setValue_eq_ok {p changed : Parameter} {value : Float} :
    p.setValue value = .ok changed ↔
      ∃ old bounds, p.kind = .free old bounds ∧ admits bounds value = true ∧
        changed = ⟨p.name, .free value bounds⟩ := by
  obtain ⟨name, kind⟩ := p
  cases kind with
  | derived formula => simp [setValue]
  | free old bounds =>
      by_cases admitted : admits bounds value = true
      · simp only [setValue, admitted, if_true, Except.ok.injEq, Kind.free.injEq]
        constructor
        · rintro rfl
          exact ⟨old, bounds, ⟨rfl, rfl⟩, admitted, rfl⟩
        · rintro ⟨_, _, ⟨rfl, rfl⟩, _, rfl⟩
          rfl
      · simp [setValue, admitted]

theorem setRange_eq_ok {p changed : Parameter} {lower upper : Float} :
    p.setRange lower upper = .ok changed ↔
      ∃ value old, p.kind = .free value old ∧ Bounds.valid ⟨lower, upper⟩ = true ∧
        changed = ⟨p.name, .free (Bounds.clamp ⟨lower, upper⟩ value) ⟨lower, upper⟩⟩ := by
  obtain ⟨name, kind⟩ := p
  unfold setRange checkedBounds
  by_cases valid : Bounds.valid ⟨lower, upper⟩ = true
  · cases kind with
    | derived formula => simp [valid]
    | free value old => simp [valid, eq_comm]
  · simp [valid]

theorem sound_of_free {name : String} {value : Float} {bounds : Bounds} (valid : bounds.valid = true)
    (admitted : admits bounds value = true) : Sound ⟨name, .free value bounds⟩ := by
  intro value' bounds' kindEq
  obtain ⟨rfl, rfl⟩ := Kind.free.inj kindEq
  exact ⟨valid, admitted⟩

/-- A free parameter is sound if its value lies between finite bounds. -/
theorem sound_free_iff {name : String} {value : Float} {bounds : Bounds} :
    Sound ⟨name, .free value bounds⟩ ↔
      bounds.lower.isFinite = true ∧ bounds.upper.isFinite = true ∧ value.isFinite = true ∧
        bounds.lower ≤ value ∧ value ≤ bounds.upper := by
  constructor
  · intro sound
    obtain ⟨valid, admitted⟩ := sound value bounds rfl
    obtain ⟨lowerFinite, upperFinite, _⟩ := Bounds.valid_iff.1 valid
    obtain ⟨valueFinite, within⟩ := admits_iff.1 admitted
    exact ⟨lowerFinite, upperFinite, valueFinite, Bounds.contains_iff.1 within⟩
  · rintro ⟨lowerFinite, upperFinite, valueFinite, above, below⟩
    apply sound_of_free
    · exact Bounds.valid_iff.2 ⟨lowerFinite, upperFinite, Number.le_trans above below⟩
    · exact admits_iff.2 ⟨valueFinite, Bounds.contains_iff.2 ⟨above, below⟩⟩

theorem sound_derived (name : String) (formula : Formula) : (derived name formula).Sound := by
  intro value bounds kindEq
  cases kindEq

theorem free_sound {name : String} {value lower upper : Float} {p : Parameter}
    (made : free name value lower upper = .ok p) : p.Sound := by
  obtain ⟨valid, admitted, rfl⟩ := free_eq_ok.1 made
  exact sound_of_free valid admitted

theorem setValue_sound {p changed : Parameter} {value : Float} (sound : p.Sound)
    (set : p.setValue value = .ok changed) : changed.Sound := by
  obtain ⟨old, bounds, kindEq, admitted, rfl⟩ := setValue_eq_ok.1 set
  exact sound_of_free (sound old bounds kindEq).1 admitted

theorem setRange_sound {p changed : Parameter} {lower upper : Float} (sound : p.Sound)
    (set : p.setRange lower upper = .ok changed) : changed.Sound := by
  obtain ⟨value, old, kindEq, valid, rfl⟩ := setRange_eq_ok.1 set
  have finite := (admits_iff.1 (sound value old kindEq).2).1
  have within := Bounds.contains_clamp valid finite
  apply sound_of_free valid
  rw [admits_eq_contains valid]
  exact within

end Parameter

end DensityGraph
