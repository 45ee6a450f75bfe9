import DensityGraph.Scope
import DensityGraph.Proofs.Number.Sums
import DensityGraph.Proofs.Result

/-!
# The weights of a mixture

Weights that are accepted lie between zero and one, and their sum from the left does
not exceed one by more than is tolerated.  Sums from the left never decrease, rounded
as they are.
-/

namespace DensityGraph

namespace Number

variable {start w : Float} {weights : List Float}

/-- The sum of numbers from the left. -/
def total (weights : List Float) : Float := weights.foldl (· + ·) 0

theorem zero_le_foldl (nonNegative : 0 ≤ start) (each : ∀ w ∈ weights, 0 ≤ w) :
    0 ≤ weights.foldl (· + ·) start := by
  induction weights generalizing start with
  | nil => exact nonNegative
  | cons first rest ih =>
      rw [List.forall_mem_cons] at each
      exact ih (zero_le_add nonNegative each.1) each.2

theorem le_foldl (nonNegative : 0 ≤ start) (each : ∀ w ∈ weights, 0 ≤ w) :
    start ≤ weights.foldl (· + ·) start := by
  induction weights generalizing start with
  | nil => exact le_refl_of_nonNegative nonNegative
  | cons first rest ih =>
      rw [List.forall_mem_cons] at each
      exact le_trans (le_add nonNegative each.1) (ih (zero_le_add nonNegative each.1) each.2)

end Number

namespace Scope

open Number (total)

variable {scope : Scope} {branches : List Branch} {weights result : List Float} {sum : Float}

/-- The values of the weights of some branches, each of which lies between zero and
one. -/
def Weighs (scope : Scope) (branches : List Branch) (weights : List Float) : Prop :=
  List.Forall₂ (fun branch w => scope.value branch.weight = .ok w ∧ 0 ≤ w ∧ w ≤ 1) branches weights

theorem isWeight_iff {value : Float} : isWeight value = true ↔ 0 ≤ value ∧ value ≤ 1 := by
  simp [isWeight]

theorem Weighs.nonNegative (weighs : scope.Weighs branches weights) : ∀ w ∈ weights, 0 ≤ w := by
  intro w member
  obtain ⟨_, _, _, nonNegative, _⟩ := exists_left_of_forall₂ weighs member
  exact nonNegative

theorem explicitWeights_eq_ok {start : Float} :
    scope.explicitWeights start branches = .ok (weights, sum) ↔
      scope.Weighs branches weights ∧ sum = weights.foldl (· + ·) start := by
  induction branches generalizing start weights with
  | nil =>
      simp only [explicitWeights, Weighs, List.forall₂_nil_left_iff, Except.ok.injEq, Prod.mk.injEq]
      constructor
      · rintro ⟨rfl, rfl⟩
        exact ⟨rfl, rfl⟩
      · rintro ⟨rfl, rfl⟩
        exact ⟨rfl, rfl⟩
  | cons first rest ih =>
      rw [explicitWeights, Weighs, List.forall₂_cons_left_iff]
      constructor
      · intro weighed
        split at weighed
        case h_1 => cases weighed
        case h_2 w value =>
          split at weighed
          case isFalse => cases weighed
          case isTrue isWeight =>
            split at weighed
            case h_1 => cases weighed
            case h_2 others sumThere weighedRest =>
              obtain ⟨rfl, rfl⟩ := Prod.mk.inj (Except.ok.inj weighed)
              obtain ⟨weighs, sumEq⟩ := ih.1 weighedRest
              exact ⟨⟨w, others, ⟨value, isWeight_iff.1 isWeight⟩, weighs, rfl⟩, sumEq⟩
      · rintro ⟨⟨w, others, ⟨value, within⟩, weighs, rfl⟩, rfl⟩
        simp only [value, isWeight_iff.2 within, if_true]
        rw [ih.2 ⟨weighs, rfl⟩, List.foldl_cons]

/-- The weights are those of the branches and what they leave. -/
theorem mixtureWeights_eq_ok : scope.mixtureWeights branches = .ok result ↔
    ∃ weights, scope.Weighs branches weights ∧ total weights ≤ 1 + weightTolerance ∧
      result = weights ++ [remainderWeight (total weights)] := by
  have zero : (0 : Float) ≤ 0 := by decide +kernel
  have tolerated : 0 ≤ 1 + weightTolerance := by decide +kernel
  unfold mixtureWeights
  constructor
  · intro weighed
    split at weighed
    case h_1 => cases weighed
    case h_2 weights sum explicit =>
      obtain ⟨weighs, rfl⟩ := explicitWeights_eq_ok.1 explicit
      obtain ⟨within, same⟩ := guard_eq_ok.1 weighed
      have nonNegative := Number.zero_le_foldl zero weighs.nonNegative
      exact ⟨weights, weighs, (Number.not_lt_iff tolerated nonNegative).1 within, (Except.ok.inj same).symm⟩
  · rintro ⟨weights, weighs, within, rfl⟩
    have explicit : scope.explicitWeights 0 branches = .ok (weights, total weights) :=
      explicitWeights_eq_ok.2 ⟨weighs, rfl⟩
    rw [explicit]
    exact guard_eq_ok.2 ⟨Number.not_lt_of_le within, rfl⟩

end Scope

end DensityGraph
