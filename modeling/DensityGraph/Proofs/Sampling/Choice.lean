import DensityGraph.Proofs.Composition.Weights
import DensityGraph.Proofs.Sampling.Parts

/-!
# The choice of a branch

The shares of the branches of a mixture lie side by side from zero on, each as long
as its weight, and the remainder has what lies behind them.  The branch whose share
holds the number that is drawn is taken.  A branch of weight zero has an empty share,
however the sums are rounded, and so has the remainder if the others leave nothing.
-/

namespace DensityGraph.Sampling

open DensityGraph.Formula.Builtin (greater)
open DensityGraph.Number (total)
open DensityGraph.Random (Stream)

variable {table : Table} {branches : List Branch} {weights : List Float} {u start : Float} {remainder : String}

/-- The place of the share that holds a number, if one does: shares of some lengths
lie side by side from `start` on. -/
def share? (u start : Float) : List Float → Option Nat
  | [] => none
  | w :: rest => if u < start + w then some 0 else (share? u (start + w) rest).map (· + 1)

/-- The density at a place: that of a branch, or the remainder. -/
def densityAt (branches : List Branch) (remainder : String) (place : Option Nat) : String :=
  (place.bind (branches[·]?)).elim remainder Branch.density

/-- The density that is drawn is that of the share, whatever follows the weights of
the branches. -/
theorem choose_eq (sameLength : branches.length = weights.length) (more : List Float) :
    Draw.choose u start remainder (branches.zip (weights ++ more)) =
      densityAt branches remainder (share? u start weights) := by
  induction branches generalizing start weights with
  | nil =>
      obtain rfl := List.length_eq_zero_iff.mp sameLength.symm
      rfl
  | cons first rest ih =>
      obtain ⟨w, others, rfl⟩ := List.exists_cons_of_length_eq_add_one sameLength.symm
      rw [List.cons_append, List.zip_cons_cons, Draw.choose, share?]
      by_cases here : u < start + w
      · rw [if_pos here, if_pos here]
        rfl
      · rw [if_neg here, if_neg here, ih (by simpa using sameLength)]
        cases share? u (start + w) others <;> rfl

/-- No share holds a number that lies behind all of them. -/
theorem share?_eq_none (nonNegative : 0 ≤ start) (each : ∀ w ∈ weights, 0 ≤ w) (behind : ¬ u < start) :
    share? u start weights = none ↔ ¬ u < weights.foldl (· + ·) start := by
  induction weights generalizing start with
  | nil => simp [share?, behind]
  | cons w rest ih =>
      rw [List.forall_mem_cons] at each
      have sumNonNegative := Number.zero_le_add nonNegative each.1
      rw [share?, List.foldl_cons]
      by_cases here : u < start + w
      · have below := Number.lt_of_lt_of_le here (Number.le_foldl sumNonNegative each.2)
        simp [here, below]
      · rw [if_neg here, Option.map_eq_none_iff]
        exact ih sumNonNegative each.2 here

/-- A share holds the numbers from the sum of those in front of it up to its own. -/
theorem share?_eq_some (nonNegative : 0 ≤ start) (each : ∀ w ∈ weights, 0 ≤ w) (behind : ¬ u < start) (i : Nat) :
    share? u start weights = some i ↔ i < weights.length ∧
      u < (weights.take (i + 1)).foldl (· + ·) start ∧ ¬ u < (weights.take i).foldl (· + ·) start := by
  induction weights generalizing start i with
  | nil => simp [share?]
  | cons w rest ih =>
      rw [List.forall_mem_cons] at each
      have sumNonNegative := Number.zero_le_add nonNegative each.1
      rw [share?, List.take_succ_cons, List.foldl_cons]
      by_cases here : u < start + w
      · rw [if_pos here]
        cases i with
        | zero => simp [here, behind]
        | succ i =>
            have taken : ∀ w ∈ rest.take i, 0 ≤ w := fun w member => each.2 w (List.mem_of_mem_take member)
            have below := Number.lt_of_lt_of_le here (Number.le_foldl sumNonNegative taken)
            simp [below]
      · rw [if_neg here]
        cases i with
        | zero => simp [here]
        | succ i => simp [ih sumNonNegative each.2 here]

/-- A share that holds a number is not empty. -/
theorem pos_of_share? (nonNegative : 0 ≤ start) (each : ∀ w ∈ weights, 0 ≤ w) (behind : ¬ u < start) {i : Nat}
    (held : share? u start weights = some i) : ∃ w, weights[i]? = some w ∧ 0 < w := by
  obtain ⟨inside, below, notBelow⟩ := (share?_eq_some nonNegative each behind i).1 held
  have last : weights.take (i + 1) = weights.take i ++ [weights[i]] := (List.take_append_getElem inside).symm
  rw [last, List.foldl_append, List.foldl_cons, List.foldl_nil] at below
  refine ⟨weights[i], List.getElem?_eq_getElem inside, ?_⟩
  exact Number.pos_of_lt_add (each _ (List.getElem_mem inside)) below notBelow

/-- What is left behind a number below one is not nothing. -/
theorem remainderWeight_pos {sum : Float} (nonNegative : 0 ≤ sum) (uNonNegative : 0 ≤ u) (belowOne : u < 1)
    (behind : ¬ u < sum) : 0 < Scope.remainderWeight sum := by
  have sumBelow : sum < 1 := Number.lt_of_le_of_lt ((Number.not_lt_iff uNonNegative nonNegative).1 behind) belowOne
  have zeroFinite : (0 : Float).isFinite = true := rfl
  have oneFinite : (1 : Float).isFinite = true := rfl
  have sumFinite := Number.isFinite_of_between zeroFinite oneFinite nonNegative (Number.le_of_lt sumBelow)
  have left := Number.sub_pos sumFinite oneFinite sumBelow
  have notBelow : ¬ 1 - sum < 0 := Number.not_lt_of_le (Number.le_of_lt left)
  rw [Scope.remainderWeight, greater, Number.isNaN_of_lt left]
  simpa [notBelow] using left

theorem unit?_bounds {stream rest : Stream} (taken : stream.unit? = some (u, rest)) : 0 ≤ u ∧ u < 1 := by
  obtain ⟨⟨word, _⟩, _, same⟩ := Option.map_eq_some_iff.1 taken
  obtain ⟨rfl, _⟩ := Prod.mk.inj same
  exact Number.unitOf_bounds word

/-- The choice of a branch follows the weights.  Weights are accepted if each lies
between zero and one and their sum, as it is rounded, does not exceed one by more than
is tolerated, and they leave what is missing to one.  Of the numbers from zero up to
one a branch is chosen by those from the sum of the weights in front of it up to its
own, and the remainder by those that are not below the sum of all.  Whatever is
chosen has a positive weight. -/
theorem choice_follows_weights (table : Table) (overrides : Overrides) (branches : List Branch) :
    (∀ result, Scope.mixtureWeights ⟨table, overrides⟩ branches = .ok result ↔
      ∃ weights, Scope.Weighs ⟨table, overrides⟩ branches weights ∧ total weights ≤ 1 + 1e-12 ∧
        result = weights ++ [greater (1 - total weights) 0]) ∧
    (∀ weights, Scope.Weighs ⟨table, overrides⟩ branches weights → total weights ≤ 1 + 1e-12 →
      ∀ u, 0 ≤ u → u < 1 →
        (∀ i, share? u 0 weights = some i ↔
          i < branches.length ∧ u < total (weights.take (i + 1)) ∧ ¬ u < total (weights.take i)) ∧
        (share? u 0 weights = none ↔ ¬ u < total weights) ∧
        (∃ w, (weights ++ [greater (1 - total weights) 0])[(share? u 0 weights).getD branches.length]? = some w ∧
          0 < w) ∧
        ∀ attempts part name remainder stream rest, stream.unit? = some (u, rest) →
          Draw.byKind table attempts part name (.mixture branches remainder) ⟨overrides, stream⟩ =
            part (densityAt branches remainder (share? u 0 weights)) ⟨overrides, rest⟩) ∧
    ∀ (stream rest : Stream) (u : Float), stream.unit? = some (u, rest) → 0 ≤ u ∧ u < 1 := by
  refine ⟨fun result => Scope.mixtureWeights_eq_ok, ?_, fun stream rest u => unit?_bounds⟩
  intro weights weighs within u uNonNegative belowOne
  have zero : (0 : Float) ≤ 0 := by decide +kernel
  have nonNegative := weighs.nonNegative
  have behind : ¬ u < 0 := Number.not_lt_of_le uNonNegative
  have sameLength : branches.length = weights.length := weighs.length_eq
  have none_iff : share? u 0 weights = none ↔ ¬ u < total weights := share?_eq_none zero nonNegative behind
  refine ⟨?_, none_iff, ?_, ?_⟩
  · rw [sameLength]
    exact share?_eq_some zero nonNegative behind
  · cases held : share? u 0 weights with
    | none =>
        refine ⟨_, ?_, remainderWeight_pos (Number.zero_le_foldl zero nonNegative) uNonNegative belowOne
          (none_iff.1 held)⟩
        rw [Option.getD_none, sameLength]
        exact List.getElem?_concat_length
    | some i =>
        obtain ⟨w, found, positive⟩ := pos_of_share? zero nonNegative behind held
        refine ⟨w, ?_, positive⟩
        obtain ⟨inside, _⟩ := List.getElem?_eq_some_iff.mp found
        rw [Option.getD_some, List.getElem?_append_left inside, found]
  · intro attempts part name remainder stream rest taken
    have weighed : Scope.mixtureWeights ⟨table, overrides⟩ branches =
        .ok (weights ++ [Scope.remainderWeight (total weights)]) :=
      Scope.mixtureWeights_eq_ok.2 ⟨weights, weighs, within, rfl⟩
    have numbered : Draw.number Stream.unit? ⟨overrides, stream⟩ = .ok (u, ⟨overrides, rest⟩) :=
      Draw.number_eq_ok.2 ⟨rest, taken, rfl⟩
    rw [Draw.run_mixture, weighed, Draw.lift_ok_bind, Draw.run_bind, numbered]
    dsimp only
    rw [choose_eq sameLength]

/-- Weights of which the first is zero, and whose sum is rounded to just below one. -/
def nearlyOne : Overrides := [("z", 0), ("p", 0.7), ("q", 0.2), ("r", 0.1)]

def nearlyOneBranches : List Branch := [⟨"z", "none"⟩, ⟨"p", "most"⟩, ⟨"q", "some"⟩, ⟨"r", "few"⟩]

/-- The least number is not held by the empty share in front, and the greatest one is
held by what the rounded sum leaves. -/
theorem choice_follows_weights_nearlyOne :
    Scope.Weighs ⟨.empty, nearlyOne⟩ nearlyOneBranches [0, 0.7, 0.2, 0.1] ∧ total [0, 0.7, 0.2, 0.1] ≤ 1 + 1e-12 ∧
      share? 0 0 [0, 0.7, 0.2, 0.1] = some 1 ∧
      Draw.byKind .empty 1 (Draw.keep · 1) "m" (.mixture nearlyOneBranches "rest")
          ⟨nearlyOne, .ofWords [0xFFFFFFFFFFFFFFFF]⟩ = Draw.keep "rest" 1 ⟨nearlyOne, .ofWords []⟩ ∧
      0 < greater (1 - total [0, 0.7, 0.2, 0.1]) 0 := by
  have weighs : Scope.Weighs ⟨.empty, nearlyOne⟩ nearlyOneBranches [0, 0.7, 0.2, 0.1] := by
    unfold Scope.Weighs nearlyOneBranches
    simp only [List.forall₂_cons, List.Forall₂.nil, and_true]
    decide +kernel
  have within : total [0, 0.7, 0.2, 0.1] ≤ 1 + 1e-12 := by decide +kernel
  have taken : (Stream.ofWords [0xFFFFFFFFFFFFFFFF]).unit? =
      some (Random.unitOf 0xFFFFFFFFFFFFFFFF, .ofWords []) := rfl
  obtain ⟨_, chosen, drawn⟩ := choice_follows_weights .empty nearlyOne nearlyOneBranches
  obtain ⟨nonNegative, belowOne⟩ := drawn _ _ _ taken
  obtain ⟨atPlace, _⟩ := chosen _ weighs within 0 (by decide +kernel) (by decide +kernel)
  obtain ⟨_, behindAll, ⟨w, found, positive⟩, run⟩ := chosen _ weighs within _ nonNegative belowOne
  have behind : share? (Random.unitOf 0xFFFFFFFFFFFFFFFF) 0 [0, 0.7, 0.2, 0.1] = none :=
    behindAll.2 (by decide +kernel)
  rw [behind] at found
  obtain rfl := Option.some.inj found
  refine ⟨weighs, within, (atPlace 1).2 (by decide +kernel), ?_, positive⟩
  rw [run 1 (Draw.keep · 1) "m" "rest" _ _ taken, behind]
  rfl

end DensityGraph.Sampling
