import DensityGraph.Proofs.Sampling.Observed
import DensityGraph.Proofs.Workspace.Reachable

/-!
# The values of generated data sets

A data set that has been generated from a reachable workspace has as many rows as
were asked for, and in each of them one value for every observable.  The value lies
within the current bounds of the variable, whatever the draw came to on its way;
and if a normal density that it comes to has no candidate within the bounds, there
is no data set.
-/

namespace DensityGraph.Workspace

open DensityGraph.Sampling
open DensityGraph.Random (Stream)

variable {w : Workspace}

/-- The rows of a data set from a reachable workspace hold one value within its
bounds for each observable, and a normal density without a candidate within the
bounds leaves no data set. -/
theorem Reachable.values_observed (reachable : w.Reachable) (density : String) (observables : List String)
    (count : Nat) (config : Config) (stream : Stream) :
    (∀ d rest, Sampling.generate w.table density observables count config stream = .ok (d, rest) →
      d.rows.length = count ∧ d.columns = observables ∧ observables.Nodup ∧
        ∀ number < count, ∃ earlier start row,
          draws w.table config.maxAttempts density number stream = .ok (earlier, start) ∧
          d.rows[number]? = some row ∧ row.length = observables.length ∧
          ∀ (place : Nat) (x : String), observables[place]? = some x →
            ∃ value, row[place]? = some value ∧ Observed w.table config.maxAttempts density start x value) ∧
    ∀ number < count, ∀ earlier start e, checkRequest w.table density observables count config = .ok () →
      draws w.table config.maxAttempts density number stream = .ok (earlier, start) →
        GivesUp w.table config.maxAttempts density start e →
          (count ≤ maxRows →
            Sampling.generate w.table density observables count config stream = .error (.error e)) ∧
          ∀ result, Sampling.generate w.table density observables count config stream ≠ .ok result := by
  have coherent := reachable.valid.coherent
  constructor
  · intro d rest generated
    obtain ⟨checked, room, _⟩ := generate_eq_ok.1 generated
    obtain ⟨vars, generates, distinct, wanted⟩ := requested_of_checkRequest checked
    rw [generate_eq_draws coherent checked room, bind_eq_ok] at generated
    obtain ⟨⟨list, last⟩, ran, same⟩ := generated
    obtain ⟨rfl, rfl⟩ := Prod.mk.inj (Except.ok.inj same)
    refine ⟨by rw [List.length_map, length_of_draws ran], rfl, distinct, ?_⟩
    intro number inside
    obtain ⟨earlier, start, state, earlierRan, drawn, found⟩ := exists_draw ran inside
    refine ⟨earlier, start, kept observables state.drawn, earlierRan, by rw [List.getElem?_map, found]; rfl,
      by rw [kept, List.length_map], ?_⟩
    intro place x placed
    obtain ⟨value, valueFound, observed⟩ :=
      exists_observed coherent generates drawn (wanted x (List.mem_of_getElem? placed))
    exact ⟨value, by simp [kept, placed, valueFound], observed⟩
  · intro number inside earlier start e checked earlierRan givesUp
    have fails (room : count ≤ maxRows) :
        Sampling.generate w.table density observables count config stream = .error (.error e) := by
      rw [generate_eq_draws coherent checked room,
        draws_error inside earlierRan (givesUp.error coherent.toStructured)]
      rfl
    refine ⟨fails, fun result generated => ?_⟩
    obtain ⟨_, room, _⟩ := generate_eq_ok.1 generated
    rw [fails room] at generated
    cases generated

/-- Random words for a negative candidate and a positive one. -/
def twoWords : Stream := Stream.ofWords [0x4000000000000000, 0x9000000000000000]

/-- A parameter with bounds from zero up: the first candidate lies outside them
and the second one within, so that two attempts are enough and one is not. -/
theorem values_observed_retry :
    ∃ w : Workspace, w.Reachable ∧
      (∃ d rest row value, Sampling.generate w.table "g" ["y"] 1 ⟨2⟩ twoWords = .ok (d, rest) ∧
        d.rows[0]? = some row ∧ row[0]? = some value ∧ Observed w.table 2 "g" twoWords "y" value) ∧
      ∃ e, GivesUp w.table 1 "g" twoWords e ∧
        Sampling.generate w.table "g" ["y"] 1 ⟨1⟩ twoWords = .error (.error e) := by
  let test (w : Workspace) : Bool :=
    decide (w.table.density "g" = .ok ⟨"g", .gaussian "y" "m" "s"⟩) &&
    decide (Scope.value ⟨w.table, []⟩ "m" = .ok 0) && decide (Scope.value ⟨w.table, []⟩ "s" = .ok 1) &&
    decide (Draw.bounds w.table "y" = .ok ⟨0, 9⟩) &&
    (Sampling.generate w.table "g" ["y"] 1 ⟨2⟩ twoWords).toBool &&
    (checkRequest w.table "g" ["y"] 1 ⟨1⟩).toBool
  obtain ⟨w, reachable, tested⟩ := @Reachable.exists_declare _ (.new "w" ⟨0, 0, 0⟩)
    "Gaussian::g(y[0,9],m[0,-1,1],s[1,0.5,2])" test (by decide +kernel)
  simp only [test, Bool.and_eq_true, decide_eq_true_eq] at tested
  obtain ⟨⟨⟨⟨⟨found, meanValued⟩, sigmaValued⟩, bounded⟩, succeeds⟩, accepted⟩ := tested
  have outside : (twoWords.normal?.any fun taken => !(Bounds.mk 0 9).contains (0 + 1 * taken.1)) = true := by
    decide +kernel
  obtain ⟨⟨z, rest⟩, taken, isOutside⟩ := Option.any_eq_true .. |>.mp outside
  have none : Draw.NoneWithin ⟨0, 9⟩ 0 1 1 twoWords rest :=
    ⟨[z], rfl, .cons taken (.nil rest), by simpa [Draw.Outside] using isOutside⟩
  have givesUp : GivesUp w.table 1 "g" twoWords (.sampling (.truncated "g" "y" 0 9 1 0 1)) :=
    ⟨"g", "g", "y", "m", "s", ⟨[], twoWords⟩, ⟨0, 9⟩, 0, 1, rest, .here, found, meanValued, sigmaValued,
      by decide +kernel, bounded, by decide +kernel, none, rfl⟩
  obtain ⟨⟨d, last⟩, generated⟩ := exists_ok_of_toBool succeeds
  obtain ⟨_, checked⟩ := exists_ok_of_toBool accepted
  obtain ⟨_, _, _, rows⟩ := (reachable.values_observed "g" ["y"] 1 ⟨2⟩ twoWords).1 d last generated
  obtain ⟨_, start, row, begins, rowFound, _, values⟩ := rows 0 (by decide)
  obtain ⟨value, valueFound, observed⟩ := values 0 "y" rfl
  obtain ⟨_, rfl⟩ := Prod.mk.inj (Except.ok.inj begins)
  exact ⟨w, reachable, ⟨d, last, row, value, generated, rowFound, valueFound, observed⟩, _, givesUp,
    ((reachable.values_observed "g" ["y"] 1 ⟨1⟩ twoWords).2 0 (by decide) [] twoWords _ checked rfl givesUp).1
      (by decide)⟩

end DensityGraph.Workspace
