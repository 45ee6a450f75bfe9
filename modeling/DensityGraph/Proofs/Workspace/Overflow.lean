import DensityGraph.Proofs.Sampling.Overflow
import DensityGraph.Proofs.Workspace.Reachable

/-!
# Generation that breaks off

The bounds of a parameter are finite and in order, but their difference may be too
large for a number.  An even draw within such bounds breaks off the generation of a
data set, and so does a number of rows that no list has room for.  Nothing else does:
a model without such bounds never breaks off for a number of rows that has room.
-/

namespace DensityGraph.Workspace

open DensityGraph.Sampling
open DensityGraph.Random (Stream)

variable {w : Workspace}

/-- Generation breaks off exactly if there is no room for the rows, or if one of the
observations comes to an even density with a range that is too long.  Otherwise it
gives a data set or an error of the model, or uses up the stream. -/
theorem Reachable.generate_breaks_iff (reachable : w.Reachable) (density : String) (observables : List String)
    (count : Nat) (config : Config) (stream : Stream) :
    (Sampling.generate w.table density observables count config stream = .error .rangeOverflow ↔
      checkRequest w.table density observables count config = .ok () ∧
        (maxRows < count ∨ ∃ number < count, ∃ earlier start,
          draws w.table config.maxAttempts density number stream = .ok (earlier, start) ∧
            Overflows w.table config.maxAttempts density start)) ∧
    (count ≤ maxRows →
      (∀ x limits, w.table.Draws density x → Draw.bounds w.table x = .ok limits → ¬ TooLong limits) →
      (∃ d rest, Sampling.generate w.table density observables count config stream = .ok (d, rest)) ∨
        (∃ e, Sampling.generate w.table density observables count config stream = .error (.error e)) ∨
          Sampling.generate w.table density observables count config stream = .error .exhausted) ∧
    ∀ x limits state, Draw.bounds w.table x = .ok limits →
      (Draw.even w.table x state = .error .rangeOverflow ↔ TooLong limits) := by
  have coherent := reachable.valid.coherent
  refine ⟨generate_eq_rangeOverflow coherent, fun room short => ?_, fun x limits state bounded => ?_⟩
  · cases generated : Sampling.generate w.table density observables count config stream with
    | ok result => exact .inl ⟨result.1, result.2, rfl⟩
    | error stop =>
        cases stop with
        | error e => exact .inr (.inl ⟨e, rfl⟩)
        | exhausted => exact .inr (.inr rfl)
        | rangeOverflow =>
            obtain ⟨_, tooMany | ⟨_, _, _, _, _, overflows⟩⟩ := (generate_eq_rangeOverflow coherent).1 generated
            · exact absurd room (Nat.not_le.mpr tooMany)
            · obtain ⟨x, limits, drawn, bounded, long⟩ := overflows.exists_drawn coherent.toStructured
              exact absurd long (short x limits drawn bounded)
  · rw [Draw.even_eq_rangeOverflow]
    constructor
    · rintro ⟨limitsToo, boundedToo, long⟩
      obtain rfl := Except.ok.inj (bounded.symm.trans boundedToo)
      exact long
    · exact fun long => ⟨limits, bounded, long⟩

/-- One random word for the middle of a range. -/
def middleWord : Stream := Stream.ofWords [0x8000000000000000]

/-- A range whose length is nearly the greatest number does not break off the
generation. -/
theorem generate_breaks_iff_longRange : ∃ w : Workspace, w.Reachable ∧
    ((∃ d rest, Sampling.generate w.table "u" ["x"] 1 .standard middleWord = .ok (d, rest)) ∨
      (∃ e, Sampling.generate w.table "u" ["x"] 1 .standard middleWord = .error (.error e)) ∨
        Sampling.generate w.table "u" ["x"] 1 .standard middleWord = .error .exhausted) := by
  let test (w : Workspace) : Bool :=
    decide (w.table.generatedVariables "u" = .ok ["x"]) &&
    decide (Draw.bounds w.table "x" = .ok ⟨-8.9e307, 8.9e307⟩)
  obtain ⟨w, reachable, tested⟩ := @Reachable.exists_declare _ (.new "w" ⟨0, 0, 0⟩)
    "Uniform::u(x[-8.9e307,8.9e307])" test (by decide +kernel)
  simp only [test, Bool.and_eq_true, decide_eq_true_eq] at tested
  obtain ⟨generates, bounded⟩ := tested
  refine ⟨w, reachable, (reachable.generate_breaks_iff "u" ["x"] 1 .standard middleWord).2.1 (by decide) ?_⟩
  rintro x limits ⟨vars, generatesToo, drawn⟩ boundedToo ⟨_, long⟩
  obtain rfl := Except.ok.inj (generates.symm.trans generatesToo)
  obtain rfl := List.mem_singleton.mp drawn
  obtain rfl := Except.ok.inj (bounded.symm.trans boundedToo)
  revert long
  decide +kernel

/-- A range that a declaration accepts, whose length is too large for a number. -/
theorem breaks_off_tooLong : ∃ w : Workspace, w.Reachable ∧
    checkRequest w.table "u" ["x"] 1 .standard = .ok () ∧ Draw.bounds w.table "x" = .ok ⟨-1e308, 1e308⟩ ∧
    Bounds.valid ⟨-1e308, 1e308⟩ = true ∧
    Sampling.generate w.table "u" ["x"] 1 .standard middleWord = .error .rangeOverflow := by
  let test (w : Workspace) : Bool :=
    decide (checkRequest w.table "u" ["x"] 1 .standard = .ok ()) &&
    decide (Draw.bounds w.table "x" = .ok ⟨-1e308, 1e308⟩) &&
    (match Sampling.generate w.table "u" ["x"] 1 .standard middleWord with
      | .error .rangeOverflow => true
      | _ => false)
  obtain ⟨w, reachable, tested⟩ := @Reachable.exists_declare _ (.new "w" ⟨0, 0, 0⟩)
    "Uniform::u(x[-1e308,1e308])" test (by decide +kernel)
  simp only [test, Bool.and_eq_true, decide_eq_true_eq] at tested
  obtain ⟨⟨checked, bounded⟩, broken⟩ := tested
  refine ⟨w, reachable, checked, bounded, by decide +kernel, ?_⟩
  revert broken
  split
  · exact fun _ => by assumption
  · rintro ⟨⟩

end DensityGraph.Workspace
