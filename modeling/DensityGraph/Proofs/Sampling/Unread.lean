import DensityGraph.Proofs.Sampling.Independence
import DensityGraph.Proofs.Table.Session
import DensityGraph.Sampling.Generate

/-!
# Names that are not read

Where the analysis of a table says that a parameter or a density does not read a
name, what is held for the name does not matter: not to the value of the
parameter, not to the draws of the density and what they take from the stream,
and so not to a data set.
-/

namespace DensityGraph

open DensityGraph.Random (Stream)

variable {table other changed : Table} {hidden name : String} {first second : Overrides}

/-- Two lists of values agree on every name but one. -/
def AgreeExcept (hidden : String) (first second : Overrides) : Prop :=
  ∀ name, name ≠ hidden → first.lookup name = second.lookup name

theorem AgreeExcept.append (agree : AgreeExcept hidden first second) (new : Overrides) :
    AgreeExcept hidden (new ++ first) (new ++ second) := by
  intro name different
  rw [List.lookup_append, List.lookup_append, agree name different]

theorem Scope.held?_eq_of_ne (same : table.SameExcept hidden other) (agree : AgreeExcept hidden first second)
    (different : name ≠ hidden) : held? ⟨table, first⟩ name = held? ⟨other, second⟩ name := by
  rw [held?, held?, agree name different, same.parameter_eq different]

theorem Scope.value_eq_of_unread (structured : table.Structured) (same : table.SameExcept hidden other)
    (agree : AgreeExcept hidden first second) (unread : table.parameterReads name hidden = .ok false) :
    value ⟨table, first⟩ name = value ⟨other, second⟩ name := by
  apply value_congr structured same.outline.shape_eq (Table.hasParameter_of_not_parameterReads unread)
  intro target reads
  apply held?_eq_of_ne same agree
  rintro rfl
  cases unread.symm.trans reads

namespace Sampling

variable {attempts count : Nat} {stream : Stream} {observables : List String} {config : Config}

/-- Two draws end in the same way: both stop for the same reason, or both leave
the same stream and the same values of all names but one. -/
inductive SameEnd (hidden : String) : Except Stop (Unit × State) → Except Stop (Unit × State) → Prop where
  | stopped (stop : Stop) : SameEnd hidden (.error stop) (.error stop)
  | drawn {first second : State} (sameStream : first.stream = second.stream)
      (agree : AgreeExcept hidden first.drawn second.drawn) : SameEnd hidden (.ok ((), first)) (.ok ((), second))

namespace Draw

theorem Alike.sameEnd {step stepToo : Draw Unit} (agree : AgreeExcept hidden first second)
    (alike : Alike step stepToo ⟨first, stream⟩ ⟨second, stream⟩) :
    SameEnd hidden (step ⟨first, stream⟩) (stepToo ⟨second, stream⟩) := by
  rcases alike with ⟨stop, stopped, stoppedToo⟩ | ⟨_, new, rest, ran, ranToo⟩
  · rw [stopped, stoppedToo]
    exact .stopped stop
  · rw [ran, ranToo]
    exact .drawn rfl (agree.append new)

theorem Alike.run_eq {step stepToo : Draw Unit} {state : State} (alike : Alike step stepToo state state) :
    step state = stepToo state := by
  rcases alike with ⟨stop, stopped, stoppedToo⟩ | ⟨_, new, rest, ran, ranToo⟩
  · rw [stopped, stoppedToo]
  · rw [ran, ranToo]

theorem alike_of_unread (structured : table.Structured) (same : table.SameExcept hidden other)
    (agree : AgreeExcept hidden first second) (unread : table.densityReads name hidden = .ok false) :
    Alike (density table attempts name) (density other attempts name) ⟨first, stream⟩ ⟨second, stream⟩ := by
  have sameReads : HoldAlike table other name first second := by
    intro target reads
    apply Scope.held?_eq_of_ne same agree
    -- what is read is not the hidden name
    rintro rfl
    cases unread.symm.trans reads
  exact alike_density structured same.outline (Table.hasDensity_of_densityReads unread) rfl sameReads

end Draw

theorem checkRequest_eq_of_outline (structured : table.Structured) (outline : table.SameOutline changed)
    (declared : table.HasDensity name) :
    checkRequest changed name observables count config = checkRequest table name observables count config := by
  obtain ⟨vars, generates⟩ := structured.exists_generatedVariables declared
  have generatesToo := (Table.extends_of_shape_eq outline.shape_eq).generatedVariables generates
  simp only [checkRequest, outline.density_eq, generates, generatesToo]

theorem observations_congr {before : List (List Float)}
    (same : ∀ stream, observation changed attempts name observables stream =
      observation table attempts name observables stream) :
    observations changed attempts name observables before count stream =
      observations table attempts name observables before count stream := by
  induction count generalizing before stream with
  | zero => rfl
  | succ count ih => simp only [observations, same, ih]

theorem generate_eq_of_unread (structured : table.Structured) (same : table.SameExcept hidden changed)
    (unread : table.densityReads name hidden = .ok false) :
    generate changed name observables count config stream =
      generate table name observables count config stream := by
  have sameRequest : checkRequest changed name observables count config =
      checkRequest table name observables count config :=
    checkRequest_eq_of_outline structured same.outline (Table.hasDensity_of_densityReads unread)
  have sameObservation : ∀ stream, observation changed config.maxAttempts name observables stream =
      observation table config.maxAttempts name observables stream := by
    intro stream
    have alike : Draw.Alike (Draw.density table config.maxAttempts name)
        (Draw.density changed config.maxAttempts name) ⟨[], stream⟩ ⟨[], stream⟩ :=
      Draw.alike_of_unread structured same (fun _ _ => rfl) unread
    simp only [observation, StateT.run, alike.run_eq]
  simp only [generate, sameRequest, observations_congr sameObservation]

end Sampling

open Sampling

/-- In every table that can be reached the analysis of what is read is sound.
What is put in front of the table for a name, or is set in the table for it, is
invisible to the parameters and densities that do not read it. -/
theorem Table.Reached.unread_invisible (reached : table.Reached) (hidden : String) :
    (∀ p, table.parameterReads p hidden = .ok false →
      (∀ first second, AgreeExcept hidden first second →
        Scope.value ⟨table, first⟩ p = Scope.value ⟨table, second⟩ p) ∧
      ∀ value changed, table.setValue hidden value = .ok changed → changed.value p = table.value p) ∧
    ∀ d, table.densityReads d hidden = .ok false →
      (∀ attempts other first second stream, table.SameExcept hidden other → AgreeExcept hidden first second →
        SameEnd hidden (Draw.density table attempts d ⟨first, stream⟩)
          (Draw.density other attempts d ⟨second, stream⟩)) ∧
      ∀ value changed, table.setValue hidden value = .ok changed → ∀ observables count config seed,
        generateSeeded changed d observables count config seed =
          generateSeeded table d observables count config seed := by
  have structured := (Table.reached_iff.1 reached).toStructured
  have changes : ∀ value changed, table.setValue hidden value = .ok changed → table.SameExcept hidden changed :=
    fun _ _ set => Table.sameExcept_of_setValue structured.distinct set
  constructor
  · intro p unread
    constructor
    · intro first second agree
      exact Scope.value_eq_of_unread structured rfl agree unread
    · intro value changed set
      exact (Scope.value_eq_of_unread structured (changes value changed set) (fun _ _ => rfl) unread).symm
  · intro d unread
    constructor
    · intro attempts other first second stream same agree
      exact (Draw.alike_of_unread structured same agree unread).sameEnd agree
    · intro value changed set observables count config seed
      rw [generateSeeded, generateSeeded, generate_eq_of_unread structured (changes value changed set) unread]

/-- A normal density around a computed mean, and a free parameter beside it. -/
def spareBeside : Table :=
  ⟨[.parameter ⟨"a", .free 0.25 ⟨0, 1⟩⟩,
    .parameter ⟨"spare", .free 1 ⟨0, 3⟩⟩,
    .parameter (.derived "mean" ⟨"a + a", ["a"], .binary .add (.slot 0) (.slot 0)⟩),
    .parameter ⟨"x", .free 0.5 ⟨0, 1⟩⟩,
    .parameter ⟨"width", .free 1 ⟨0.5, 2⟩⟩,
    .density ⟨"g", .gaussian "x" "mean" "width"⟩]⟩

theorem unread_invisible_spare :
    spareBeside.Reached ∧ spareBeside.parameterReads "mean" "spare" = .ok false ∧
      spareBeside.densityReads "g" "spare" = .ok false ∧
      ∃ changed, spareBeside.setValue "spare" 2 = .ok changed ∧ changed.value "spare" = .ok 2 ∧
        changed.value "mean" = spareBeside.value "mean" ∧
        generateSeeded changed "g" ["x"] 5 .standard 42 = generateSeeded spareBeside "g" ["x"] 5 .standard 42 := by
  have accepted : (Table.ofNodes spareBeside.nodes).toBool = true := by decide +kernel
  obtain ⟨table, loaded⟩ := exists_ok_of_toBool accepted
  obtain ⟨rfl, wellFormed⟩ := Table.ofNodes_eq_ok.1 loaded
  have reached : spareBeside.Reached := Table.reached_iff.2 wellFormed
  have meanUnread : spareBeside.parameterReads "mean" "spare" = .ok false := by decide +kernel
  have densityUnread : spareBeside.densityReads "g" "spare" = .ok false := by decide +kernel
  have settable : (spareBeside.setValue "spare" 2).toBool = true := by decide +kernel
  obtain ⟨changed, set⟩ := exists_ok_of_toBool settable
  have setTo : (spareBeside.setValue "spare" 2).bind (·.value "spare") = .ok 2 := by decide +kernel
  obtain ⟨values, draws⟩ := Table.Reached.unread_invisible reached "spare"
  refine ⟨reached, meanUnread, densityUnread, changed, set, ?_, ?_, ?_⟩
  · rw [set] at setTo
    exact setTo
  · exact (values "mean" meanUnread).2 2 changed set
  · exact (draws "g" densityUnread).2 2 changed set ["x"] 5 .standard 42

end DensityGraph
