import DensityGraph.Proofs.Sampling.Draw
import DensityGraph.Proofs.Table.Session

/-!
# The depth of recursions over names

Values, searches for what is read, lists of drawn parameters and draws all follow
the names that a node refers to, and none of them remembers where it has been.
Every table that a session reaches has ranks, so that no chain of references is
longer than the table has nodes: a recursion that may nest as deep as that gives
what it gives at any greater depth, and never has to give up.
-/

namespace DensityGraph

/-- The error of a recursion that goes deeper than it may. -/
def ModelError.IsCycle (e : ModelError) : Prop := ∃ name, e = .cycle name

theorem ModelError.IsNonFinite.not_isCycle {e : ModelError} (fault : e.IsNonFinite) : ¬ e.IsCycle := by
  obtain ⟨source, rfl⟩ := fault
  rintro ⟨name, impossible⟩
  cases impossible

theorem ModelError.IsWeightFault.not_isCycle {e : ModelError} (fault : e.IsWeightFault) : ¬ e.IsCycle := by
  rintro ⟨name, rfl⟩
  obtain ⟨_, _, impossible⟩ | ⟨_, impossible⟩ := fault
  · cases impossible
  · cases impossible

/-- The stop of a draw that nests deeper than it may. -/
def Sampling.Stop.IsCycle (stop : Sampling.Stop) : Prop := ∃ e, stop = .error e ∧ e.IsCycle

/-- A recursion that may nest to a given depth needs no greater one: it does not give up there, and at every
greater depth it gives the same. -/
structure Suffices {α ε : Type} (run : Nat → Except ε α) (givesUp : ε → Prop) (bound : Nat) : Prop where
  same : ∀ depth, bound ≤ depth → run depth = run bound
  answers : ∀ e, run bound = .error e → ¬ givesUp e

/-- A recursion that succeeds, and that gives the same if it may nest deeper, needs no more. -/
theorem Suffices.of_ok {α ε : Type} {run : Nat → Except ε α} {givesUp : ε → Prop} {bound : Nat} {a : α}
    (succeeds : run bound = .ok a) (deeper : ∀ depth, bound ≤ depth → run depth = .ok a) :
    Suffices run givesUp bound := by
  constructor
  case same => exact fun depth enough => (deeper depth enough).trans succeeds.symm
  case answers =>
    intro e failed
    cases succeeds.symm.trans failed

/-- A recursion that fails at once needs no depth. -/
theorem Suffices.of_error {α ε : Type} {run : Nat → Except ε α} {givesUp : ε → Prop} {bound : Nat} {e : ε}
    (fails : ∀ depth, run depth = .error e) (other : ¬ givesUp e) : Suffices run givesUp bound := by
  constructor
  case same => exact fun depth _ => (fails depth).trans (fails bound).symm
  case answers =>
    intro e' failed
    obtain rfl := Except.error.inj ((fails bound).symm.trans failed)
    exact other

namespace Table

variable {table : Table} {name target : String} {e : ModelError}

theorem not_isCycle_of_parameter (missing : table.parameter name = .error e) : ¬ e.IsCycle := by
  unfold parameter at missing
  split at missing
  · cases missing
  · rintro ⟨own, rfl⟩
    cases missing

theorem not_isCycle_of_density (missing : table.density name = .error e) : ¬ e.IsCycle := by
  unfold density at missing
  split at missing
  · cases missing
  · rintro ⟨own, rfl⟩
    cases missing

theorem Structured.suffices_value (structured : table.Structured) (overrides : Overrides) :
    Suffices (fun depth => Scope.valueWithin ⟨table, overrides⟩ depth name) ModelError.IsCycle table.size := by
  cases found : table.parameter name with
  | error e =>
      cases overridden : overrides.lookup name with
      | some value =>
          have valued : ∀ depth, Scope.valueWithin ⟨table, overrides⟩ depth name = .ok value := by
            intro depth
            rw [Scope.valueWithin.eq_def]
            simp only [overridden]
          exact .of_ok (valued table.size) fun depth _ => valued depth
      | none =>
          refine .of_error (fun depth => ?_) (not_isCycle_of_parameter found)
          rw [Scope.valueWithin.eq_def]
          simp only [overridden, found]
  | ok p =>
      obtain ⟨rank, ranked⟩ := structured.ranked
      have declared : table.HasParameter name := hasParameter_iff.2 ⟨p, found⟩
      have bounded := ranked.lt_size declared.mem_names
      constructor
      case same => exact fun depth enough => Scope.valueWithin_congr ranked (bounded.trans_le enough) bounded
      case answers => exact fun e failed => (Scope.isNonFinite_of_value structured declared failed).not_isCycle

theorem Structured.suffices_parameterReads (structured : table.Structured) :
    Suffices (fun depth => table.parameterReadsWithin target depth name) ModelError.IsCycle table.size := by
  cases declared : table.parameter name with
  | error e =>
      by_cases itself : name = target
      · have reads : ∀ depth, table.parameterReadsWithin target depth name = .ok true :=
          fun depth => parameterReadsWithin_eq_ok.2 (.inl ⟨itself, rfl⟩)
        exact .of_ok (reads table.size) fun depth _ => reads depth
      · refine .of_error (fun depth => ?_) (not_isCycle_of_parameter declared)
        rw [parameterReadsWithin.eq_def]
        simp only [itself, if_false, declared]
  | ok p =>
      obtain ⟨found, searched⟩ := structured.exists_parameterReads (hasParameter_iff.2 ⟨p, declared⟩) target
      exact .of_ok searched fun depth enough => (Extends.refl table).parameterReadsWithin enough searched

theorem Structured.suffices_densityReads (structured : table.Structured) :
    Suffices (fun depth => table.densityReadsWithin target depth name) ModelError.IsCycle table.size := by
  cases declared : table.density name with
  | error e =>
      refine .of_error (fun depth => ?_) (not_isCycle_of_density declared)
      rw [densityReadsWithin.eq_def]
      simp only [declared]
  | ok d =>
      obtain ⟨found, searched⟩ := structured.exists_densityReads (hasDensity_iff.2 ⟨d, declared⟩) target
      exact .of_ok searched fun depth enough => (Extends.refl table).densityReadsWithin enough searched

theorem Structured.suffices_variables (structured : table.Structured) :
    Suffices (fun depth => table.variablesWithin depth name) ModelError.IsCycle table.size := by
  cases declared : table.density name with
  | error e =>
      refine .of_error (fun depth => ?_) (not_isCycle_of_density declared)
      rw [variablesWithin.eq_def]
      simp only [declared]
  | ok d =>
      obtain ⟨vars, generated⟩ := structured.exists_generatedVariables (hasDensity_iff.2 ⟨d, declared⟩)
      exact .of_ok generated fun depth enough => (Extends.refl table).variablesWithin enough generated

end Table

namespace Sampling

open DensityGraph.Random (Stream)

namespace Draw

variable {α β : Type} {table : Table} {attempts : Nat} {name : String}

/-- A step never gives up because it nests too deep. -/
def Answers (step : Draw α) : Prop := ∀ state stop, step state = .error stop → ¬ stop.IsCycle

theorem Answers.bind {first : Draw α} {next : α → Draw β} (head : Answers first)
    (tail : ∀ a, Answers (next a)) : Answers (first >>= next) := by
  intro state stop stopped
  rw [run_bind] at stopped
  split at stopped
  case h_1 a middle _ => exact tail a middle stop stopped
  case h_2 early ran =>
    obtain rfl := Except.error.inj stopped
    exact head state early ran

theorem answers_pure {a : α} : Answers (pure a : Draw α) := by
  intro state stop stopped
  cases stopped

theorem answers_throw {e : ModelError} (other : ¬ e.IsCycle) : Answers (throw (.error e) : Draw α) := by
  rintro state stop stopped ⟨e', rfl, cyclic⟩
  cases stopped
  exact other cyclic

theorem answers_lift {result : Except ModelError α} (other : ∀ e, result = .error e → ¬ e.IsCycle) :
    Answers (lift result) := by
  rintro state stop stopped ⟨e, rfl, cyclic⟩
  cases result with
  | ok a => cases stopped
  | error e' =>
      cases stopped
      exact other _ rfl cyclic

theorem answers_number {take : Stream → Option (Float × Stream)} : Answers (number take) := by
  rintro state stop stopped ⟨e, rfl, cyclic⟩
  unfold number at stopped
  split at stopped
  · cases stopped
  · cases stopped

theorem answers_keep {value : Float} : Answers (keep name value) := by
  intro state stop stopped
  cases stopped

theorem answers_get {look : State → Draw α} (each : ∀ state, Answers (look state)) : Answers (get >>= look) :=
  fun state => each state state

theorem answers_forM {step : α → Draw Unit} {list : List α} (each : ∀ a ∈ list, Answers (step a)) :
    Answers (list.forM step) := by
  induction list with
  | nil => exact answers_pure
  | cons first rest ih =>
      rw [List.forall_mem_cons] at each
      exact each.1.bind fun _ => ih each.2

theorem answers_value (structured : table.Structured) : Answers (value table name) := by
  intro state
  exact answers_lift (fun e failed => (structured.suffices_value state.drawn).answers e failed) state

theorem answers_bounds : Answers (lift (bounds table name)) := by
  apply answers_lift
  intro e failed
  unfold bounds at failed
  split at failed
  case h_1 e' missing =>
    obtain rfl := Except.error.inj failed
    exact Table.not_isCycle_of_parameter missing
  case h_2 p found =>
    split at failed
    · cases failed
    · rintro ⟨own, rfl⟩
      cases failed

theorem answers_truncated {limits : Bounds} {mean width : Float} : Answers (truncated limits mean width attempts) := by
  induction attempts with
  | zero => exact answers_pure
  | succ attempts ih =>
      unfold truncated
      apply answers_number.bind
      intro z
      dsimp only
      split
      · exact answers_pure
      · exact ih

theorem answers_gaussian (structured : table.Structured) {owner x mean sigma : String} :
    Answers (gaussian table attempts owner x mean sigma) := by
  unfold gaussian
  apply (answers_value structured).bind
  intro m
  apply (answers_value structured).bind
  intro width
  dsimp only
  split
  · exact answers_throw (by rintro ⟨own, impossible⟩; cases impossible)
  · apply answers_bounds.bind
    intro limits
    split
    · exact answers_keep
    · apply answers_truncated.bind
      intro drawn
      split
      · exact answers_keep
      · exact answers_throw (by rintro ⟨own, impossible⟩; cases impossible)

theorem answers_even : Answers (even table name) := by
  unfold even
  apply answers_bounds.bind
  intro limits
  dsimp only
  split
  · split
    · rintro state stop stopped ⟨e, rfl, _⟩
      cases stopped
    · exact answers_number.bind fun _ => answers_keep
  · exact answers_keep

/-- Draws follow the parts of a density, and the values in between do not give up. -/
theorem answers_density (structured : table.Structured) (declared : table.HasDensity name) :
    Answers (density table attempts name) := by
  apply structured.density_induction _ declared
  intro name d found parts
  rw [density_eq structured found]
  obtain ⟨own, kind⟩ := d
  cases kind with
  | gaussian x mean sigma => exact answers_gaussian structured
  | uniform parameters => exact answers_forM fun _ _ => answers_even
  | product factors => exact answers_forM parts
  | mixture branches remainder =>
      have weighed : ∀ state : State, Answers (lift (Scope.mixtureWeights ⟨table, state.drawn⟩ branches)) := by
        intro state
        apply answers_lift
        intro e failed
        have weights : ∀ branch ∈ branches, table.HasParameter branch.weight :=
          fun branch member => structured.hasParameter_ref found (List.mem_map_of_mem member)
        rcases Scope.mixtureWeights_error structured weights failed with nonFinite | fault
        · exact nonFinite.not_isCycle
        · exact fault.not_isCycle
      apply answers_get
      intro state
      apply (weighed state).bind
      intro weights
      exact answers_number.bind fun u => parts _ choose_mem
  | conditionalJoint shared marginal conditionals =>
      apply (parts marginal List.mem_cons_self).bind
      exact fun _ => answers_forM fun part member => parts part (List.mem_cons_of_mem _ member)

theorem suffices_density (structured : table.Structured) (state : State) :
    Suffices (fun depth => densityWithin table attempts depth name state) Stop.IsCycle table.size := by
  cases found : table.density name with
  | error e =>
      have fails : ∀ depth, densityWithin table attempts depth name state = .error (.error e) := by
        intro depth
        rw [densityWithin, found]
        rfl
      refine .of_error fails ?_
      rintro ⟨e', same, cyclic⟩
      cases same
      exact Table.not_isCycle_of_density found cyclic
  | ok d =>
      obtain ⟨rank, ranked⟩ := structured.ranked
      have declared : table.HasDensity name := Table.hasDensity_iff.2 ⟨d, found⟩
      have bounded := ranked.lt_size declared.mem_names
      constructor
      case same =>
        intro depth enough
        exact congrFun (densityWithin_congr ranked (bounded.trans_le enough) bounded) state
      case answers => exact answers_density structured declared state

end Draw

end Sampling

namespace Table

variable {table : Table} {name : String}

/-- No chain of references from a declared name is longer than the table has nodes. -/
theorem Structured.length_chain_le (structured : table.Structured) (declared : name ∈ table.names)
    {chain : List String} (linked : (name :: chain).IsChain table.DependsOn) :
    (name :: chain).length ≤ table.size := by
  have further : (name :: chain).Pairwise (Relation.TransGen table.DependsOn) :=
    (linked.imp fun _ _ => Relation.TransGen.single).pairwise
  have distinct : (name :: chain).Nodup := by
    apply further.imp
    rintro first _ depends rfl
    exact structured.acyclic depends
  have inside : name :: chain ⊆ table.names := by
    rw [List.cons_subset]
    refine ⟨declared, ?_⟩
    intro last member
    obtain ⟨_, _, step⟩ := Relation.TransGen.tail'_iff.1 (List.rel_of_pairwise_cons further member)
    exact step.mem_names structured.resolved
  rw [← length_names]
  exact (distinct.subperm inside).length_le

/-- No recursion that starts from a name nests deeper than the table has nodes. -/
structure Bounded (table : Table) (name : String) : Prop where
  value : ∀ overrides, Suffices (fun depth => Scope.valueWithin ⟨table, overrides⟩ depth name)
    ModelError.IsCycle table.size
  parameterReads : ∀ target, Suffices (fun depth => table.parameterReadsWithin target depth name)
    ModelError.IsCycle table.size
  densityReads : ∀ target, Suffices (fun depth => table.densityReadsWithin target depth name)
    ModelError.IsCycle table.size
  generatedVariables : Suffices (fun depth => table.variablesWithin depth name) ModelError.IsCycle table.size
  draw : ∀ attempts state, Suffices (fun depth => Sampling.Draw.densityWithin table attempts depth name state)
    Sampling.Stop.IsCycle table.size
  /-- each recursion follows such a chain, and a name that is not declared ends it -/
  chain : ∀ chain, name ∈ table.names → (name :: chain).IsChain table.DependsOn →
    (name :: chain).length ≤ table.size

/-- On a table that a session reaches, whatever the order of its nodes, the evaluation of a parameter in front of
any values, the searches for what is read, the list of drawn parameters and the draw from any state end for every
name, at a depth of at most the number of nodes. -/
theorem Reached.depth_le_size (reached : table.Reached) (name : String) : table.Bounded name := by
  have structured := (reached_iff.1 reached).toStructured
  constructor
  case value => exact fun overrides => structured.suffices_value overrides
  case parameterReads => exact fun target => structured.suffices_parameterReads
  case densityReads => exact fun target => structured.suffices_densityReads
  case generatedVariables => exact structured.suffices_variables
  case draw => exact fun attempts state => Sampling.Draw.suffices_density structured state
  case chain => exact fun chain declared linked => structured.length_chain_le declared linked

/-- A stored table in which every node stands before those that it refers to. -/
def lastFirst : Table :=
  ⟨[.density ⟨"p", .product ["g"]⟩,
    .density ⟨"g", .gaussian "x" "mean" "a"⟩,
    .parameter ⟨"x", .free 0.5 ⟨0, 1⟩⟩,
    .parameter (.derived "mean" ⟨"a + a", ["a"], .binary .add (.slot 0) (.slot 0)⟩),
    .parameter ⟨"a", .free 0.25 ⟨0, 1⟩⟩]⟩

theorem depth_le_size_lastFirst :
    lastFirst.Reached ∧ lastFirst.DependsOn "p" "g" ∧ lastFirst.DependsOn "g" "mean" ∧
      lastFirst.DependsOn "mean" "a" ∧ lastFirst.Bounded "p" := by
  have accepted : (ofNodes lastFirst.nodes).toBool = true := by decide +kernel
  obtain ⟨table, loaded⟩ := exists_ok_of_toBool accepted
  obtain ⟨rfl, wellFormed⟩ := ofNodes_eq_ok.1 loaded
  have reached : lastFirst.Reached := reached_iff.2 wellFormed
  refine ⟨reached, ?_, ?_, ?_, reached.depth_le_size "p"⟩
  · exact ⟨_, .head _, rfl, List.mem_singleton_self _⟩
  · exact ⟨_, .tail _ (.head _), rfl, .tail _ (.head _)⟩
  · exact ⟨_, .tail _ (.tail _ (.tail _ (.head _))), rfl, List.mem_singleton_self _⟩

end Table

end DensityGraph
