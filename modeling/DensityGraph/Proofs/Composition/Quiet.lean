import DensityGraph.Declaration.Elaboration
import DensityGraph.Proofs.Scope
import DensityGraph.Proofs.Table.Lookup

/-!
# Errors that are not about a text

Checks of nodes and names know nothing of the text that asks for them.  They fail for names, values and
compositions, and never because a text is malformed; adding a node whose name is valid does not either.
-/

namespace DensityGraph

variable {α : Type}

/-- What a model says is at fault, and not a text, a file or a setting. -/
def ModelError.isAboutModel : ModelError → Bool
  | duplicateName _ | unknownReference .. | cycle _ | formula _ | composition _ | outOfBounds .. | invalidRange ..
  | readOnly _ => true
  | declaration _ | invalidSampleCount _ | sampling _ | unknownSnapshot _ | file .. | corrupt _ | config _ => false

/-- An operation that fails for what a model says only, and so not because of a malformed text. -/
abbrev Quiet (result : Except ModelError α) : Prop := FailsWith ModelError.isAboutModel result

theorem Parameter.quiet_free {name : String} {value lower upper : Float} :
    Quiet (Parameter.free name value lower upper) := by
  unfold Parameter.free checkedBounds
  dsimp only
  split
  · rename_i failed
    split at failed
    · cases failed
    · obtain rfl := Except.error.inj failed
      exact .error rfl
  · exact .ite (.ok _) (.error rfl)

theorem Formula.quiet_compile {source : String} {names : List String} :
    Quiet ((Formula.compile source names).mapError .formula) := by
  intro e failed
  obtain ⟨_, _, rfl⟩ := mapError_eq_error.1 failed
  rfl

namespace Table

variable {table : Table} {name owner target shared marginal : String} {names : List String}

theorem quiet_parameter : Quiet (table.parameter name) := by
  unfold parameter
  split
  · exact .ok _
  · exact .error rfl

theorem quiet_density : Quiet (table.density name) := by
  unfold density
  split
  · exact .ok _
  · exact .error rfl

theorem quiet_checkParameters : Quiet (table.checkParameters names) := by
  induction names with
  | nil => exact .ok ()
  | cons first rest ih =>
      rw [checkParameters]
      split
      · rename_i missing
        exact quiet_parameter.passed missing
      · exact ih

theorem quiet_checkDensities : Quiet (table.checkDensities names) := by
  induction names with
  | nil => exact .ok ()
  | cons first rest ih =>
      rw [checkDensities]
      split
      · rename_i missing
        exact quiet_density.passed missing
      · exact ih

theorem quiet_checkNewName (valid : isValidName name = true) : Quiet (table.checkNewName name) := by
  unfold checkNewName
  rw [if_neg (by simp [valid])]
  exact .ite (.error rfl) (.ok ())

theorem quiet_checkDependencies : Quiet (table.checkDependencies owner names) := by
  induction names with
  | nil => exact .ok ()
  | cons first rest ih =>
      rw [checkDependencies]
      apply FailsWith.ite (.error rfl)
      split
      · rename_i missing
        exact quiet_parameter.passed missing
      · exact ih

theorem quiet_declareParameter {p : Parameter} (valid : isValidName p.name = true) :
    Quiet (table.declareParameter p) := by
  apply (quiet_checkNewName valid).bind
  intro _
  apply quiet_checkDependencies.bind
  intro _
  exact .ok _

theorem quiet_declareDensity {d : Density} (valid : isValidName d.name = true) : Quiet (table.declareDensity d) := by
  apply (quiet_checkNewName valid).bind
  intro _
  apply FailsWith.guard rfl
  apply quiet_checkParameters.bind
  intro _
  apply quiet_checkDensities.bind
  intro _
  exact .ok _

theorem quiet_variablesWithin {depth : Nat} : Quiet (table.variablesWithin depth name) := by
  induction depth generalizing name with
  | zero =>
      unfold variablesWithin
      split
      · rename_i missing
        exact quiet_density.passed missing
      · split
        · exact .ok _
        · exact .ok _
        · exact .error rfl
  | succ depth ih =>
      unfold variablesWithin
      split
      · rename_i missing
        exact quiet_density.passed missing
      · split
        · exact .ok _
        · exact .ok _
        · dsimp only
          split
          · rename_i failed
            exact (FailsWith.mapM fun _ => ih).passed failed
          · exact .ok _

theorem quiet_generatedVariables : Quiet (table.generatedVariables name) :=
  quiet_variablesWithin

theorem quiet_parameterReadsWithin {depth : Nat} : Quiet (table.parameterReadsWithin target depth name) := by
  induction depth generalizing name with
  | zero =>
      unfold parameterReadsWithin
      apply FailsWith.ite (.ok true)
      cases found : table.parameter name with
      | error e => exact quiet_parameter.passed found
      | ok p =>
          dsimp only
          cases p.dependencies with
          | nil => exact .ok false
          | cons first rest => exact .error rfl
  | succ depth ih =>
      unfold parameterReadsWithin
      apply FailsWith.ite (.ok true)
      cases found : table.parameter name with
      | error e => exact quiet_parameter.passed found
      | ok p =>
          dsimp only
          cases p.dependencies with
          | nil => exact .ok false
          | cons first rest => exact .anyM fun _ => ih

theorem quiet_parameterReads : Quiet (table.parameterReads name target) :=
  quiet_parameterReadsWithin

theorem quiet_densityReadsWithin {depth : Nat} : Quiet (table.densityReadsWithin target depth name) := by
  induction depth generalizing name with
  | zero =>
      unfold densityReadsWithin
      cases found : table.density name with
      | error e => exact quiet_density.passed found
      | ok d =>
          dsimp only
          cases read : (inputs d).anyM fun input => table.parameterReads input target with
          | error e => exact (FailsWith.anyM fun _ => quiet_parameterReads).passed read
          | ok reads =>
              cases reads with
              | true => exact .ok true
              | false =>
                  cases d.densityRefs with
                  | nil => exact .ok false
                  | cons first rest => exact .error rfl
  | succ depth ih =>
      unfold densityReadsWithin
      cases found : table.density name with
      | error e => exact quiet_density.passed found
      | ok d =>
          dsimp only
          cases read : (inputs d).anyM fun input => table.parameterReads input target with
          | error e => exact (FailsWith.anyM fun _ => quiet_parameterReads).passed read
          | ok reads =>
              cases reads with
              | true => exact .ok true
              | false =>
                  cases d.densityRefs with
                  | nil => exact .ok false
                  | cons first rest => exact .anyM fun _ => ih

theorem quiet_densityReads : Quiet (table.densityReads name target) :=
  quiet_densityReadsWithin

end Table

namespace Scope

variable {scope : Scope} {name : String}

theorem quiet_consult {value : String → Except ModelError Float} {names : List String}
    (quiet : ∀ name, Quiet (value name)) : Quiet (Formula.consult value names).2 := by
  intro e failed
  obtain ⟨name, _, failedThere⟩ := Formula.consult_error failed
  exact quiet name e failedThere

theorem quiet_valueAt {formula : Formula} {slots : List Float} :
    Quiet ((formula.valueAt slots).mapError .formula) := by
  intro e failed
  obtain ⟨source, rfl⟩ := Formula.isNonFinite_of_valueAt failed
  rfl

theorem quiet_valueWithin {depth : Nat} : Quiet (scope.valueWithin depth name) := by
  induction depth generalizing name with
  | zero =>
      unfold valueWithin
      split
      · exact .ok _
      · split
        · rename_i missing
          exact Table.quiet_parameter.passed missing
        · split
          · exact .ok _
          · exact .error rfl
  | succ depth ih =>
      unfold valueWithin
      split
      · exact .ok _
      · split
        · rename_i missing
          exact Table.quiet_parameter.passed missing
        · split
          · exact .ok _
          · dsimp only
            split
            · rename_i failed
              exact (quiet_consult fun _ => ih).passed failed
            · exact quiet_valueAt

theorem quiet_value : Quiet (scope.value name) :=
  quiet_valueWithin

theorem quiet_explicitWeights {total : Float} {branches : List Branch} :
    Quiet (scope.explicitWeights total branches) := by
  intro e failed
  rcases explicitWeights_error failed with ⟨branch, _, failedThere⟩ | ⟨_, _, rfl⟩ | ⟨_, rfl⟩
  · exact quiet_value e failedThere
  · rfl
  · rfl

theorem quiet_mixtureWeights {branches : List Branch} : Quiet (scope.mixtureWeights branches) := by
  unfold mixtureWeights
  split
  · rename_i failed
    exact quiet_explicitWeights.passed failed
  · exact .ite (.error rfl) (.ok _)

end Scope

namespace Table

variable {table : Table} {name owner shared marginal : String} {seen names : List String} {d : Density}

theorem quiet_requireFree : Quiet (table.requireFree owner name) := by
  unfold requireFree
  split
  · rename_i missing
    exact quiet_parameter.passed missing
  · exact .ite (.ok ()) (.error rfl)

theorem quiet_requireUniform : Quiet (table.requireUniform owner seen names) := by
  induction names generalizing seen with
  | nil => exact .ok ()
  | cons first rest ih =>
      rw [requireUniform]
      exact quiet_requireFree.bind fun _ => .guard rfl ih

theorem quiet_requireNew : Quiet (requireNew owner seen names) := by
  induction names generalizing seen with
  | nil => exact .ok seen
  | cons first rest ih =>
      rw [requireNew]
      exact .ite (.error rfl) ih

theorem quiet_requireDisjoint : Quiet (table.requireDisjoint owner seen names) := by
  induction names generalizing seen with
  | nil => exact .ok ()
  | cons first rest ih =>
      rw [requireDisjoint]
      exact quiet_generatedVariables.bind fun _ => quiet_requireNew.bind fun _ => ih

theorem quiet_requireSame {remainder : String} {branches : List Branch} :
    Quiet (table.requireSame owner remainder names branches) := by
  induction branches with
  | nil => exact .ok ()
  | cons first rest ih =>
      rw [requireSame]
      exact quiet_generatedVariables.bind fun _ => .guard rfl ih

theorem quiet_requireConditioned : Quiet (table.requireConditioned shared names) := by
  induction names with
  | nil => exact .ok ()
  | cons first rest ih =>
      rw [requireConditioned]
      exact quiet_generatedVariables.bind fun _ => .guard rfl (quiet_densityReads.bind fun _ => .guard rfl ih)

theorem quiet_validateConditional : Quiet (table.validateConditional owner shared marginal names) := by
  unfold validateConditional
  apply FailsWith.guard rfl
  apply quiet_requireFree.bind
  intro _
  apply quiet_generatedVariables.bind
  intro _
  apply FailsWith.guard rfl
  apply quiet_requireConditioned.bind
  intro _
  exact quiet_requireDisjoint

theorem quiet_validate {checkValues : Bool} : Quiet (table.validate d checkValues) := by
  unfold validate
  split
  · exact quiet_requireFree
  · exact .ite (.error rfl) quiet_requireUniform
  · exact .ite (.error rfl) quiet_requireDisjoint
  · apply FailsWith.guard rfl
    apply quiet_generatedVariables.bind
    intro _
    apply quiet_requireSame.bind
    intro _
    apply FailsWith.ite
    · exact Scope.quiet_mixtureWeights.bind fun _ => .ok ()
    · exact .ok ()
  · exact quiet_validateConditional

theorem quiet_conditionalJoint : Quiet (table.conditionalJoint name names shared marginal) := by
  unfold conditionalJoint
  exact quiet_checkDensities.bind fun _ => quiet_validate.bind fun _ => .ok _

end Table

end DensityGraph
