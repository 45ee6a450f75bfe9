import DensityGraph.Scope
import DensityGraph.Proofs.Composition.Reads

/-!
# Values of parameters

On a structured table the depth bound of the evaluation never matters: the value
of a parameter is that of its formula over the values of its dependencies, and
the only error is a formula whose value is not finite.  A value depends on what
stands for the parameters that it reads, and on nothing else.
-/

namespace DensityGraph

/-- The error of a formula whose value is not a finite number. -/
def ModelError.IsNonFinite (e : ModelError) : Prop := ∃ source, e = .formula (.nonFinite source)

/-- The error of a mixture whose weights are out of range. -/
def ModelError.IsWeightFault (e : ModelError) : Prop :=
  (∃ weight value, e = .composition (.weightOutside weight value)) ∨
    ∃ total, e = .composition (.weightsExceed total)

namespace Formula

variable {ε : Type} {f g : String → Except ε Float} {names : List String}

theorem consult_congr (agree : ∀ name ∈ names, f name = g name) : consult f names = consult g names := by
  induction names with
  | nil => rfl
  | cons first rest ih =>
      rw [List.forall_mem_cons] at agree
      simp only [consult, agree.1, ih agree.2]

theorem consult_error {e : ε} (failed : (consult f names).2 = .error e) :
    ∃ name ∈ names, f name = .error e := by
  induction names with
  | nil => cases failed
  | cons first rest ih =>
      unfold consult at failed
      cases asked : f first with
      | error e' =>
          simp only [asked, Except.error.injEq] at failed
          exact ⟨first, List.mem_cons_self, by rw [asked, failed]⟩
      | ok value =>
          simp only [asked] at failed
          cases others : (consult f rest).2 with
          | ok values => simp [others, Except.map] at failed
          | error e' =>
              obtain rfl : e' = e := by simpa [others, Except.map] using failed
              obtain ⟨name, member, failedName⟩ := ih others
              exact ⟨name, List.mem_cons_of_mem _ member, failedName⟩

theorem isNonFinite_of_valueAt {formula : Formula} {slots : List Float} {e : ModelError}
    (failed : (formula.valueAt slots).mapError .formula = .error e) : e.IsNonFinite := by
  unfold valueAt at failed
  split at failed
  · split at failed
    · cases failed
    · exact ⟨formula.source, (Except.error.inj failed).symm⟩
  · exact ⟨formula.source, (Except.error.inj failed).symm⟩

end Formula

namespace Scope

variable {table : Table} {scope : Scope} {rank : String → Nat} {name : String} {depth deeper : Nat}

theorem valueWithin_congr (ranked : scope.table.Ranked rank) (enough : rank name < depth)
    (enoughToo : rank name < deeper) : scope.valueWithin depth name = scope.valueWithin deeper name := by
  induction depth generalizing name deeper with
  | zero => omega
  | succ depth ih =>
      obtain ⟨deeper, rfl⟩ : ∃ more, deeper = more + 1 := ⟨deeper - 1, by omega⟩
      rw [valueWithin, valueWithin]
      cases scope.overrides.lookup name with
      | some value => rfl
      | none =>
          cases found : scope.table.parameter name with
          | error e => rfl
          | ok p =>
              obtain ⟨own, kind⟩ := p
              cases kind with
              | free value bounds => rfl
              | derived formula =>
                  have agree : ∀ dependency ∈ formula.dependencies,
                      scope.valueWithin depth dependency = scope.valueWithin deeper dependency := by
                    intro dependency needed
                    have lower := ranked.dependency_lt found needed
                    exact ih (by omega) (by omega)
                  simp only [Formula.consult_congr agree]

/-- The value of a parameter that is not overridden, from those of its
dependencies. -/
def computed (scope : Scope) (name : String) : Except ModelError Float :=
  match scope.table.parameter name with
  | .error e => .error e
  | .ok p =>
    match p.kind with
    | .free value _ => .ok value
    | .derived formula =>
      match (Formula.consult scope.value formula.dependencies).2 with
      | .error e => .error e
      | .ok slots => (formula.valueAt slots).mapError .formula

theorem value_eq (structured : scope.table.Structured) :
    scope.value name =
      match scope.overrides.lookup name with
      | some value => .ok value
      | none => scope.computed name := by
  obtain ⟨rank, ranked⟩ := structured.ranked
  unfold value computed
  rw [valueWithin.eq_def]
  dsimp only
  cases scope.overrides.lookup name with
  | some value => rfl
  | none =>
      cases found : scope.table.parameter name with
      | error e => rfl
      | ok p =>
          obtain ⟨own, kind⟩ := p
          cases kind with
          | free value bounds => rfl
          | derived formula =>
              have bounded := ranked.lt_size (Table.hasParameter_iff.2 ⟨_, found⟩).mem_names
              obtain ⟨less, sizeEq⟩ : ∃ less, scope.table.size = less + 1 :=
                ⟨scope.table.size - 1, by omega⟩
              have agree : ∀ dependency ∈ formula.dependencies,
                  scope.valueWithin less dependency = scope.value dependency := by
                intro dependency needed
                have lower := ranked.dependency_lt found needed
                exact valueWithin_congr ranked (by omega) (by omega)
              cases consulted : (Formula.consult scope.value formula.dependencies).2 with
              | error e => simp only [sizeEq, Formula.consult_congr agree, consulted]
              | ok slots => simp only [sizeEq, Formula.consult_congr agree, consulted]

/-- The value of a parameter can only fail to be finite. -/
theorem isNonFinite_of_value (structured : table.Structured) {overrides : Overrides} {e : ModelError}
    (declared : table.HasParameter name) (failed : value ⟨table, overrides⟩ name = .error e) :
    e.IsNonFinite := by
  revert e
  apply structured.parameter_induction _ declared
  intro name p found dependencies e failed
  rw [value_eq structured] at failed
  split at failed
  case h_1 => cases failed
  case h_2 =>
    simp only [computed, found] at failed
    split at failed
    case h_1 => cases failed
    case h_2 formula kindEq =>
      split at failed
      case h_1 e' consulted =>
        obtain ⟨dependency, needed, failedThere⟩ := Formula.consult_error consulted
        obtain rfl := Except.error.inj failed
        exact dependencies dependency (by simpa [Parameter.dependencies, kindEq] using needed) failedThere
      case h_2 slots consulted => exact Formula.isNonFinite_of_valueAt failed

/-- What stands for a name by itself: its override, or else the value that it
holds as a free parameter. -/
def held? (scope : Scope) (name : String) : Option Float :=
  (scope.overrides.lookup name).or ((scope.table.parameter name).toOption.bind Parameter.value?)

theorem held?_append {new earlier : Overrides} :
    held? ⟨table, new ++ earlier⟩ name = (new.lookup name).or (held? ⟨table, earlier⟩ name) := by
  rw [held?, held?, List.lookup_append, Option.or_assoc]

theorem value_of_held? (structured : scope.table.Structured) {value : Float}
    (holds : scope.held? name = some value) : scope.value name = .ok value := by
  rw [value_eq structured]
  unfold held? at holds
  cases overridden : scope.overrides.lookup name with
  | some other =>
      rw [overridden, Option.some_or, Option.some.injEq] at holds
      rw [holds]
  | none =>
      rw [overridden, Option.none_or] at holds
      cases found : scope.table.parameter name with
      | error e => simp [found, Except.toOption] at holds
      | ok p =>
          obtain ⟨own, kind⟩ := p
          cases kind with
          | free stored bounds =>
              obtain rfl : stored = value := by simpa [found, Except.toOption, Parameter.value?] using holds
              simp only [computed, found]
          | derived formula => simp [found, Except.toOption, Parameter.value?] at holds

/-- A parameter that nothing stands for by itself is derived. -/
theorem value_of_not_held (structured : scope.table.Structured) {p : Parameter}
    (found : scope.table.parameter name = .ok p) (missing : scope.held? name = none) :
    ∃ formula, p.kind = .derived formula ∧
      scope.value name =
        match (Formula.consult scope.value formula.dependencies).2 with
        | .error e => .error e
        | .ok slots => (formula.valueAt slots).mapError .formula := by
  simp only [held?, found, Option.or_eq_none_iff] at missing
  obtain ⟨own, kind⟩ := p
  cases kind with
  | free value bounds => cases missing.2
  | derived formula =>
      refine ⟨formula, rfl, ?_⟩
      rw [value_eq structured, missing.1]
      simp only [computed, found]

/-- A parameter has the same value in two scopes over tables of one shape that
hold the same for all that it reads. -/
theorem value_congr {first second : Scope} (structured : first.table.Structured)
    (sameShape : second.table.shape = first.table.shape) (declared : first.table.HasParameter name)
    (agree : ∀ target, first.table.parameterReads name target = .ok true →
      first.held? target = second.held? target) : first.value name = second.value name := by
  have structuredToo := structured.of_shape_eq sameShape
  revert agree
  apply structured.parameter_induction _ declared
  intro name p found dependencies agree
  have itself := agree name Table.parameterReads_self
  cases holds : first.held? name with
  | some value =>
      rw [holds] at itself
      rw [value_of_held? structured holds, value_of_held? structuredToo itself.symm]
  | none =>
      rw [holds] at itself
      obtain ⟨q, foundToo, shapeEq⟩ : ∃ q, second.table.parameter name = .ok q ∧ q.shape = p.shape := by
        have foundShape := congrArg (·.parameter name) sameShape
        simp only [Table.parameter_shape, found] at foundShape
        exact map_eq_ok.1 foundShape
      obtain ⟨formula, kindEq, valueEq⟩ := value_of_not_held structured found holds
      obtain ⟨formulaToo, kindEqToo, valueEqToo⟩ := value_of_not_held structuredToo foundToo itself.symm
      obtain rfl : formula = formulaToo := by
        simpa [Parameter.shape, kindEq, kindEqToo, Parameter.derived] using congrArg Parameter.kind shapeEq.symm
      have same : ∀ dependency ∈ formula.dependencies, first.value dependency = second.value dependency := by
        intro dependency needed
        have neededHere : dependency ∈ p.dependencies := by simpa [Parameter.dependencies, kindEq] using needed
        apply dependencies dependency neededHere
        intro target reads
        exact agree target (structured.parameterReads_of_dependency found neededHere reads)
      rw [valueEq, valueEqToo, Formula.consult_congr same]

theorem explicitWeights_error {total : Float} {branches : List Branch} {e : ModelError}
    (failed : scope.explicitWeights total branches = .error e) :
    (∃ branch ∈ branches, scope.value branch.weight = .error e) ∨ e.IsWeightFault := by
  induction branches generalizing total with
  | nil => cases failed
  | cons first rest ih =>
      unfold explicitWeights at failed
      cases weighed : scope.value first.weight with
      | error e' =>
          simp only [weighed, Except.error.injEq] at failed
          exact .inl ⟨first, List.mem_cons_self, by rw [weighed, failed]⟩
      | ok w =>
          simp only [weighed] at failed
          split at failed
          · split at failed
            case h_1 e' others =>
              obtain rfl := Except.error.inj failed
              rcases ih others with ⟨branch, member, failedThere⟩ | fault
              · exact .inl ⟨branch, List.mem_cons_of_mem _ member, failedThere⟩
              · exact .inr fault
            case h_2 => cases failed
          · exact .inr (.inl ⟨first.weight, w, (Except.error.inj failed).symm⟩)

/-- The weights of a mixture can only fail to be finite or to be in range. -/
theorem mixtureWeights_error (structured : table.Structured) {overrides : Overrides}
    {branches : List Branch} {e : ModelError}
    (declared : ∀ branch ∈ branches, table.HasParameter branch.weight)
    (failed : mixtureWeights ⟨table, overrides⟩ branches = .error e) : e.IsNonFinite ∨ e.IsWeightFault := by
  unfold mixtureWeights at failed
  split at failed
  case h_1 e' weighed =>
    obtain rfl := Except.error.inj failed
    rcases explicitWeights_error weighed with ⟨branch, member, failedThere⟩ | fault
    · exact .inl (isNonFinite_of_value structured (declared branch member) failedThere)
    · exact .inr fault
  case h_2 weights total weighed =>
    split at failed
    · exact .inr (.inr ⟨total, (Except.error.inj failed).symm⟩)
    · cases failed

theorem explicitWeights_congr {other : Scope} {total : Float} {branches : List Branch}
    (agree : ∀ branch ∈ branches, scope.value branch.weight = other.value branch.weight) :
    scope.explicitWeights total branches = other.explicitWeights total branches := by
  induction branches generalizing total with
  | nil => rfl
  | cons first rest ih =>
      rw [List.forall_mem_cons] at agree
      simp only [explicitWeights, agree.1, ih agree.2]

theorem mixtureWeights_congr {other : Scope} {branches : List Branch}
    (agree : ∀ branch ∈ branches, scope.value branch.weight = other.value branch.weight) :
    scope.mixtureWeights branches = other.mixtureWeights branches := by
  simp only [mixtureWeights, explicitWeights_congr agree]

end Scope

end DensityGraph
