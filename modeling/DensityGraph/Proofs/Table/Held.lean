import DensityGraph.Proofs.Composition.Validation
import DensityGraph.Proofs.Scope
import DensityGraph.Proofs.Table.Value

/-!
# Values held by free parameters

The value of a parameter is computed from those that free parameters hold, through
formulas that are never changed.  So a table that declares what another one declares
gives a parameter the same value if all the free parameters that it reaches hold the
same values there.
-/

namespace DensityGraph

/-- Only a derived parameter has the shape of one, and it is the same one. -/
theorem Parameter.eq_of_shape_eq_derived {p : Parameter} {name : String} {formula : Formula}
    (same : p.shape = derived name formula) : p = derived name formula := by
  obtain ⟨own, ⟨value, bounds⟩ | other⟩ := p
  · cases congrArg Parameter.isFree same
  · exact same

namespace Table

variable {table changed larger : Table} {name other : String} {value new : Float}

/-- A free parameter holds a value, within whatever bounds. -/
def Holds (table : Table) (name : String) (value : Float) : Prop :=
  ∃ bounds, table.parameter name = .ok ⟨name, .free value bounds⟩

theorem holds_of_value? {p : Parameter} (found : table.parameter name = .ok p) (holds : p.value? = some value) :
    table.Holds name value := by
  obtain ⟨_, rfl⟩ := mem_of_find? (parameter_eq_ok.1 found)
  obtain ⟨own, ⟨held, bounds⟩ | formula⟩ := p
  · obtain rfl := Option.some.inj holds
    exact ⟨bounds, found⟩
  · cases holds

theorem Holds.unique (holds : table.Holds name value) (again : table.Holds name new) : value = new := by
  obtain ⟨bounds, found⟩ := holds
  obtain ⟨boundsToo, foundToo⟩ := again
  cases found.symm.trans foundToo
  rfl

theorem Holds.isFree (holds : table.Holds name value) : table.IsFree name := by
  obtain ⟨bounds, found⟩ := holds
  exact ⟨_, found, rfl⟩

theorem find?_replace_self {p q : Parameter} (found : table.find? q.name = some (.parameter p)) :
    (table.replace q).find? q.name = some (.parameter q) := by
  have sameNames : (fun node : Node => (if node.name = q.name then .parameter q else node : Node).name == q.name) =
      fun node => node.name == q.name := by
    funext node
    by_cases named : node.name = q.name
    · rw [if_pos named, named]
      rfl
    · rw [if_neg named]
  obtain ⟨_, named⟩ := mem_of_find? found
  rw [find?] at found ⊢
  rw [replace, List.find?_map, Function.comp_def, sameNames, found]
  exact congrArg some (if_pos named)

theorem holds_of_setValue (set : table.setValue name value = .ok changed) : changed.Holds name value := by
  obtain ⟨p, q, found, setParameter, rfl⟩ := setValue_eq_ok.1 set
  obtain ⟨_, rfl⟩ := mem_of_find? found
  obtain ⟨old, bounds, _, _, rfl⟩ := Parameter.setValue_eq_ok.1 setParameter
  exact ⟨bounds, parameter_eq_ok.2 (find?_replace_self found)⟩

theorem Holds.setValue_of_ne (holds : table.Holds name value) (distinct : table.names.Nodup)
    (set : table.setValue other new = .ok changed) (different : name ≠ other) : changed.Holds name value := by
  obtain ⟨bounds, found⟩ := holds
  exact ⟨bounds, ((sameExcept_of_setValue distinct set).parameter_eq different).trans found⟩

theorem value_of_holds (structured : table.Structured) (holds : table.Holds name value) :
    table.value name = .ok value := by
  obtain ⟨bounds, found⟩ := holds
  rw [Table.value, Scope.value_eq structured]
  simp only [List.lookup_nil, Scope.computed, found]

theorem value_of_derived (structured : table.Structured) {formula : Formula}
    (found : table.parameter name = .ok (.derived name formula)) :
    table.value name =
      match (Formula.consult table.value formula.dependencies).2 with
      | .error e => .error e
      | .ok slots => (formula.valueAt slots).mapError .formula := by
  rw [Table.value, Scope.value_eq structured]
  simp only [List.lookup_nil, Scope.computed, found, Parameter.derived]
  rfl

/-- A value depends only on what the free parameters hold that are reached from its
name. -/
theorem Extends.value_eq (extension : table.Extends larger) (structured : table.Structured)
    (structuredLarger : larger.Structured) (declared : table.HasParameter name)
    (held : ∀ free value, Relation.ReflTransGen table.DependsOn name free → table.Holds free value →
      larger.Holds free value) : larger.value name = table.value name := by
  revert held
  apply structured.parameter_induction _ declared
  intro name p found dependencies held
  obtain ⟨member, named⟩ := mem_of_find? (parameter_eq_ok.1 found)
  obtain ⟨own, kind⟩ := p
  obtain rfl : own = name := named
  cases kind with
  | free value bounds =>
      have holds : table.Holds own value := ⟨bounds, found⟩
      rw [value_of_holds structured holds, value_of_holds structuredLarger (held own value .refl holds)]
  | derived formula =>
      obtain ⟨q, foundLarger, sameShape⟩ := extension.parameter found
      obtain rfl := Parameter.eq_of_shape_eq_derived sameShape
      have agree : ∀ dependency ∈ formula.dependencies, larger.value dependency = table.value dependency := by
        intro dependency needed
        apply dependencies dependency needed
        intro free value reached
        exact held free value (reached.head ⟨_, member, rfl, needed⟩)
      rw [value_of_derived structured found, value_of_derived structuredLarger foundLarger,
        Formula.consult_congr agree]

end Table

end DensityGraph
