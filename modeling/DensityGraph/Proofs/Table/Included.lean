import DensityGraph.Proofs.Composition.Coherent
import DensityGraph.Proofs.Scope
import Mathlib.Data.List.Perm.Subperm

/-!
# Tables that hold all nodes of other tables

A table includes another one if it has all its nodes, in whatever order.  What the
smaller table declares has the same value in both, and a density over what it
declares makes sense in both or in neither.
-/

namespace DensityGraph.Table

variable {small large other : Table} {name : String} {node : Node}

/-- All nodes of one table are found in another one. -/
def Included (small large : Table) : Prop :=
  ∀ ⦃name node⦄, small.find? name = some node → large.find? name = some node

/-- A density that makes sense is accepted with its weights if these are the same as in
a table that accepts it. -/
theorem validate_of_sensible {table : Table} {d : Density} (sensible : other.Sensible d)
    (weights : ∀ ref ∈ d.parameterRefs, Scope.value ⟨table, []⟩ ref = Scope.value ⟨other, []⟩ ref)
    (validated : table.validate d true = .ok ()) : other.validate d true = .ok () := by
  rw [← validate_eq_ok] at sensible
  obtain ⟨own, kind⟩ := d
  cases kind with
  | gaussian _ _ _ | uniform _ | product _ | conditionalJoint _ _ _ => exact sensible
  | mixture branches remainder =>
      have sameWeights : Scope.mixtureWeights ⟨table, []⟩ branches = Scope.mixtureWeights ⟨other, []⟩ branches := by
        apply Scope.mixtureWeights_congr
        exact fun branch member => weights branch.weight (List.mem_map_of_mem member)
      simp only [validate, throw_bind, guard_eq_ok, bind_eq_ok, exists_unit, if_true, sameWeights] at validated
      simp only [validate, throw_bind, guard_eq_ok, bind_eq_ok, exists_unit, Bool.false_eq_true, if_false] at sensible
      simp only [validate, throw_bind, guard_eq_ok, bind_eq_ok, exists_unit, if_true]
      obtain ⟨_, _, _, _, weighed⟩ := validated
      obtain ⟨some, expected, generates, same, _⟩ := sensible
      exact ⟨some, expected, generates, same, weighed⟩

namespace Included

theorem refl (table : Table) : table.Included table :=
  fun _ _ found => found

theorem trans (first : small.Included large) (second : large.Included other) : small.Included other :=
  fun _ _ found => second (first found)

theorem names_subset (included : small.Included large) : small.names ⊆ large.names := by
  intro name declared
  obtain ⟨node, found⟩ := Option.isSome_iff_exists.mp (find?_isSome_iff.2 declared)
  exact find?_isSome_iff.1 (by rw [included found]; rfl)

theorem find?_eq (included : small.Included large) (declared : name ∈ small.names) :
    large.find? name = small.find? name := by
  obtain ⟨node, found⟩ := Option.isSome_iff_exists.mp (find?_isSome_iff.2 declared)
  rw [found, included found]

theorem push_right (included : small.Included large) : small.Included (large.push node) := by
  intro name other found
  rw [find?_push_of_mem]
  · exact included found
  · exact included.names_subset (find?_isSome_iff.1 (by rw [found]; rfl))

theorem find?_push_self (new : node.name ∉ large.names) : (large.push node).find? node.name = some node := by
  have absent := find?_eq_none_iff.2 new
  simp only [find?, nodes_push, List.find?_append] at absent ⊢
  rw [absent]
  simp

/-- A table gets a node that the larger one has already. -/
theorem push_left (included : small.Included large) (foundNode : large.find? node.name = some node) :
    (small.push node).Included large := by
  intro name other found
  by_cases old : name ∈ small.names
  · rw [find?_push_of_mem old] at found
    exact included found
  · have declared : name ∈ (small.push node).names := find?_isSome_iff.1 (by rw [found]; rfl)
    obtain rfl : name = node.name := by
      rw [names_push, List.mem_append, List.mem_singleton] at declared
      exact declared.resolve_left old
    rw [find?_push_self old] at found
    rw [foundNode, found]

theorem push (included : small.Included large) (new : node.name ∉ large.names) :
    (small.push node).Included (large.push node) :=
  included.push_right.push_left (find?_push_self new)

theorem hasParameter (included : small.Included large) (declared : small.HasParameter name) :
    large.HasParameter name := by
  obtain ⟨p, found⟩ := declared
  exact ⟨p, included found⟩

theorem hasParameter_of_mem (included : small.Included large) (inside : name ∈ small.names)
    (declared : large.HasParameter name) : small.HasParameter name := by
  obtain ⟨p, found⟩ := declared
  exact ⟨p, by rw [← included.find?_eq inside, found]⟩

theorem hasDensity_of_mem (included : small.Included large) (inside : name ∈ small.names)
    (declared : large.HasDensity name) : small.HasDensity name := by
  obtain ⟨d, found⟩ := declared
  exact ⟨d, by rw [← included.find?_eq inside, found]⟩

theorem toExtends (included : small.Included large) (distinct : small.names.Nodup) : small.Extends large := by
  constructor
  · have fewer := (List.Nodup.subperm distinct included.names_subset).length_le
    simpa [names, size] using fewer
  · intro name node found
    rw [find?_shape, Option.map_eq_some_iff] at found ⊢
    obtain ⟨full, foundFull, shapeEq⟩ := found
    exact ⟨full, included foundFull, shapeEq⟩

theorem value_eq (included : small.Included large) (structured : small.Structured)
    (structuredToo : large.Structured) (declared : small.HasParameter name) :
    Scope.value ⟨large, []⟩ name = Scope.value ⟨small, []⟩ name := by
  apply structured.parameter_induction _ declared
  intro name p found dependencies
  have foundToo : large.parameter name = .ok p := parameter_eq_ok.2 (included (parameter_eq_ok.1 found))
  have smallValue := @Scope.value_eq ⟨small, []⟩ name structured
  have largeValue := @Scope.value_eq ⟨large, []⟩ name structuredToo
  rw [smallValue, largeValue]
  simp only [List.lookup_nil, Scope.computed, found, foundToo]
  obtain ⟨own, kind⟩ := p
  cases kind with
  | free value limits => rfl
  | derived formula =>
      have same : Formula.consult (Scope.value ⟨large, []⟩) formula.dependencies =
          Formula.consult (Scope.value ⟨small, []⟩) formula.dependencies := Formula.consult_congr dependencies
      simp only [same]

variable {part : String} {vars : List String}

theorem generates_of_mem (included : small.Included large) (structured : small.Structured)
    (inside : part ∈ small.names) (generates : large.Generates part vars) : small.Generates part vars := by
  have declared : large.HasDensity part := by
    obtain ⟨d, found, _⟩ := variablesWithin_eq_ok.1 generates
    exact hasDensity_iff.2 ⟨d, found⟩
  obtain ⟨varsToo, generatesToo⟩ :=
    structured.exists_generatedVariables (included.hasDensity_of_mem inside declared)
  have same := (included.toExtends structured.distinct).generatedVariables generatesToo
  obtain rfl := Except.ok.inj (same.symm.trans generates)
  exact generatesToo

theorem densityReads_of_mem (included : small.Included large) (structured : small.Structured)
    (inside : part ∈ small.names) {found : Bool} (reads : large.densityReads part name = .ok found) :
    small.densityReads part name = .ok found := by
  obtain ⟨foundToo, readsToo⟩ := structured.exists_densityReads
    (included.hasDensity_of_mem inside (hasDensity_of_densityReads reads)) name
  have same := (included.toExtends structured.distinct).densityReads readsToo
  obtain rfl := Except.ok.inj (same.symm.trans reads)
  exact readsToo

theorem isFree_of_mem (included : small.Included large) (inside : name ∈ small.names) (free : large.IsFree name) :
    small.IsFree name := by
  obtain ⟨p, found, isFree⟩ := free
  refine ⟨p, parameter_eq_ok.2 ?_, isFree⟩
  rw [← included.find?_eq inside]
  exact parameter_eq_ok.1 found

theorem disjoint_of_mem (included : small.Included large) (structured : small.Structured) {parts : List String}
    (inside : ∀ part ∈ parts, part ∈ small.names) (disjoint : large.Disjoint parts) : small.Disjoint parts := by
  obtain ⟨lists, generate, distinct⟩ := disjoint
  refine ⟨lists, ?_, distinct⟩
  clear distinct
  induction generate with
  | nil => exact .nil
  | cons head _ ih =>
      rw [List.forall_mem_cons] at inside
      exact .cons (included.generates_of_mem structured inside.1 head) (ih inside.2)

/-- What makes sense in a larger table makes sense in one that declares all that
it is made of. -/
theorem sensible_of_mem (included : small.Included large) (structured : small.Structured) {d : Density}
    (inside : ∀ ref ∈ d.dependencies, ref ∈ small.names) (sensible : large.Sensible d) : small.Sensible d := by
  simp only [Density.dependencies, List.forall_mem_append] at inside
  obtain ⟨parameters, parts⟩ := inside
  obtain ⟨own, kind⟩ := d
  cases kind with
  | gaussian x mean sigma => exact included.isFree_of_mem (parameters x (by simp [Density.parameterRefs])) sensible
  | uniform names =>
      obtain ⟨some, free, distinct⟩ := sensible
      exact ⟨some, fun x member => included.isFree_of_mem (parameters x member) (free x member), distinct⟩
  | product factors =>
      obtain ⟨some, disjoint⟩ := sensible
      exact ⟨some, included.disjoint_of_mem structured parts disjoint⟩
  | mixture branches remainder =>
      obtain ⟨some, expected, generates, same⟩ := sensible
      refine ⟨some, expected, included.generates_of_mem structured (parts _ (by simp [Density.densityRefs])) generates, ?_⟩
      intro branch member
      obtain ⟨vars, generatesBranch, sameVars⟩ := same branch member
      have part : branch.density ∈ small.names :=
        parts _ (List.mem_append_left _ (List.mem_map_of_mem member))
      exact ⟨vars, included.generates_of_mem structured part generatesBranch, sameVars⟩
  | conditionalJoint shared marginal conditionals =>
      obtain ⟨some, free, ⟨vars, generates, drawn⟩, conditioned, disjoint⟩ := sensible
      refine ⟨some, included.isFree_of_mem (parameters _ List.mem_cons_self) free,
        ⟨vars, included.generates_of_mem structured (parts _ List.mem_cons_self) generates, drawn⟩, ?_,
        included.disjoint_of_mem structured parts disjoint⟩
      intro part member
      obtain ⟨varsPart, generatesPart, apart, reads⟩ := conditioned part member
      have declared : part ∈ small.names := parts _ (List.mem_cons_of_mem _ member)
      exact ⟨varsPart, included.generates_of_mem structured declared generatesPart, apart,
        included.densityReads_of_mem structured declared reads⟩

/-- The weights of a mixture are the same in both tables. -/
theorem validate_of_mem (included : small.Included large) (structured : small.Structured)
    (structuredToo : large.Structured) {d : Density} (inside : ∀ ref ∈ d.dependencies, ref ∈ small.names)
    (parameters : ∀ ref ∈ d.parameterRefs, large.HasParameter ref) (validated : large.validate d true = .ok ()) :
    small.validate d true = .ok () := by
  apply validate_of_sensible (included.sensible_of_mem structured inside (sensible_of_validate validated)) _ validated
  intro ref needed
  exact included.value_eq structured structuredToo
    (included.hasParameter_of_mem (inside ref (List.mem_append_left _ needed)) (parameters ref needed))

/-- What is accepted in a table is accepted in every larger one. -/
theorem validate (included : small.Included large) (structured : small.Structured) (structuredToo : large.Structured)
    {d : Density} (parameters : ∀ ref ∈ d.parameterRefs, small.HasParameter ref)
    (validated : small.validate d true = .ok ()) : large.validate d true = .ok () := by
  apply validate_of_sensible ((included.toExtends structured.distinct).sensible (sensible_of_validate validated)) _
    validated
  intro ref needed
  exact (included.value_eq structured structuredToo (parameters ref needed)).symm

end Included

end DensityGraph.Table
