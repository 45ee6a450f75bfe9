import DensityGraph.Proofs.Composition.Validation
import DensityGraph.Proofs.Declaration.Elaboration

/-!
# Coherent tables

A table is coherent if it is well-formed, its formulas are compiled from their
own texts and its densities make sense.  Declarations and changes of values and
bounds keep a table coherent: no later change can take back what the check of a
density has found.
-/

namespace DensityGraph

namespace Table

variable {table changed : Table} {name : String}

/-- The invariant of models. -/
structure Coherent (table : Table) : Prop extends table.WellFormed where
  compiled : ∀ p, .parameter p ∈ table.nodes → p.Compiled
  sensible : ∀ d, .density d ∈ table.nodes → table.Sensible d

theorem coherent_empty : empty.Coherent := by
  refine ⟨wellFormed_empty, ?_, ?_⟩
  all_goals
    intro _ member
    cases member

theorem extends_push (node : Node) : table.Extends (table.push node) := by
  refine ⟨by simp, ?_⟩
  intro name found foundEq
  have declared : name ∈ table.shape.names := find?_isSome_iff.1 (by simp [foundEq])
  have shapePush : (table.push node).shape = table.shape.push node.shape := by
    simp [shape, push]
  rw [shapePush, find?_push_of_mem declared, foundEq]

theorem extends_of_shape_eq (same : changed.shape = table.shape) : table.Extends changed := by
  refine ⟨?_, ?_⟩
  · rw [← size_shape, ← same, size_shape]
  · intro name node found
    rw [same]
    exact found

theorem Adjusted.extends_changed (adjusted : table.Adjusted changed) : table.Extends changed :=
  extends_of_shape_eq adjusted.shape_eq

theorem extends_declareParameter {p : Parameter} (declared : table.declareParameter p = .ok changed) :
    table.Extends changed := by
  obtain ⟨_, _, _, rfl⟩ := declareParameter_eq_ok.1 declared
  exact extends_push _

theorem extends_declareDensity {d : Density} (declared : table.declareDensity d = .ok changed) :
    table.Extends changed := by
  obtain ⟨_, _, _, _, _, rfl⟩ := declareDensity_eq_ok.1 declared
  exact extends_push _

theorem Grows.extends_changed (grows : table.Grows changed) : table.Extends changed := by
  induction grows with
  | refl => exact Extends.refl table
  | parameter _ _ _ declared ih => exact ih.trans (extends_declareParameter declared)
  | density _ _ declared ih => exact ih.trans (extends_declareDensity declared)

theorem Coherent.declareParameter (coherent : table.Coherent) {p : Parameter} (sound : p.Sound)
    (compiled : p.Compiled) (declared : table.declareParameter p = .ok changed) : changed.Coherent := by
  refine ⟨coherent.toWellFormed.declareParameter sound declared, ?_, ?_⟩
  all_goals
    have extension := extends_declareParameter declared
    obtain ⟨_, _, _, rfl⟩ := declareParameter_eq_ok.1 declared
    intro other member
    rcases List.mem_append.mp member with old | last
  · exact coherent.compiled other old
  · obtain rfl := Node.parameter.inj (List.mem_singleton.mp last)
    exact compiled
  · exact extension.sensible (coherent.sensible other old)
  · cases List.mem_singleton.mp last

theorem Coherent.declareDensity (coherent : table.Coherent) {d : Density} (sensible : table.Sensible d)
    (declared : table.declareDensity d = .ok changed) : changed.Coherent := by
  refine ⟨coherent.toWellFormed.declareDensity declared, ?_, ?_⟩
  all_goals
    have extension := extends_declareDensity declared
    obtain ⟨_, _, _, _, _, rfl⟩ := declareDensity_eq_ok.1 declared
    intro other member
    rcases List.mem_append.mp member with old | last
  · exact coherent.compiled other old
  · cases List.mem_singleton.mp last
  · exact extension.sensible (coherent.sensible other old)
  · obtain rfl := Node.density.inj (List.mem_singleton.mp last)
    exact extension.sensible sensible

theorem Coherent.grows (coherent : table.Coherent) (grows : table.Grows changed) : changed.Coherent := by
  induction grows with
  | refl => exact coherent
  | parameter _ sound compiled declared ih => exact ih.declareParameter sound compiled declared
  | density _ validated declared ih => exact ih.declareDensity (sensible_of_validate validated) declared

theorem Coherent.adjusted (coherent : table.Coherent) (adjusted : table.Adjusted changed) :
    changed.Coherent := by
  refine ⟨adjusted.wellFormed, ?_, ?_⟩
  · intro p member
    have memberShape : Node.parameter p.shape ∈ changed.shape.nodes := List.mem_map_of_mem member
    rw [adjusted.shape_eq] at memberShape
    obtain ⟨node, memberOld, sameShape⟩ := List.mem_map.mp memberShape
    cases node with
    | density d => cases sameShape
    | parameter q =>
        rw [← Parameter.compiled_shape, ← Node.parameter.inj sameShape, Parameter.compiled_shape]
        exact coherent.compiled q memberOld
  · intro d member
    have memberShape : Node.density d ∈ changed.shape.nodes := List.mem_map_of_mem member
    rw [adjusted.shape_eq] at memberShape
    obtain ⟨node, memberOld, sameShape⟩ := List.mem_map.mp memberShape
    cases node with
    | parameter q => cases sameShape
    | density other =>
        obtain rfl := Node.density.inj sameShape
        exact adjusted.extends_changed.sensible (coherent.sensible other memberOld)

theorem Coherent.sensible_of_density (coherent : table.Coherent) {d : Density}
    (found : table.density name = .ok d) : table.Sensible d :=
  coherent.sensible d (mem_of_find? (density_eq_ok.1 found)).1

end Table

end DensityGraph
