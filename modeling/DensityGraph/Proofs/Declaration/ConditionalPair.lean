import DensityGraph.Proofs.Composition.Validation
import DensityGraph.Proofs.Declaration.Elaboration

/-!
# Products of a conditional and its marginal

Such a product of declared densities is not added as a product, but as the
conditional joint of its two factors, in whichever order they stand.
-/

namespace DensityGraph.Declaration

open Elaborator

variable {table changed middle : Table} {n c s m name : String} {arguments : List Argument} {inner offset place : Nat}

theorem elaborateDensity_reference_eq_ok :
    elaborateDensity isCircular (.reference c offset) table = .ok (name, changed) ↔
      table.HasDensity c ∧ name = c ∧ changed = table := by
  rw [elaborateDensity]
  simp only [run_bind_eq_ok, check_eq_ok, run_pure_eq_ok, Table.hasDensity_iff]
  constructor
  · rintro ⟨d, _, ⟨found, rfl⟩, rfl, rfl⟩
    exact ⟨⟨d, found⟩, rfl, rfl⟩
  · rintro ⟨⟨d, found⟩, rfl, rfl⟩
    exact ⟨d, changed, ⟨found, rfl⟩, rfl, rfl⟩

/-- The factors of a product of a conditional and a marginal, in one order. -/
theorem elaborateFactors_conditional_first {result : List String × Groups} :
    elaborateFactors isCircular [] [] [.conditioned (.reference c inner) s offset, .reference m place] table =
        .ok (result, changed) ↔
      (table.HasDensity c ∧ table.HasParameter s ∧ table.HasDensity m) ∧ result = ([m], [(s, [c])]) ∧
        changed = table := by
  simp only [elaborateFactors, run_bind_eq_ok, check_eq_ok, run_pure_eq_ok, elaborateDensity_reference_eq_ok,
    Table.hasParameter_iff, addToGroup, List.nil_append]
  constructor
  · rintro ⟨_, _, ⟨conditional, rfl, rfl⟩, p, _, ⟨shared, rfl⟩, _, _, ⟨marginal, rfl, rfl⟩, rfl, rfl⟩
    exact ⟨⟨conditional, ⟨p, shared⟩, marginal⟩, rfl, rfl⟩
  · rintro ⟨⟨conditional, ⟨p, shared⟩, marginal⟩, rfl, rfl⟩
    exact ⟨c, changed, ⟨conditional, rfl, rfl⟩, p, changed, ⟨shared, rfl⟩, m, changed, ⟨marginal, rfl, rfl⟩,
      rfl, rfl⟩

/-- The factors of a product of a conditional and a marginal, in the other order. -/
theorem elaborateFactors_marginal_first {result : List String × Groups} :
    elaborateFactors isCircular [] [] [.reference m place, .conditioned (.reference c inner) s offset] table =
        .ok (result, changed) ↔
      (table.HasDensity c ∧ table.HasParameter s ∧ table.HasDensity m) ∧ result = ([m], [(s, [c])]) ∧
        changed = table := by
  simp only [elaborateFactors, run_bind_eq_ok, check_eq_ok, run_pure_eq_ok, elaborateDensity_reference_eq_ok,
    Table.hasParameter_iff, addToGroup, List.nil_append]
  constructor
  · rintro ⟨_, _, ⟨marginal, rfl, rfl⟩, _, _, ⟨conditional, rfl, rfl⟩, p, _, ⟨shared, rfl⟩, rfl, rfl⟩
    exact ⟨⟨conditional, ⟨p, shared⟩, marginal⟩, rfl, rfl⟩
  · rintro ⟨⟨conditional, ⟨p, shared⟩, marginal⟩, rfl, rfl⟩
    exact ⟨m, changed, ⟨marginal, rfl, rfl⟩, c, changed, ⟨conditional, rfl, rfl⟩, p, changed, ⟨shared, rfl⟩,
      rfl, rfl⟩

theorem conditionalJoint_eq_ok {conditionals : List String} {d : Density} :
    table.conditionalJoint n conditionals s m = .ok d ↔
      (∀ part ∈ m :: conditionals, table.HasDensity part) ∧
        table.Sensible ⟨n, .conditionalJoint s m conditionals⟩ ∧ d = ⟨n, .conditionalJoint s m conditionals⟩ := by
  simp only [Table.conditionalJoint, bind_eq_ok, exists_unit, pure_eq_ok, Table.checkDensities_eq_ok,
    ← Table.validate_eq_ok]
  rfl

theorem insertJoint_eq_ok {joint : Joint} :
    insertJoint n joint table = .ok ((), changed) ↔
      ∃ d, table.conditionalJoint n joint.conditionals joint.shared joint.marginal = .ok d ∧
        table.declareDensity d = .ok changed := by
  simp only [insertJoint, run_bind_eq_ok, check_eq_ok, change_eq_ok]
  constructor
  · rintro ⟨d, _, ⟨made, rfl⟩, declared⟩
    exact ⟨d, made, declared⟩
  · rintro ⟨d, made, declared⟩
    exact ⟨d, table, ⟨made, rfl⟩, declared⟩

/-- A single conditional is paired with the only other factor, if that one draws
the parameter. -/
theorem insertProduct_pair_eq_ok :
    insertProduct n [m] [(s, [c])] table = .ok (name, changed) ↔
      (∃ vars, table.Generates m vars ∧ s ∈ vars) ∧ insertJoint n ⟨s, [c], m⟩ table = .ok ((), changed) ∧
        name = n := by
  rw [insertProduct, if_neg (by simp), run_bind_eq_ok]
  simp only [check_eq_ok, pair, takeGenerator, Table.Generates]
  constructor
  · rintro ⟨⟨joints, plain⟩, middle, ⟨paired, rfl⟩, ran⟩
    cases generated : middle.generatedVariables m with
    | error e => simp [generated] at paired
    | ok vars =>
        by_cases drawn : s ∈ vars
        · obtain ⟨rfl, rfl⟩ : joints = [⟨s, [c], m⟩] ∧ plain = [] := by simpa [generated, drawn, eq_comm] using paired
          obtain ⟨_, _, joined, ended⟩ := run_bind_eq_ok.1 ran
          obtain ⟨rfl, rfl⟩ := run_pure_eq_ok.1 ended
          exact ⟨⟨vars, rfl, drawn⟩, joined, rfl⟩
        · simp [generated, drawn] at paired
  · rintro ⟨⟨vars, generates, drawn⟩, joined, rfl⟩
    refine ⟨([⟨s, [c], m⟩], []), table, ⟨by simp [generates, drawn], rfl⟩, ?_⟩
    exact run_bind_eq_ok.2 ⟨(), changed, joined, rfl⟩

/-- The density that both ways add. -/
def joint (n c s m : String) : Density := ⟨n, .conditionalJoint s m [c]⟩

/-- What both ways ask for. -/
structure Joins (table : Table) (n c s m : String) : Prop where
  new : n ∉ table.names
  valid : isValidName n = true
  conditional : table.HasDensity c
  shared : table.HasParameter s
  marginal : table.HasDensity m
  sensible : table.Sensible (joint n c s m)

theorem joined_iff :
    (∃ d, table.conditionalJoint n [c] s m = .ok d ∧ table.declareDensity d = .ok changed) ↔
      Joins table n c s m ∧ changed = table.push (.density (joint n c s m)) := by
  constructor
  · rintro ⟨d, made, declared⟩
    obtain ⟨parts, sensible, rfl⟩ := conditionalJoint_eq_ok.1 made
    obtain ⟨valid, new, _, parameters, _, rfl⟩ := Table.declareDensity_eq_ok.1 declared
    rw [List.forall_mem_cons, List.forall_mem_singleton] at parts
    exact ⟨⟨new, valid, parts.2, parameters s List.mem_cons_self, parts.1, sensible⟩, rfl⟩
  · rintro ⟨⟨new, valid, conditional, shared, marginal, sensible⟩, rfl⟩
    have parts : ∀ part ∈ [m, c], table.HasDensity part :=
      List.forall_mem_cons.mpr ⟨marginal, List.forall_mem_singleton.mpr conditional⟩
    refine ⟨joint n c s m, conditionalJoint_eq_ok.2 ⟨parts, sensible, rfl⟩, Table.declareDensity_eq_ok.2 ?_⟩
    refine ⟨valid, new, ?_, List.forall_mem_singleton.mpr shared, parts, rfl⟩
    -- all that the joint depends on is declared, and its name is not
    intro itself
    rcases List.mem_append.mp itself with isParameter | isPart
    · have same : n = s := List.mem_singleton.mp isParameter
      exact new (same ▸ shared.mem_names)
    · exact new (parts _ isPart).mem_names

/-- A product of a conditional and a marginal adds their joint, in whichever order
they stand. -/
theorem elaborate_pair_eq_ok
    (factors : ∀ result middle, elaborateFactors isCircular [] [] arguments table = .ok (result, middle) ↔
      (table.HasDensity c ∧ table.HasParameter s ∧ table.HasDensity m) ∧ result = ([m], [(s, [c])]) ∧
        middle = table)
    (mentions : Argument.anyMentions n arguments = true ↔ n = c ∨ n = s ∨ n = m) (some : arguments ≠ []) :
    elaborate (.density .product n arguments place) table = .ok (name, changed) ↔
      Joins table n c s m ∧ name = n ∧ changed = table.push (.density (joint n c s m)) := by
  obtain ⟨first, rest, rfl⟩ := List.exists_cons_of_ne_nil some
  rw [elaborate, elaborateWith]
  simp only [run_bind_eq_ok, run_get_eq_ok, run_guard_eq_ok]
  constructor
  · rintro ⟨_, _, ⟨rfl, rfl⟩, _, _, _, ⟨rfl, rfl⟩, _, ⟨plain, groups⟩, _, added, ran⟩
    obtain ⟨_, same, rfl⟩ := (factors _ _).1 added
    obtain ⟨rfl, rfl⟩ := Prod.mk.inj same
    obtain ⟨_, joined, rfl⟩ := insertProduct_pair_eq_ok.1 ran
    obtain ⟨joins, rfl⟩ := joined_iff.1 (insertJoint_eq_ok.1 joined)
    exact ⟨joins, rfl, rfl⟩
  · rintro ⟨joins, rfl, rfl⟩
    have notItself : ¬ Argument.anyMentions name (first :: rest) = true := by
      rw [mentions]
      rintro (rfl | rfl | rfl)
      · exact joins.new joins.conditional.mem_names
      · exact joins.new joins.shared.mem_names
      · exact joins.new joins.marginal.mem_names
    have noCycle : (!table.contains name && namesItself (.density .product name (first :: rest) place)) = false := by
      rw [namesItself, Declaration.name, Declaration.arguments, Bool.not_eq_true] at *
      rw [notItself, Bool.and_false]
    have new : ¬ table.contains name = true := fun taken => joins.new (Table.contains_iff.1 taken)
    obtain ⟨_, _, generates, _⟩ := joins.sensible
    have joined : insertJoint name ⟨s, [c], m⟩ table = .ok ((), table.push (.density (joint name c s m))) :=
      insertJoint_eq_ok.2 (joined_iff.2 ⟨joins, rfl⟩)
    refine ⟨table, table, ⟨rfl, rfl⟩, Bool.eq_false_iff.mp noCycle, table, table, ⟨rfl, rfl⟩, new, ([m], [(s, [c])]), table,
      (factors _ _).2 ⟨⟨joins.conditional, joins.shared, joins.marginal⟩, rfl, rfl⟩, ?_⟩
    exact insertProduct_pair_eq_ok.2 ⟨generates, joined, rfl⟩

theorem anyMentions_conditional_first :
    Argument.anyMentions n [.conditioned (.reference c inner) s offset, .reference m place] = true ↔
      n = c ∨ n = s ∨ n = m := by
  simp only [Argument.anyMentions, Argument.mentions, Bool.or_eq_true, beq_iff_eq, Bool.false_eq_true, or_false]
  grind

theorem anyMentions_marginal_first :
    Argument.anyMentions n [.reference m place, .conditioned (.reference c inner) s offset] = true ↔
      n = c ∨ n = s ∨ n = m := by
  simp only [Argument.anyMentions, Argument.mentions, Bool.or_eq_true, beq_iff_eq, Bool.false_eq_true, or_false]
  grind

end DensityGraph.Declaration
