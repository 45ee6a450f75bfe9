import DensityGraph.Proofs.Scope
import DensityGraph.Proofs.Table.Session

/-!
# Values in one pass

The value of a parameter is pulled through its formula, and those of its
dependencies through theirs, with nothing kept in between.  The same results
come from one walk over the names in the order of their dependencies that keeps
each result, however deep the formulas are nested and however often they share
a dependency.
-/

namespace DensityGraph

variable {table : Table} {scope : Scope} {name : String} {order : List String}

/-- The results of the names that have been passed, the last one first. -/
abbrev Environment := List (String × Except ModelError Float)

/-- The result under a name. -/
def Environment.result (env : Environment) (name : String) : Except ModelError Float :=
  (env.lookup name).getD (.error (.unknownReference name .parameter))

/-- The result of a parameter from those of its dependencies, the first of which
to fail counts. -/
def Parameter.resultIn (p : Parameter) (env : Environment) : Except ModelError Float :=
  match p.kind with
  | .free value _ => .ok value
  | .derived formula => do
    let slots ← formula.dependencies.mapM env.result
    (formula.valueAt slots).mapError .formula

namespace Scope

/-- Adds the result of one name.  Densities have none. -/
def pass (scope : Scope) (env : Environment) (name : String) : Environment :=
  match scope.overrides.lookup name with
  | some value => (name, .ok value) :: env
  | none =>
    match scope.table.find? name with
    | some (.parameter p) => (name, p.resultIn env) :: env
    | _ => env

/-- The results of some names, each computed once from those before it. -/
def forwardPass (scope : Scope) (order : List String) : Environment := order.foldl scope.pass []

theorem lookup_pass_of_ne {env : Environment} {other : String} (different : other ≠ name) :
    (scope.pass env name).lookup other = env.lookup other := by
  have missed : (other == name) = false := by simpa using different
  unfold pass
  split
  · rw [List.lookup_cons, missed]
  · split
    · rw [List.lookup_cons, missed]
    · rfl

end Scope

theorem Formula.consult_eq_mapM {ε : Type} (lookup : String → Except ε Float) (names : List String) :
    (consult lookup names).2 = names.mapM lookup := by
  induction names with
  | nil => rfl
  | cons first rest ih =>
      rw [List.mapM_cons, ← ih, consult]
      cases lookup first with
      | error e => rfl
      | ok value => rcases consult lookup rest with ⟨asked, _ | values⟩ <;> rfl

namespace Scope

/-- If the results of the dependencies are there, then the pass adds the value of
the parameter. -/
theorem lookup_pass (structured : scope.table.Structured) {env : Environment} {p : Parameter}
    (found : scope.table.parameter name = .ok p)
    (ready : ∀ dependency ∈ p.dependencies, env.result dependency = scope.value dependency) :
    (scope.pass env name).lookup name = some (scope.value name) := by
  rw [value_eq structured, pass]
  cases overridden : scope.overrides.lookup name with
  | some value => exact List.lookup_cons_self
  | none =>
      simp only [Table.parameter_eq_ok.1 found, computed, found, List.lookup_cons_self]
      obtain ⟨own, kind⟩ := p
      cases kind with
      | free value bounds => rfl
      | derived formula =>
          have same : Formula.consult env.result formula.dependencies =
              Formula.consult scope.value formula.dependencies := Formula.consult_congr ready
          simp only [Parameter.resultIn, ← Formula.consult_eq_mapM, same]
          cases (Formula.consult scope.value formula.dependencies).2 <;> rfl

/-- The walk over a schedule leaves the value of each parameter. -/
theorem lookup_forwardPass (structured : scope.table.Structured) (scheduled : scope.table.Scheduled order)
    (member : name ∈ order) (declared : scope.table.HasParameter name) :
    (scope.forwardPass order).lookup name = some (scope.value name) := by
  -- by induction on the schedule, whose last name comes after all that it depends on
  induction scheduled generalizing name with
  | nil => cases member
  | @snoc order last node before found new ready ih =>
      have walked : scope.forwardPass (order ++ [last]) = scope.pass (scope.forwardPass order) last := by
        rw [forwardPass, List.foldl_append]
        rfl
      rw [walked]
      rcases List.mem_append.mp member with earlier | final
      · have different : name ≠ last := fun same => new (same ▸ earlier)
        rw [lookup_pass_of_ne different]
        exact ih earlier declared
      · obtain rfl := List.mem_singleton.mp final
        obtain ⟨p, foundParameter⟩ := Table.hasParameter_iff.1 declared
        have same : node = .parameter p := by
          have foundAgain := Table.parameter_eq_ok.1 foundParameter
          exact Option.some.inj (found.symm.trans foundAgain)
        subst same
        apply lookup_pass structured foundParameter
        intro dependency needed
        have passed := ih (ready dependency needed) (structured.hasParameter_dependency foundParameter needed)
        rw [Environment.result, passed, Option.getD_some]

end Scope

/-- In every table that can be reached, and whatever values stand in front of it,
the recursion ends by itself, so that a greater bound on its depth changes
nothing, and it gives each parameter the result, value or error, that one pass
over the order of dependencies gives. -/
theorem Table.Reached.value_eq_forwardPass (reached : table.Reached) :
    ∃ order, table.topologicalOrder = .ok order ∧
      ∀ name, table.HasParameter name →
        (∀ overrides depth, table.size ≤ depth →
          Scope.valueWithin ⟨table, overrides⟩ depth name = Scope.value ⟨table, overrides⟩ name) ∧
        (∀ overrides, (Scope.forwardPass ⟨table, overrides⟩ order).lookup name =
          some (Scope.value ⟨table, overrides⟩ name)) ∧
        (Scope.forwardPass ⟨table, []⟩ order).lookup name = some (table.value name) := by
  have structured := (Table.reached_iff.1 reached).toStructured
  obtain ⟨rank, ranked⟩ := structured.ranked
  obtain ⟨order, ordered⟩ := exists_topologicalOrder structured.distinct structured.resolved ranked
  obtain ⟨scheduled, covers⟩ := scheduled_of_topologicalOrder structured.distinct ordered
  refine ⟨order, ordered, ?_⟩
  intro name declared
  have passed : ∀ overrides, (Scope.forwardPass ⟨table, overrides⟩ order).lookup name =
      some (Scope.value ⟨table, overrides⟩ name) :=
    fun overrides => Scope.lookup_forwardPass structured scheduled (covers declared.mem_names) declared
  refine ⟨?_, passed, passed []⟩
  intro overrides depth enough
  have bounded := ranked.lt_size declared.mem_names
  exact Scope.valueWithin_congr ranked (bounded.trans_le enough) bounded

/-- A loaded table in which everything stands before what it is computed from, and
`x` is reached on two ways. -/
def sumOfSquare : Table :=
  ⟨[.parameter (.derived "z" ⟨"y + x", ["y", "x"], .binary .add (.slot 0) (.slot 1)⟩),
    .parameter (.derived "y" ⟨"x * x", ["x"], .binary .mul (.slot 0) (.slot 0)⟩),
    .parameter ⟨"x", .free 0.5 ⟨0, 1⟩⟩]⟩

theorem value_eq_forwardPass_sumOfSquare :
    sumOfSquare.Reached ∧ sumOfSquare.HasParameter "z" ∧
      Scope.value ⟨sumOfSquare, [("x", 1.5)]⟩ "z" = .ok 3.75 ∧
      ∃ order, sumOfSquare.topologicalOrder = .ok order ∧
        (Scope.forwardPass ⟨sumOfSquare, [("x", 1.5)]⟩ order).lookup "z" =
          some (Scope.value ⟨sumOfSquare, [("x", 1.5)]⟩ "z") := by
  have accepted : (Table.ofNodes sumOfSquare.nodes).toBool = true := by decide +kernel
  obtain ⟨table, loaded⟩ := exists_ok_of_toBool accepted
  obtain ⟨rfl, wellFormed⟩ := Table.ofNodes_eq_ok.1 loaded
  have reached : sumOfSquare.Reached := Table.reached_iff.2 wellFormed
  have declared : sumOfSquare.HasParameter "z" := ⟨_, rfl⟩
  obtain ⟨order, ordered, agree⟩ := Table.Reached.value_eq_forwardPass reached
  exact ⟨reached, declared, by decide +kernel, order, ordered, (agree "z" declared).2.1 [("x", 1.5)]⟩

end DensityGraph
