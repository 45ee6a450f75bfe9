import DensityGraph.Proofs.Parameter
import DensityGraph.Proofs.Table.Lookup
import Mathlib.Logic.Relation

/-!
# Well-formed tables

In a well-formed table the names are distinct and valid, free parameters hold
values within their bounds, everything that a node refers to is declared as
what it is used for, and the nodes have ranks below the size of the table that
decrease along every dependency.  Ranks stand for the absence of cycles: they
bound the depth to which any recursion over the table descends.
-/

namespace DensityGraph

/-- A parameter without the value and the bounds that it may hold. -/
def Parameter.shape (p : Parameter) : Parameter :=
  match p.kind with
  | .free .. => ⟨p.name, .free 0 ⟨0, 0⟩⟩
  | .derived formula => derived p.name formula

/-- A node without the value and the bounds that it may hold. -/
def Node.shape : Node → Node
  | .parameter p => .parameter p.shape
  | .density d => .density d

namespace Parameter

variable (p : Parameter)

@[simp]
theorem name_shape : p.shape.name = p.name := by
  obtain ⟨name, _ | _⟩ := p <;> rfl

@[simp]
theorem dependencies_shape : p.shape.dependencies = p.dependencies := by
  obtain ⟨name, _ | _⟩ := p <;> rfl

@[simp]
theorem isFree_shape : p.shape.isFree = p.isFree := by
  obtain ⟨name, _ | _⟩ := p <;> rfl

theorem shape_eq_of_isFree {p q : Parameter} (pFree : p.isFree = true) (qFree : q.isFree = true)
    (sameName : p.name = q.name) : p.shape = q.shape := by
  obtain ⟨name, _ | _⟩ := p
  · obtain ⟨name', _ | _⟩ := q
    · simpa [shape] using sameName
    · simp [isFree] at qFree
  · simp [isFree] at pFree

end Parameter

namespace Node

/-- A free parameter is sound, and so is every other node. -/
def Sound : Node → Prop
  | parameter p => p.Sound
  | density _ => True

variable (node : Node)

@[simp]
theorem name_shape : node.shape.name = node.name := by
  cases node <;> simp [shape, name]

@[simp]
theorem dependencies_shape : node.shape.dependencies = node.dependencies := by
  cases node <;> simp [shape, dependencies]

end Node

namespace Table

variable {table : Table} {name : String} {node : Node}

/-- The table without the values and the bounds of its free parameters. -/
def shape (table : Table) : Table := ⟨table.nodes.map Node.shape⟩

@[simp]
theorem nodes_shape : table.shape.nodes = table.nodes.map Node.shape :=
  rfl

@[simp]
theorem size_shape : table.shape.size = table.size := by
  simp [size]

@[simp]
theorem names_shape : table.shape.names = table.names := by
  simp [names, Function.comp_def]

theorem find?_shape : table.shape.find? name = (table.find? name).map Node.shape := by
  have same : (fun node : Node => node.name == name) ∘ Node.shape = fun node => node.name == name := by
    funext node
    rw [Function.comp_apply, Node.name_shape]
  rw [find?, shape, List.find?_map, same]
  rfl

theorem density_shape : table.shape.density name = table.density name := by
  unfold density
  rw [find?_shape]
  rcases table.find? name with _ | (p | d) <;> rfl

theorem parameter_shape :
    table.shape.parameter name = (table.parameter name).map Parameter.shape := by
  unfold parameter
  rw [find?_shape]
  rcases table.find? name with _ | (p | d) <;> rfl

theorem hasParameter_shape : table.shape.HasParameter name ↔ table.HasParameter name := by
  simp only [hasParameter_iff, parameter_shape, map_eq_ok]
  constructor
  · rintro ⟨_, p, found, _⟩
    exact ⟨p, found⟩
  · rintro ⟨p, found⟩
    exact ⟨p.shape, p, found, rfl⟩

theorem hasDensity_shape : table.shape.HasDensity name ↔ table.HasDensity name := by
  simp only [hasDensity_iff, density_shape]

/-- All that a node refers to is declared as what it is used for. -/
def Resolves (table : Table) : Node → Prop
  | .parameter p => ∀ name ∈ p.dependencies, table.HasParameter name
  | .density d =>
    (∀ name ∈ d.parameterRefs, table.HasParameter name) ∧ ∀ name ∈ d.densityRefs, table.HasDensity name

/-- Ranks of names that decrease from each node to what it depends on. -/
def Ranked (table : Table) (rank : String → Nat) : Prop :=
  ∀ node ∈ table.nodes,
    rank node.name < table.size ∧ ∀ dependency ∈ node.dependencies, rank dependency < rank node.name

/-- The node of a name depends on another name. -/
def DependsOn (table : Table) (name dependency : String) : Prop :=
  ∃ node ∈ table.nodes, node.name = name ∧ dependency ∈ node.dependencies

/-- What holds of the names and references of a well-formed table. -/
structure Structured (table : Table) : Prop where
  distinct : table.names.Nodup
  named : ∀ node ∈ table.nodes, isValidName node.name = true
  resolved : ∀ node ∈ table.nodes, table.Resolves node
  ranked : ∃ rank, table.Ranked rank

/-- The invariant of tables. -/
structure WellFormed (table : Table) : Prop extends table.Structured where
  sound : ∀ node ∈ table.nodes, node.Sound

theorem Resolves.mem_names (resolves : table.Resolves node) {dependency : String}
    (needed : dependency ∈ node.dependencies) : dependency ∈ table.names := by
  cases node with
  | parameter p => exact (resolves dependency needed).mem_names
  | density d =>
      rcases List.mem_append.mp needed with parameter | density
      · exact (resolves.1 dependency parameter).mem_names
      · exact (resolves.2 dependency density).mem_names

theorem DependsOn.mem_names (resolved : ∀ node ∈ table.nodes, table.Resolves node) {dependency : String}
    (depends : table.DependsOn name dependency) : dependency ∈ table.names := by
  obtain ⟨node, member, rfl, needed⟩ := depends
  exact (resolved node member).mem_names needed

theorem resolves_shape : table.shape.Resolves node.shape ↔ table.Resolves node := by
  cases node with
  | parameter p => simp [Resolves, Node.shape, hasParameter_shape]
  | density d => simp [Resolves, Node.shape, hasParameter_shape, hasDensity_shape]

/-- The structure of a table is that of its shape. -/
theorem structured_shape : table.shape.Structured ↔ table.Structured := by
  constructor
  · rintro ⟨distinct, named, resolved, rank, ranked⟩
    refine ⟨by simpa using distinct, ?_, ?_, rank, ?_⟩
    · intro node member
      simpa using named node.shape (List.mem_map_of_mem member)
    · intro node member
      exact resolves_shape.1 (resolved node.shape (List.mem_map_of_mem member))
    · intro node member
      simpa using ranked node.shape (List.mem_map_of_mem member)
  · rintro ⟨distinct, named, resolved, rank, ranked⟩
    refine ⟨by simpa using distinct, ?_, ?_, rank, ?_⟩
    · rw [nodes_shape, List.forall_mem_map]
      intro node member
      simpa using named node member
    · rw [nodes_shape, List.forall_mem_map]
      intro node member
      exact resolves_shape.2 (resolved node member)
    · rw [Ranked, nodes_shape, List.forall_mem_map]
      intro node member
      simpa using ranked node member

theorem Structured.of_shape_eq {other : Table} (structured : table.Structured)
    (same : other.shape = table.shape) : other.Structured := by
  rw [← structured_shape, same, structured_shape]
  exact structured

theorem Ranked.dependsOn {rank : String → Nat} (ranked : table.Ranked rank) {dependency : String}
    (depends : table.DependsOn name dependency) : rank dependency < rank name := by
  obtain ⟨node, member, rfl, needed⟩ := depends
  exact (ranked node member).2 dependency needed

theorem Ranked.transGen {rank : String → Nat} (ranked : table.Ranked rank) {dependency : String}
    (depends : Relation.TransGen table.DependsOn name dependency) : rank dependency < rank name := by
  induction depends with
  | single step => exact ranked.dependsOn step
  | tail _ step ih => exact (ranked.dependsOn step).trans ih

/-- No node depends on itself through any number of steps. -/
theorem Structured.acyclic (structured : table.Structured) :
    ¬ Relation.TransGen table.DependsOn name name := by
  intro cycle
  obtain ⟨rank, ranked⟩ := structured.ranked
  exact (ranked.transGen cycle).ne rfl

theorem Ranked.lt_size {rank : String → Nat} (ranked : table.Ranked rank) (declared : name ∈ table.names) :
    rank name < table.size := by
  obtain ⟨node, member, rfl⟩ := List.mem_map.mp declared
  exact (ranked node member).1

theorem Ranked.dependency_lt {rank : String → Nat} (ranked : table.Ranked rank) {p : Parameter}
    (found : table.parameter name = .ok p) {dependency : String} (needed : dependency ∈ p.dependencies) :
    rank dependency < rank name := by
  obtain ⟨member, rfl⟩ := mem_of_find? (parameter_eq_ok.1 found)
  exact (ranked _ member).2 dependency needed

theorem Ranked.part_lt {rank : String → Nat} (ranked : table.Ranked rank) {d : Density}
    (found : table.density name = .ok d) {part : String} (needed : part ∈ d.densityRefs) :
    rank part < rank name := by
  obtain ⟨member, rfl⟩ := mem_of_find? (density_eq_ok.1 found)
  exact (ranked _ member).2 part (List.mem_append_right _ needed)

theorem Structured.hasParameter_dependency (structured : table.Structured) {p : Parameter}
    (found : table.parameter name = .ok p) {dependency : String} (needed : dependency ∈ p.dependencies) :
    table.HasParameter dependency := by
  obtain ⟨member, _⟩ := mem_of_find? (parameter_eq_ok.1 found)
  exact structured.resolved _ member dependency needed

theorem Structured.hasParameter_ref (structured : table.Structured) {d : Density}
    (found : table.density name = .ok d) {ref : String} (needed : ref ∈ d.parameterRefs) :
    table.HasParameter ref := by
  obtain ⟨member, _⟩ := mem_of_find? (density_eq_ok.1 found)
  exact (structured.resolved _ member).1 ref needed

theorem Structured.hasDensity_part (structured : table.Structured) {d : Density}
    (found : table.density name = .ok d) {part : String} (needed : part ∈ d.densityRefs) :
    table.HasDensity part := by
  obtain ⟨member, _⟩ := mem_of_find? (density_eq_ok.1 found)
  exact (structured.resolved _ member).2 part needed

/-- A property of parameters that each has if its dependencies have it. -/
theorem Structured.parameter_induction (structured : table.Structured) {motive : String → Prop}
    (step : ∀ name p, table.parameter name = .ok p → (∀ dependency ∈ p.dependencies, motive dependency) →
      motive name) (declared : table.HasParameter name) : motive name := by
  obtain ⟨rank, ranked⟩ := structured.ranked
  induction bound : rank name using Nat.strong_induction_on generalizing name with
  | _ bound ih =>
      obtain ⟨p, found⟩ := hasParameter_iff.1 declared
      apply step name p found
      intro dependency needed
      have lower := ranked.dependency_lt found needed
      exact ih _ (by omega) (structured.hasParameter_dependency found needed) rfl

/-- A property of densities that each has if its parts have it. -/
theorem Structured.density_induction (structured : table.Structured) {motive : String → Prop}
    (step : ∀ name d, table.density name = .ok d → (∀ part ∈ d.densityRefs, motive part) → motive name)
    (declared : table.HasDensity name) : motive name := by
  obtain ⟨rank, ranked⟩ := structured.ranked
  induction bound : rank name using Nat.strong_induction_on generalizing name with
  | _ bound ih =>
      obtain ⟨d, found⟩ := hasDensity_iff.1 declared
      apply step name d found
      intro part needed
      have lower := ranked.part_lt found needed
      exact ih _ (by omega) (structured.hasDensity_part found needed) rfl

end Table

end DensityGraph
