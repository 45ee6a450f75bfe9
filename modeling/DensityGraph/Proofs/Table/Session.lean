import DensityGraph.Proofs.Declaration.Elaboration
import DensityGraph.Proofs.Snapshot
import DensityGraph.Proofs.Table.Loading

/-!
# Sessions on a table

A session starts from the empty table and applies any operations, the failing ones
included.  Two routes keep its table well-formed:
declarations and changes check what they touch, and a load checks all nodes at
once.  Nodes that were loaded may stand in any order; those that are declared
stand behind all that they depend on.
-/

namespace DensityGraph

/-- An operation on a table, with all that it is given. -/
inductive Operation where
  | declareFree (name : String) (value lower upper : Float)
  | declareConstant (name : String) (value : Float)
  | declareDerived (name : String) (formula : Formula)
  | declareDensity (density : Density)
  | declareText (text : String)
  | setValue (name : String) (value : Float)
  | setRange (name : String) (lower upper : Float)
  | restore (snapshots : Snapshots) (name : String)
  | load (nodes : List Node)

namespace Operation

/-- A change that leaves the table as it is if it fails. -/
def attempt (table : Table) : Except ModelError Table → Except ModelError Unit × Table
  | .ok changed => (.ok (), changed)
  | .error e => (.error e, table)

/-- Applies an operation to a table, and gives the table that this leaves. -/
def apply (table : Table) : Operation → Except ModelError Unit × Table
  | declareFree name value lower upper => attempt table do
    table.declareParameter (← Parameter.free name value lower upper)
  | declareConstant name value => attempt table do
    table.declareParameter (← Parameter.constant name value)
  | declareDerived name formula => attempt table (table.declareParameter (Parameter.derived name formula))
  | declareDensity d => attempt table (table.declareDensity d)
  | declareText text => attempt table do
    let (_, changed) ← table.declare text
    return changed
  | setValue name value => attempt table (table.setValue name value)
  | setRange name lower upper => attempt table (table.setRange name lower upper)
  | restore snapshots name => snapshots.restore table name
  | load nodes => attempt table (Table.ofNodes nodes)

/-- How many nodes of the table that an operation leaves have been loaded, if
`before` of those that it found had been. -/
def loaded (before : Nat) : Operation → Nat
  | load nodes => nodes.length
  | _ => before

end Operation

/-- A table and the number of its first nodes that came from a load. -/
structure Session where
  table : Table
  loaded : Nat

namespace Session

/-- The session after an operation, whether it succeeds or fails. -/
def step (session : Session) (operation : Operation) : Session :=
  match operation.apply session.table with
  | (.ok (), table) => ⟨table, operation.loaded session.loaded⟩
  | (.error _, table) => ⟨table, session.loaded⟩

/-- The session after some operations. -/
def run (operations : List Operation) : Session := operations.foldl step ⟨Table.empty, 0⟩

end Session

namespace Table

variable {table changed : Table} {start : Nat} {node : Node}

/-- From a place on, every node stands behind all that it depends on. -/
def OrderedFrom (table : Table) (start : Nat) : Prop :=
  ∀ place node, table.nodes[place]? = some node → start ≤ place →
    ∀ dependency ∈ node.dependencies, dependency ∈ table.names.take place

theorem orderedFrom_shape : table.shape.OrderedFrom start ↔ table.OrderedFrom start := by
  simp [OrderedFrom]

theorem OrderedFrom.push (ordered : table.OrderedFrom start) (resolves : table.Resolves node) :
    (table.push node).OrderedFrom start := by
  intro place other found late dependency needed
  rw [names_push]
  rw [nodes_push] at found
  by_cases old : place < table.nodes.length
  · rw [List.getElem?_append_left old] at found
    have earlier := ordered place other found late dependency needed
    rw [List.take_append_of_le_length (by simp [names]; omega)]
    exact earlier
  · obtain ⟨inside, _⟩ := List.getElem?_eq_some_iff.mp found
    have last : place = table.nodes.length := by
      rw [List.length_append, List.length_singleton] at inside
      omega
    subst last
    obtain rfl : node = other := by simpa using found
    rw [List.take_append_of_le_length (by simp [names]), List.take_of_length_le (by simp [names])]
    exact resolves.mem_names needed

end Table

namespace Session

variable {session : Session} {operation : Operation}

/-- The invariant of sessions. -/
structure Valid (session : Session) : Prop where
  wellFormed : session.table.WellFormed
  ordered : session.table.OrderedFrom session.loaded

theorem Valid.declareParameter (valid : session.Valid) {p : Parameter} {changed : Table} (sound : p.Sound)
    (declared : session.table.declareParameter p = .ok changed) : Valid ⟨changed, session.loaded⟩ := by
  refine ⟨valid.wellFormed.declareParameter sound declared, ?_⟩
  obtain ⟨_, _, dependencies, rfl⟩ := Table.declareParameter_eq_ok.1 declared
  exact valid.ordered.push fun name needed => (dependencies name needed).2

theorem Valid.declareDensity (valid : session.Valid) {d : Density} {changed : Table}
    (declared : session.table.declareDensity d = .ok changed) : Valid ⟨changed, session.loaded⟩ := by
  refine ⟨valid.wellFormed.declareDensity declared, ?_⟩
  obtain ⟨_, _, _, parameters, densities, rfl⟩ := Table.declareDensity_eq_ok.1 declared
  exact valid.ordered.push ⟨parameters, densities⟩

theorem Valid.grows (valid : session.Valid) {changed : Table} (grows : session.table.Grows changed) :
    Valid ⟨changed, session.loaded⟩ := by
  induction grows with
  | refl => exact valid
  | parameter _ sound _ declared ih => exact ih.declareParameter sound declared
  | density _ _ declared ih => exact ih.declareDensity declared

theorem Valid.adjusted (valid : session.Valid) {changed : Table}
    (adjusted : session.table.Adjusted changed) : Valid ⟨changed, session.loaded⟩ := by
  refine ⟨adjusted.wellFormed, ?_⟩
  rw [← Table.orderedFrom_shape, adjusted.shape_eq, Table.orderedFrom_shape]
  exact valid.ordered

theorem valid_load {nodes : List Node} {table : Table} (loaded : Table.ofNodes nodes = .ok table) :
    Valid ⟨table, nodes.length⟩ := by
  obtain ⟨rfl, wellFormed⟩ := Table.ofNodes_eq_ok.1 loaded
  refine ⟨wellFormed, ?_⟩
  intro place node found late
  obtain ⟨inside, _⟩ := List.getElem?_eq_some_iff.mp found
  exact absurd inside (Nat.not_lt.mpr late)

/-- What holds of a session and of every change that an attempt makes of it holds after
the attempt. -/
theorem step_of_attempt {holds : Session → Prop} {result : Except ModelError Table}
    (attempted : operation.apply session.table = Operation.attempt session.table result) (unchanged : holds session)
    (changes : ∀ changed, result = .ok changed → holds ⟨changed, operation.loaded session.loaded⟩) :
    holds (session.step operation) := by
  unfold step
  rw [attempted]
  cases result with
  | error e => exact unchanged
  | ok changed => exact changes changed rfl

theorem step_restore (snapshots : Snapshots) (name : String) :
    session.step (.restore snapshots name) = ⟨(snapshots.restore session.table name).2, session.loaded⟩ := by
  have applied : (Operation.restore snapshots name).apply session.table = snapshots.restore session.table name := rfl
  unfold step
  rw [applied]
  obtain ⟨_ | _, table⟩ := snapshots.restore session.table name <;> rfl

/-- Every operation keeps the invariant. -/
theorem Valid.step (valid : session.Valid) (operation : Operation) : (session.step operation).Valid := by
  cases operation with
  | declareFree name value lower upper =>
      apply step_of_attempt rfl valid
      intro changed applied
      obtain ⟨p, made, declared⟩ := bind_eq_ok.1 applied
      exact valid.declareParameter (Parameter.free_sound made) declared
  | declareConstant name value =>
      apply step_of_attempt rfl valid
      intro changed applied
      obtain ⟨p, made, declared⟩ := bind_eq_ok.1 applied
      exact valid.declareParameter (Parameter.free_sound made) declared
  | declareDerived name formula =>
      exact step_of_attempt rfl valid fun _ => valid.declareParameter (Parameter.sound_derived name formula)
  | declareDensity d => exact step_of_attempt rfl valid fun _ => valid.declareDensity
  | declareText text =>
      apply step_of_attempt rfl valid
      intro changed applied
      obtain ⟨⟨name, table⟩, declared, same⟩ := bind_eq_ok.1 applied
      obtain rfl := pure_eq_ok.1 same
      exact valid.grows (Table.grows_of_declare declared)
  | setValue name value =>
      exact step_of_attempt rfl valid fun _ set => valid.adjusted (valid.wellFormed.setValue set)
  | setRange name lower upper =>
      exact step_of_attempt rfl valid fun _ set => valid.adjusted (valid.wellFormed.setRange set)
  | restore snapshots name =>
      rw [step_restore]
      exact valid.adjusted (Snapshots.adjusted_restore valid.wellFormed snapshots name)
  | load nodes => exact step_of_attempt rfl valid fun _ => valid_load

/-- Every run of operations keeps the invariant. -/
theorem Valid.foldl (valid : session.Valid) (operations : List Operation) :
    (operations.foldl Session.step session).Valid := by
  induction operations generalizing session with
  | nil => exact valid
  | cons operation rest ih => exact ih (valid.step operation)

theorem valid_run (operations : List Operation) : (run operations).Valid := by
  apply Valid.foldl
  refine ⟨Table.wellFormed_empty, ?_⟩
  intro place node found
  simp [Table.empty] at found

/-- What a table in a session promises to its readers. -/
structure Lawful (session : Session) : Prop where
  /-- a name is looked up at exactly the place of the node that has it -/
  indexed : ∀ name place, session.table.indexOf? name = some place ↔
    ∃ node, session.table.nodes[place]? = some node ∧ node.name = name
  distinct : session.table.names.Nodup
  named : ∀ name ∈ session.table.names, isValidName name = true
  bounded : ∀ name value bounds, .parameter ⟨name, .free value bounds⟩ ∈ session.table.nodes →
    bounds.lower.isFinite = true ∧ bounds.upper.isFinite = true ∧ value.isFinite = true ∧
      bounds.lower ≤ value ∧ value ≤ bounds.upper
  formulas : ∀ name formula, .parameter ⟨name, .derived formula⟩ ∈ session.table.nodes →
    ∀ dependency ∈ formula.dependencies, session.table.HasParameter dependency
  parameters : ∀ d, .density d ∈ session.table.nodes →
    ∀ name ∈ d.parameterRefs, session.table.HasParameter name
  densities : ∀ d, .density d ∈ session.table.nodes →
    ∀ name ∈ d.densityRefs, session.table.HasDensity name
  acyclic : ∀ name, ¬ Relation.TransGen session.table.DependsOn name name
  /-- what was declared stands behind all that it depends on -/
  ordered : ∀ place node, session.table.nodes[place]? = some node → session.loaded ≤ place →
    ∀ dependency ∈ node.dependencies,
      ∃ earlier < place, session.table.indexOf? dependency = some earlier

theorem Valid.bounded (valid : session.Valid) {name : String} {value : Float} {bounds : Bounds}
    (member : .parameter ⟨name, .free value bounds⟩ ∈ session.table.nodes) :
    bounds.lower.isFinite = true ∧ bounds.upper.isFinite = true ∧ value.isFinite = true ∧
      bounds.lower ≤ value ∧ value ≤ bounds.upper :=
  Parameter.sound_free_iff.1 (valid.wellFormed.sound _ member)

theorem Valid.earlier (valid : session.Valid) {place : Nat} {node : Node}
    (found : session.table.nodes[place]? = some node) (late : session.loaded ≤ place)
    {dependency : String} (needed : dependency ∈ node.dependencies) :
    ∃ earlier < place, session.table.indexOf? dependency = some earlier := by
  have before := valid.ordered place node found late dependency needed
  obtain ⟨earlier, inside, named⟩ := List.mem_iff_getElem.mp before
  rw [List.length_take, lt_min_iff] at inside
  refine ⟨earlier, inside.1, ?_⟩
  have insideNodes : earlier < session.table.nodes.length := by simpa [Table.names] using inside.2
  rw [Table.indexOf?_eq_some_iff valid.wellFormed.distinct]
  refine ⟨session.table.nodes[earlier], List.getElem?_eq_getElem insideNodes, ?_⟩
  simpa [Table.names] using named

/-- Whatever operations are applied to the empty table, failing ones and loads
included, the table that they leave is lawful. -/
theorem run_lawful (operations : List Operation) : (run operations).Lawful := by
  have valid := valid_run operations
  have wellFormed := valid.wellFormed
  constructor
  case indexed => exact fun name place => Table.indexOf?_eq_some_iff wellFormed.distinct
  case distinct => exact wellFormed.distinct
  case named => exact List.forall_mem_map.mpr wellFormed.named
  case bounded => exact fun name value bounds member => valid.bounded member
  case formulas => exact fun name formula member => wellFormed.resolved _ member
  case parameters => exact fun d member => (wellFormed.resolved _ member).1
  case densities => exact fun d member => (wellFormed.resolved _ member).2
  case acyclic => exact fun name => wellFormed.acyclic
  case ordered => exact fun place node found late dependency needed => valid.earlier found late needed

end Session

namespace Table

/-- Some session leads to the table. -/
def Reached (table : Table) : Prop := ∃ operations, (Session.run operations).table = table

/-- Sessions reach the well-formed tables and no others: any of them can be loaded. -/
theorem reached_iff {table : Table} : table.Reached ↔ table.WellFormed := by
  constructor
  · rintro ⟨operations, rfl⟩
    exact (Session.valid_run operations).wellFormed
  · intro wellFormed
    have loads : ofNodes table.nodes = .ok table := ofNodes_eq_ok.2 ⟨rfl, wellFormed⟩
    exact ⟨[.load table.nodes], by simp [Session.run, Session.step, Operation.apply, Operation.attempt, loads]⟩

end Table

end DensityGraph
