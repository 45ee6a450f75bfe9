import DensityGraph.Proofs.Table.Loading
import Mathlib.Data.Finset.Card

/-!
# Lists of nodes that make a table

A list of nodes makes a table exactly if it is a well-formed graph: names are
valid and distinct, free parameters hold values within their bounds, every
reference leads to a node of the right kind, and no node depends on itself
through any number of steps.  The order of the list plays no role, for none of
these conditions mentions it.
-/

namespace DensityGraph

variable {nodes other : List Node} {table : Table} {name : String}

namespace Table

/-- The declared names that a name depends on through any number of steps. -/
noncomputable def below (table : Table) (name : String) : Finset String := by
  classical
  exact table.names.toFinset.filter (Relation.TransGen table.DependsOn name)

theorem mem_below {dependency : String} :
    dependency ∈ table.below name ↔
      dependency ∈ table.names ∧ Relation.TransGen table.DependsOn name dependency := by
  simp [below]

/-- Without cycles a name reaches fewer names than any name that depends on it. -/
theorem card_below_lt (resolved : ∀ node ∈ table.nodes, table.Resolves node)
    (acyclic : ∀ name, ¬ Relation.TransGen table.DependsOn name name) {dependency : String}
    (depends : table.DependsOn name dependency) : (table.below dependency).card < (table.below name).card := by
  apply Finset.card_lt_card
  refine Finset.ssubset_iff_subset_ne.mpr ⟨?_, ?_⟩
  · intro further reached
    obtain ⟨declared, path⟩ := mem_below.1 reached
    exact mem_below.2 ⟨declared, path.head depends⟩
  · intro same
    -- the dependency itself is reached from the name, but not from itself
    have reached : dependency ∈ table.below name := mem_below.2 ⟨depends.mem_names resolved, .single depends⟩
    rw [← same] at reached
    exact acyclic dependency (mem_below.1 reached).2

/-- The number of names that a name reaches is a rank in a graph without cycles. -/
theorem ranked_of_acyclic (resolved : ∀ node ∈ table.nodes, table.Resolves node)
    (acyclic : ∀ name, ¬ Relation.TransGen table.DependsOn name name) :
    table.Ranked fun name => (table.below name).card := by
  intro node member
  have declared : node.name ∈ table.names := List.mem_map_of_mem member
  constructor
  · have fewer : table.below node.name ⊂ table.names.toFinset := by
      refine Finset.ssubset_iff_subset_ne.mpr ⟨?_, ?_⟩
      · exact fun reached inside => List.mem_toFinset.mpr (mem_below.1 inside).1
      · intro same
        have itself : node.name ∈ table.below node.name := by rwa [same, List.mem_toFinset]
        exact acyclic node.name (mem_below.1 itself).2
    calc (table.below node.name).card
        < table.names.toFinset.card := Finset.card_lt_card fewer
      _ ≤ table.names.length := List.toFinset_card_le table.names
      _ = table.size := length_names
  · exact fun dependency needed => card_below_lt resolved acyclic ⟨node, member, rfl, needed⟩

end Table

/-- What a list of nodes has to fulfil, in terms of its members alone. -/
structure WellFormedGraph (nodes : List Node) : Prop where
  named : ∀ node ∈ nodes, isValidName node.name = true
  distinct : (nodes.map Node.name).Nodup
  bounded : ∀ name value bounds, .parameter ⟨name, .free value bounds⟩ ∈ nodes →
    bounds.lower.isFinite = true ∧ bounds.upper.isFinite = true ∧ value.isFinite = true ∧
      bounds.lower ≤ value ∧ value ≤ bounds.upper
  formulas : ∀ p, .parameter p ∈ nodes → ∀ name ∈ p.dependencies, ∃ q, .parameter q ∈ nodes ∧ q.name = name
  parameters : ∀ d, .density d ∈ nodes → ∀ name ∈ d.parameterRefs, ∃ q, .parameter q ∈ nodes ∧ q.name = name
  densities : ∀ d, .density d ∈ nodes → ∀ name ∈ d.densityRefs, ∃ part, .density part ∈ nodes ∧ part.name = name
  acyclic : ∀ name, ¬ Relation.TransGen (Table.mk nodes).DependsOn name name

/-- Only free parameters can be unsound. -/
theorem forall_sound_iff :
    (∀ node ∈ nodes, node.Sound) ↔
      ∀ name value bounds, .parameter ⟨name, .free value bounds⟩ ∈ nodes →
        bounds.lower.isFinite = true ∧ bounds.upper.isFinite = true ∧ value.isFinite = true ∧
          bounds.lower ≤ value ∧ value ≤ bounds.upper := by
  constructor
  · exact fun sound name value bounds member => Parameter.sound_free_iff.1 (sound _ member)
  · rintro bounded (⟨name, ⟨value, bounds⟩ | formula⟩ | d) member
    · exact Parameter.sound_free_iff.2 (bounded name value bounds member)
    · exact Parameter.sound_derived name formula
    · trivial

namespace Table

theorem hasParameter_iff_mem (distinct : table.names.Nodup) :
    table.HasParameter name ↔ ∃ p, .parameter p ∈ table.nodes ∧ p.name = name :=
  exists_congr fun _ => find?_eq_some_iff distinct

theorem hasDensity_iff_mem (distinct : table.names.Nodup) :
    table.HasDensity name ↔ ∃ d, .density d ∈ table.nodes ∧ d.name = name :=
  exists_congr fun _ => find?_eq_some_iff distinct

/-- The invariant of tables speaks of lookups and ranks, that of graphs of
members and paths. -/
theorem wellFormed_iff_graph : table.WellFormed ↔ WellFormedGraph table.nodes := by
  constructor
  · intro wellFormed
    have distinct := wellFormed.distinct
    constructor
    case named => exact wellFormed.named
    case distinct => exact distinct
    case bounded => exact forall_sound_iff.1 wellFormed.sound
    case formulas =>
      intro p member name needed
      exact (hasParameter_iff_mem distinct).1 (wellFormed.resolved _ member name needed)
    case parameters =>
      intro d member name needed
      exact (hasParameter_iff_mem distinct).1 ((wellFormed.resolved _ member).1 name needed)
    case densities =>
      intro d member name needed
      exact (hasDensity_iff_mem distinct).1 ((wellFormed.resolved _ member).2 name needed)
    case acyclic => exact fun name => wellFormed.acyclic
  · intro graph
    have distinct : table.names.Nodup := graph.distinct
    have resolved : ∀ node ∈ table.nodes, table.Resolves node := by
      rintro (p | d) member
      · exact fun name needed => (hasParameter_iff_mem distinct).2 (graph.formulas p member name needed)
      · exact ⟨fun name needed => (hasParameter_iff_mem distinct).2 (graph.parameters d member name needed),
          fun name needed => (hasDensity_iff_mem distinct).2 (graph.densities d member name needed)⟩
    have ranked := ranked_of_acyclic resolved graph.acyclic
    exact ⟨⟨distinct, graph.named, resolved, _, ranked⟩, forall_sound_iff.2 graph.bounded⟩

theorem ofNodes_eq_ok_iff_graph :
    ofNodes nodes = .ok table ↔ table = ⟨nodes⟩ ∧ WellFormedGraph nodes := by
  rw [ofNodes_eq_ok, wellFormed_iff_graph]
  constructor
  · rintro ⟨rfl, graph⟩
    exact ⟨rfl, graph⟩
  · rintro ⟨rfl, graph⟩
    exact ⟨rfl, graph⟩

end Table

theorem WellFormedGraph.perm (graph : WellFormedGraph nodes) (same : nodes.Perm other) :
    WellFormedGraph other := by
  have back : ∀ {node}, node ∈ other → node ∈ nodes := same.mem_iff.mpr
  have forth : ∀ {node}, node ∈ nodes → node ∈ other := same.mem_iff.mp
  constructor
  case named => exact fun node member => graph.named node (back member)
  case distinct => exact (same.map Node.name).nodup_iff.mp graph.distinct
  case bounded => exact fun name value bounds member => graph.bounded name value bounds (back member)
  case formulas =>
    intro p member name needed
    obtain ⟨q, found, named⟩ := graph.formulas p (back member) name needed
    exact ⟨q, forth found, named⟩
  case parameters =>
    intro d member name needed
    obtain ⟨q, found, named⟩ := graph.parameters d (back member) name needed
    exact ⟨q, forth found, named⟩
  case densities =>
    intro d member name needed
    obtain ⟨part, found, named⟩ := graph.densities d (back member) name needed
    exact ⟨part, forth found, named⟩
  case acyclic =>
    intro name cycle
    apply graph.acyclic name
    refine Relation.TransGen.mono ?_ name name cycle
    rintro name dependency ⟨node, member, named, needed⟩
    exact ⟨node, back member, named, needed⟩

/-- A list of nodes makes a table exactly if it is a well-formed graph, the table
holds the nodes of the list in its order, and every other order of them would
have been accepted as well. -/
theorem Table.ofNodes_accepts_graphs (nodes : List Node) :
    ((∃ table, ofNodes nodes = .ok table) ↔ WellFormedGraph nodes) ∧
      (∀ table, ofNodes nodes = .ok table → table.nodes = nodes) ∧
      ((∃ table, ofNodes nodes = .ok table) ↔
        ∀ other, nodes.Perm other → ∃ table, ofNodes other = .ok table) := by
  have accepts : ∀ list, (∃ table, ofNodes list = .ok table) ↔ WellFormedGraph list := by
    intro list
    simp only [ofNodes_eq_ok_iff_graph, exists_eq_left]
  refine ⟨accepts nodes, ?_, ?_⟩
  · rintro table made
    rw [(ofNodes_eq_ok_iff_graph.1 made).1]
  · simp only [accepts]
    exact ⟨fun graph other same => graph.perm same, fun all => all nodes (.refl nodes)⟩

/-- A parameter may stand before those that it is computed from. -/
example :
    (Table.ofNodes [.parameter (.derived "y" ⟨"x", ["x"], .slot 0⟩),
      .parameter ⟨"x", .free 0.5 ⟨0, 1⟩⟩]).toBool = true := by
  decide +kernel

end DensityGraph
