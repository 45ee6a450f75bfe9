import DensityGraph.Proofs.Table.Session

/-!
# What the search for an order finds

The search answers rightly on every list of nodes with distinct names, whatever the
nodes refer to.  It gives an order of all nodes if every dependency is declared and
no node depends on itself through any number of steps; otherwise it names a
dependency that is not declared, or a node that depends on itself.  The names that
wait for a visit are declared, never repeat and depend on the name that is visited,
so that no search goes deeper than the table has nodes.
-/

namespace DensityGraph

namespace Table

variable {table : Table} {name dependency : String} {node : Node} {fuel : Nat} {path finished names order : List String}
  {e : ModelError}

/-- The names that wait while a name is visited. -/
structure Waits (table : Table) (path : List String) (name : String) : Prop where
  distinct : path.Nodup
  declared : path ⊆ table.names
  depends : ∀ waiting ∈ path, Relation.TransGen table.DependsOn waiting name

theorem Waits.nil : table.Waits [] name :=
  ⟨List.nodup_nil, List.nil_subset _, List.forall_mem_nil _⟩

theorem dependsOn_of_find? (found : table.find? name = some node) (needed : dependency ∈ node.dependencies) :
    table.DependsOn name dependency := by
  obtain ⟨member, named⟩ := mem_of_find? found
  exact ⟨node, member, named, needed⟩

/-- A name that is visited waits for its dependencies. -/
theorem Waits.step (waits : table.Waits path name) (new : name ∉ path) (found : table.find? name = some node)
    (needed : dependency ∈ node.dependencies) : table.Waits (name :: path) dependency := by
  have depends := dependsOn_of_find? found needed
  constructor
  case distinct => exact List.nodup_cons.mpr ⟨new, waits.distinct⟩
  case declared => exact List.cons_subset.mpr ⟨find?_isSome_iff.1 (by simp [found]), waits.declared⟩
  case depends =>
    rw [List.forall_mem_cons]
    exact ⟨.single depends, fun waiting onPath => (waits.depends waiting onPath).tail depends⟩

/-- There is room on the path for every name that is declared and does not wait yet. -/
theorem Waits.length_lt (waits : table.Waits path name) (new : name ∉ path) (declared : name ∈ table.names) :
    path.length < table.size := by
  have distinct : (name :: path).Nodup := List.nodup_cons.mpr ⟨new, waits.distinct⟩
  have inside : name :: path ⊆ table.names := List.cons_subset.mpr ⟨declared, waits.declared⟩
  rw [← length_names]
  exact (distinct.subperm inside).length_le

/-- What stands in the way of an order. -/
inductive Obstacle (table : Table) : ModelError → Prop where
  | cycle {name : String} (cyclic : Relation.TransGen table.DependsOn name name) : Obstacle table (.cycle name)
  | undeclared {dependent dependency : String} (depends : table.DependsOn dependent dependency)
      (missing : dependency ∉ table.names) : Obstacle table (.unknownReference dependency .node)

/-- A visit fails only where something stands in the way of an order. -/
theorem obstacle_of_visit (waits : table.Waits path name) (enough : table.size ≤ path.length + fuel)
    (asked : name ∈ table.names ∨ ∃ dependent, table.DependsOn dependent name)
    (failed : table.visit fuel path finished name = .error e) : table.Obstacle e := by
  induction fuel using Nat.strong_induction_on generalizing path finished name with
  | _ fuel ih =>
      rcases visit_eq_error.1 failed with ⟨onPath, rfl⟩ | ⟨new, _, ⟨absent, rfl⟩ | ⟨node, found, stopped⟩⟩
      · exact .cycle (waits.depends name onPath)
      · have missing := find?_eq_none_iff.1 absent
        obtain ⟨dependent, depends⟩ := asked.resolve_left missing
        exact .undeclared depends missing
      · have room := waits.length_lt new (find?_isSome_iff.1 (by simp [found]))
        rcases stopped with ⟨rfl, _⟩ | ⟨less, rfl, folded⟩
        · omega
        · obtain ⟨dependency, needed, before, below⟩ := exists_of_foldlM_eq_error folded
          have deeper : table.size ≤ (name :: path).length + less := by
            rw [List.length_cons]
            omega
          exact ih less (Nat.lt_succ_self less) (waits.step new found needed) deeper
            (.inr ⟨name, dependsOn_of_find? found needed⟩) below

/-- A search fails only where something stands in the way of an order. -/
theorem obstacle_of_topologicalOrder (distinct : table.names.Nodup) (failed : table.topologicalOrder = .error e) :
    table.Obstacle e := by
  rw [topologicalOrder_eq_depthFirst distinct] at failed
  obtain ⟨name, declared, before, failed⟩ := exists_of_foldlM_eq_error failed
  exact obstacle_of_visit .nil (by simp) (.inl declared) failed

/-- A visit that may go as deep as the table has nodes left gives the same if it may go deeper. -/
theorem visit_congr {more : Nat} (waits : table.Waits path name) (enough : table.size ≤ path.length + fuel)
    (deep : fuel ≤ more) : table.visit more path finished name = table.visit fuel path finished name := by
  induction fuel using Nat.strong_induction_on generalizing more path finished name with
  | _ fuel ih =>
      rw [visit.eq_def, visit.eq_def table fuel]
      simp only [List.contains_iff_mem]
      by_cases new : name ∈ path
      · simp [new]
      · rw [if_neg new, if_neg new]
        cases found : table.find? name with
        | none => rfl
        | some node =>
            have room := waits.length_lt new (find?_isSome_iff.1 (by simp [found]))
            obtain ⟨less, rfl⟩ : ∃ less, fuel = less + 1 := ⟨fuel - 1, by omega⟩
            obtain ⟨other, rfl⟩ : ∃ other, more = other + 1 := ⟨more - 1, by omega⟩
            have same : node.dependencies.foldlM (table.visit other (name :: path)) finished =
                node.dependencies.foldlM (table.visit less (name :: path)) finished := by
              apply foldlM_congr
              intro dependency needed before
              have deeper : table.size ≤ (name :: path).length + less := by
                rw [List.length_cons]
                omega
              exact ih less (Nat.lt_succ_self less) (waits.step new found needed) deeper (by omega)
            simp only [same]

/-- No search goes deeper than the table has nodes. -/
theorem foldlM_visit_eq_topologicalOrder (distinct : table.names.Nodup) (more : Nat) :
    table.names.foldlM (table.visit (table.size + more) []) [] = table.topologicalOrder := by
  rw [topologicalOrder_eq_depthFirst distinct]
  apply foldlM_congr
  intro name _ before
  exact visit_congr .nil (by simp) (Nat.le_add_right _ more)

/-- An order of all nodes. -/
structure Orders (table : Table) (order : List String) : Prop where
  everyNode : order.Perm table.names
  /-- each place in the table occurs once -/
  places : (order.map table.indexOf?).Perm ((List.range table.size).map some)
  /-- what a node depends on through any number of steps comes before it -/
  earlier : ∀ name dependency, Relation.TransGen table.DependsOn name dependency →
    order.idxOf dependency < order.idxOf name

theorem map_indexOf?_names (distinct : table.names.Nodup) :
    table.names.map table.indexOf? = (List.range table.size).map some := by
  apply List.ext_getElem
  · simp [length_names]
  · intro place inside _
    have insideNodes : place < table.nodes.length := by simpa [names] using inside
    rw [List.getElem_map, List.getElem_map, List.getElem_range, indexOf?_eq_some_iff distinct]
    exact ⟨table.nodes[place], List.getElem?_eq_getElem insideNodes, by simp [names]⟩

theorem orders_of_topologicalOrder (distinct : table.names.Nodup) (ordered : table.topologicalOrder = .ok order) :
    table.Orders order := by
  obtain ⟨scheduled, covers⟩ := scheduled_of_topologicalOrder distinct ordered
  have everyNode : order.Perm table.names :=
    (scheduled.nodup.subperm scheduled.subset_names).antisymm (distinct.subperm covers)
  constructor
  case everyNode => exact everyNode
  case places =>
    rw [← map_indexOf?_names distinct]
    exact everyNode.map _
  case earlier =>
    have direct : ∀ {name dependency}, table.DependsOn name dependency →
        order.idxOf dependency < order.idxOf name := by
      rintro _ dependency ⟨node, member, rfl, needed⟩
      have declared : node.name ∈ order := covers (List.mem_map_of_mem member)
      exact scheduled.idxOf_lt declared (find?_of_mem distinct member) needed
    intro name dependency depends
    induction depends with
    | single step => exact direct step
    | tail _ step ih => exact (direct step).trans ih

/-- All that nodes depend on is declared, and no node depends on itself through any number of steps. -/
structure Orderable (table : Table) : Prop where
  declared : ∀ name dependency, table.DependsOn name dependency → dependency ∈ table.names
  acyclic : ∀ name, ¬ Relation.TransGen table.DependsOn name name

theorem Obstacle.not_orderable (obstacle : table.Obstacle e) : ¬ table.Orderable := by
  intro orderable
  cases obstacle with
  | cycle cyclic => exact orderable.acyclic _ cyclic
  | undeclared depends missing => exact missing (orderable.declared _ _ depends)

theorem Orders.orderable (orders : table.Orders order) : table.Orderable := by
  constructor
  case declared =>
    intro name dependency depends
    have before := orders.earlier name dependency (.single depends)
    have inside : order.idxOf dependency < order.length := before.trans_le List.idxOf_le_length
    exact orders.everyNode.mem_iff.1 (List.idxOf_lt_length_iff.1 inside)
  case acyclic => exact fun name cyclic => (orders.earlier name name cyclic).ne rfl

/-- There is an order of all nodes exactly if nothing stands in its way. -/
theorem exists_topologicalOrder_iff (distinct : table.names.Nodup) :
    (∃ order, table.topologicalOrder = .ok order) ↔ table.Orderable := by
  constructor
  · rintro ⟨order, ordered⟩
    exact (orders_of_topologicalOrder distinct ordered).orderable
  · intro orderable
    cases searched : table.topologicalOrder with
    | error e => exact absurd orderable (obstacle_of_topologicalOrder distinct searched).not_orderable
    | ok order => exact ⟨order, rfl⟩

theorem foldlM_visit_of_finished (done : names ⊆ finished) (outside : ∀ name ∈ names, name ∉ path) :
    names.foldlM (table.visit fuel path) finished = .ok finished := by
  induction names with
  | nil => rfl
  | cons first rest ih =>
      rw [List.cons_subset] at done
      rw [List.forall_mem_cons] at outside
      have visited : table.visit fuel path finished first = .ok finished :=
        visit_eq_ok.2 ⟨outside.1, .inl ⟨done.1, rfl⟩⟩
      rw [List.foldlM_cons, visited, ok_bind]
      exact ih done.2 outside.2

/-- A table whose nodes all stand behind what they depend on is its own order. -/
theorem OrderedFrom.topologicalOrder_eq (ordered : table.OrderedFrom 0) (distinct : table.names.Nodup) :
    table.topologicalOrder = .ok table.names := by
  rw [topologicalOrder_eq_depthFirst distinct]
  suffices rest : ∀ before after, table.nodes = before ++ after →
      (after.map Node.name).foldlM (table.visit table.size []) (before.map Node.name) = .ok table.names from
    rest [] table.nodes rfl
  intro before after
  induction after generalizing before with
  | nil =>
      intro split
      rw [List.append_nil] at split
      rw [names, split]
      rfl
  | cons node after ih =>
      intro split
      have found : table.find? node.name = some node := find?_of_mem distinct (by simp [split])
      have new : node.name ∉ before.map Node.name := by
        intro member
        rw [names, split, List.map_append, List.nodup_append] at distinct
        exact distinct.2.2 _ member node.name (by simp) rfl
      have ready : node.dependencies ⊆ before.map Node.name := by
        intro dependency needed
        have here : table.nodes[before.length]? = some node := by simp [split]
        simpa [names, split] using ordered before.length node here (Nat.zero_le _) dependency needed
      have visited : table.visit table.size [] (before.map Node.name) node.name =
          .ok (before.map Node.name ++ [node.name]) := by
        refine visit_eq_ok.2 ⟨List.not_mem_nil, .inr ⟨new, table.size - 1, node, _, ?_, found, ?_, rfl⟩⟩
        · simp only [size, split, List.length_append, List.length_cons]
          omega
        · apply foldlM_visit_of_finished ready
          rintro dependency needed onPath
          obtain rfl := List.mem_singleton.mp onPath
          exact new (ready needed)
      rw [List.map_cons, List.foldlM_cons, visited, ok_bind]
      simpa using ih (before ++ [node]) (by simp [split])

end Table

namespace Session

variable {operations : List Operation}

/-- A session without a load has no nodes that were loaded. -/
theorem loaded_run (unloaded : ∀ nodes, .load nodes ∉ operations) : (run operations).loaded = 0 := by
  suffices kept : ∀ session : Session, (operations.foldl step session).loaded = session.loaded from kept _
  induction operations with
  | nil => exact fun _ => rfl
  | cons operation rest ih =>
      intro session
      rw [List.foldl_cons, ih fun nodes member => unloaded nodes (List.mem_cons_of_mem _ member)]
      unfold step
      split
      · cases operation with
        | load nodes => exact absurd List.mem_cons_self (unloaded nodes)
        | _ => rfl
      · rfl

/-- The order of a table without loads is that of its declarations. -/
theorem topologicalOrder_run (unloaded : ∀ nodes, .load nodes ∉ operations) :
    (run operations).table.topologicalOrder = .ok (run operations).table.names := by
  have valid := valid_run operations
  have ordered := valid.ordered
  rw [loaded_run unloaded] at ordered
  exact ordered.topologicalOrder_eq valid.wellFormed.distinct

end Session

namespace Table

/-- What a search for an order may give. -/
inductive Answers (table : Table) : Except ModelError (List String) → Prop where
  | order {order : List String} (orders : table.Orders order) : Answers table (.ok order)
  | obstacle {e : ModelError} (obstacle : table.Obstacle e) : Answers table (.error e)

/-- Over any nodes with distinct names the search ends at a depth of at most the number of nodes and gives an
order of all of them, or a reason why there is none; it gives an order exactly if there is no such reason.
After declarations alone the order is theirs. -/
theorem topologicalOrder_correct {table : Table} (distinct : table.names.Nodup) {operations : List Operation}
    (unloaded : ∀ nodes, .load nodes ∉ operations) :
    table.Answers table.topologicalOrder ∧
      ((∃ order, table.topologicalOrder = .ok order) ↔ table.Orderable) ∧
      (∀ more, table.names.foldlM (table.visit (table.size + more) []) [] = table.topologicalOrder) ∧
      ∃ order, (Session.run operations).table.topologicalOrder = .ok order ∧
        order.map (Session.run operations).table.indexOf? =
          (List.range (Session.run operations).table.size).map some := by
  refine ⟨?_, exists_topologicalOrder_iff distinct, foldlM_visit_eq_topologicalOrder distinct, ?_⟩
  · cases searched : table.topologicalOrder with
    | error e => exact .obstacle (obstacle_of_topologicalOrder distinct searched)
    | ok order => exact .order (orders_of_topologicalOrder distinct searched)
  · exact ⟨_, Session.topologicalOrder_run unloaded,
      map_indexOf?_names (Session.valid_run operations).wellFormed.distinct⟩

/-- Products that stand before their factors are ordered from the last to the first. -/
theorem topologicalOrder_correct_backwards :
    ∃ table : Table, table.names = ["p", "q", "r"] ∧ table.names.Nodup ∧
      table.topologicalOrder = .ok ["r", "q", "p"] ∧ table.Orders ["r", "q", "p"] ∧
      ∃ order, (Session.run [.declareFree "x" 0 0 1]).table.topologicalOrder = .ok order := by
  let table : Table :=
    ⟨[.density ⟨"p", .product ["q", "r"]⟩, .density ⟨"q", .product ["r"]⟩, .density ⟨"r", .product []⟩]⟩
  have distinct : table.names.Nodup := by decide
  have ordered : table.topologicalOrder = .ok ["r", "q", "p"] := (topologicalOrder_eq_depthFirst distinct).trans rfl
  have unloaded : ∀ nodes, Operation.load nodes ∉ [Operation.declareFree "x" 0 0 1] := by simp
  obtain ⟨answers, _, _, order, declared, _⟩ := topologicalOrder_correct distinct unloaded
  rw [ordered] at answers
  cases answers with
  | order orders => exact ⟨table, rfl, distinct, ordered, orders, order, declared⟩

end Table

end DensityGraph
