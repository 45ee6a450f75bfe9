import DensityGraph.Proofs.Table.WellFormed
import DensityGraph.Table.Order
import Mathlib.Data.List.Sublists
import Mathlib.Data.List.Perm.Subperm

/-!
# Orders of dependencies

A search for an order of the nodes by recursion finishes a name after all that it
depends on.  If it succeeds then the place in the order is a rank of the nodes, and
nodes that have ranks are visited without meeting a cycle.
-/

namespace DensityGraph.Table

/-- Every name in an order is declared, occurs once and comes after all that it
depends on. -/
inductive Scheduled (table : Table) : List String → Prop where
  | nil : Scheduled table []
  | snoc {order : List String} {name : String} {node : Node} (before : Scheduled table order)
      (found : table.find? name = some node) (new : name ∉ order)
      (ready : ∀ dependency ∈ node.dependencies, dependency ∈ order) :
      Scheduled table (order ++ [name])

variable {table : Table} {rank : String → Nat} {name : String} {fuel : Nat} {e : ModelError}
  {path finished result order : List String}

namespace Scheduled

theorem nodup (scheduled : table.Scheduled order) : order.Nodup := by
  induction scheduled with
  | nil => exact List.nodup_nil
  | snoc before found new ready ih =>
      rw [List.nodup_append]
      refine ⟨ih, List.nodup_singleton _, ?_⟩
      rintro other member _ single rfl
      exact new (List.mem_singleton.mp single ▸ member)

theorem subset_names (scheduled : table.Scheduled order) : order ⊆ table.names := by
  induction scheduled with
  | nil => exact List.nil_subset _
  | snoc before found new ready ih =>
      rw [List.append_subset]
      refine ⟨ih, ?_⟩
      rw [List.cons_subset]
      exact ⟨find?_isSome_iff.1 (by simp [found]), List.nil_subset _⟩

/-- What a name depends on has an earlier place in the order. -/
theorem idxOf_lt (scheduled : table.Scheduled order) {node : Node} {dependency : String}
    (member : name ∈ order) (found : table.find? name = some node)
    (needed : dependency ∈ node.dependencies) : order.idxOf dependency < order.idxOf name := by
  induction scheduled with
  | nil => simp at member
  | snoc before found' new ready ih =>
      rename_i order last node'
      rcases List.mem_append.mp member with earlier | final
      · have earlierDependency : dependency ∈ order := by
          by_contra absent
          have placed := ih earlier
          rw [List.idxOf_of_notMem absent] at placed
          exact absurd (List.idxOf_lt_length_of_mem earlier) (by omega)
        rw [List.idxOf_append_of_mem earlierDependency, List.idxOf_append_of_mem earlier]
        exact ih earlier
      · obtain rfl := List.mem_singleton.mp final
        obtain rfl : node = node' := Option.some.inj (found.symm.trans found')
        have earlierDependency := ready dependency needed
        rw [List.idxOf_append_of_mem earlierDependency, List.idxOf_append_of_notMem new]
        have := List.idxOf_lt_length_of_mem earlierDependency
        omega

end Scheduled

/-- Adds a name and all that it depends on to the finished names, dependencies first.  `path` holds the names
that are waiting for this one; coming back to one of them is a cycle.  A path never repeats a name, so it is
never longer than the table: the fuel for its length does not run out. -/
def visit (table : Table) : (fuel : Nat) → (path : List String) → (finished : List String) →
    (name : String) → Except ModelError (List String)
  | fuel, path, finished, name =>
    if path.contains name then .error (.cycle name)
    else if finished.contains name then .ok finished
    else
      match table.find? name with
      | none => .error (.unknownReference name .node)
      | some node =>
        match fuel with
        | 0 => .error (.cycle name)
        | fuel + 1 =>
          match node.dependencies.foldlM (visit table fuel (name :: path)) finished with
          | .error e => .error e
          | .ok finished => .ok (finished ++ [name])

/-- The names of all nodes, in the order in which the recursion finishes them. -/
def depthFirst (table : Table) : Except ModelError (List String) :=
  table.names.foldlM (table.visit table.size []) []

theorem visit_eq_ok :
    table.visit fuel path finished name = .ok result ↔
      name ∉ path ∧
        (name ∈ finished ∧ result = finished ∨
          name ∉ finished ∧ ∃ less node done, fuel = less + 1 ∧ table.find? name = some node ∧
            node.dependencies.foldlM (table.visit less (name :: path)) finished = .ok done ∧
            result = done ++ [name]) := by
  rw [visit.eq_def, guard_eq_ok, List.contains_iff_mem]
  apply and_congr_right
  intro _
  by_cases done : name ∈ finished
  · simp [done, eq_comm]
  · rw [if_neg (by simpa using done)]
    cases found : table.find? name with
    | none => simp [done]
    | some node =>
        cases fuel with
        | zero => simp [done]
        | succ less =>
            cases folded : node.dependencies.foldlM (table.visit less (name :: path)) finished with
            | error e => simp [done, folded]
            | ok reached => simp [done, folded, eq_comm]

theorem visit_eq_error :
    table.visit fuel path finished name = .error e ↔
      name ∈ path ∧ e = .cycle name ∨
        name ∉ path ∧ name ∉ finished ∧
          (table.find? name = none ∧ e = .unknownReference name .node ∨
            ∃ node, table.find? name = some node ∧
              (fuel = 0 ∧ e = .cycle name ∨
                ∃ less, fuel = less + 1 ∧
                  node.dependencies.foldlM (table.visit less (name :: path)) finished = .error e)) := by
  rw [visit.eq_def]
  simp only [List.contains_iff_mem]
  by_cases onPath : name ∈ path
  · simp [onPath, eq_comm]
  · by_cases done : name ∈ finished
    · simp [onPath, done]
    · simp only [onPath, done, if_false, false_and, not_false_eq_true, true_and, false_or]
      cases found : table.find? name with
      | none => simp [eq_comm]
      | some node =>
          cases fuel with
          | zero => simp [eq_comm]
          | succ less =>
              cases folded : node.dependencies.foldlM (table.visit less (name :: path)) finished <;> simp [folded]

/-- What a successful visit of some names does to the finished names. -/
structure Visited (table : Table) (path finished names result : List String) : Prop where
  scheduled : table.Scheduled result
  covers : names ⊆ result
  keeps : finished ⊆ result
  avoids : ∀ name ∈ result, name ∈ path → name ∈ finished

/-- Steps that visit single names visit a list of names. -/
theorem Visited.foldlM {step : List String → String → Except ModelError (List String)}
    (visits : ∀ {finished result name}, table.Scheduled finished → step finished name = .ok result →
      table.Visited path finished [name] result) {names : List String} :
    ∀ {finished : List String}, table.Scheduled finished → names.foldlM step finished = .ok result →
      table.Visited path finished names result := by
  induction names with
  | nil =>
      intro finished scheduled folded
      obtain rfl : result = finished := pure_eq_ok.1 folded
      exact ⟨scheduled, List.nil_subset _, fun _ => id, fun _ member _ => member⟩
  | cons first rest ih =>
      intro finished scheduled folded
      rw [List.foldlM_cons, bind_eq_ok] at folded
      obtain ⟨middle, stepped, folded⟩ := folded
      have head := visits scheduled stepped
      have tail := ih head.scheduled folded
      refine ⟨tail.scheduled, ?_, fun _ member => tail.keeps (head.keeps member), ?_⟩
      · rw [List.cons_subset]
        exact ⟨tail.keeps (head.covers (List.mem_singleton_self first)), tail.covers⟩
      · intro name member onPath
        exact head.avoids name (tail.avoids name member onPath) onPath

/-- A visit finishes a name after all that it depends on. -/
theorem visited_of_visit : ∀ {path finished result : List String} {name : String},
    table.Scheduled finished → table.visit fuel path finished name = .ok result →
      table.Visited path finished [name] result := by
  induction fuel with
  | zero =>
      intro path finished result name scheduled visit
      obtain ⟨_, ⟨done, rfl⟩ | ⟨_, less, _, _, fuelEq, _⟩⟩ := visit_eq_ok.1 visit
      · exact ⟨scheduled, by simpa using done, fun _ => id, fun _ member _ => member⟩
      · omega
  | succ fuel ih =>
      intro path finished result name scheduled visit
      obtain ⟨offPath, ⟨done, rfl⟩ | ⟨unfinished, less, node, done, fuelEq, found, folded, rfl⟩⟩ :=
        visit_eq_ok.1 visit
      · exact ⟨scheduled, by simpa using done, fun _ => id, fun _ member _ => member⟩
      · obtain rfl : fuel = less := by omega
        have below := Visited.foldlM ih scheduled folded
        have new : name ∉ done := fun member =>
          unfinished (below.avoids name member List.mem_cons_self)
        refine ⟨.snoc below.scheduled found new fun _ needed => below.covers needed, by simp, ?_, ?_⟩
        · intro other member
          exact List.mem_append_left _ (below.keeps member)
        · intro other member onPath
          rcases List.mem_append.mp member with earlier | last
          · exact below.avoids other earlier (List.mem_cons_of_mem _ onPath)
          · obtain rfl := List.mem_singleton.mp last
            exact absurd onPath offPath

/-- The recursion schedules all nodes. -/
theorem scheduled_of_depthFirst (ordered : table.depthFirst = .ok order) :
    table.Scheduled order ∧ table.names ⊆ order := by
  have visited := Visited.foldlM visited_of_visit .nil ordered
  exact ⟨visited.scheduled, visited.covers⟩

/-- The places in an order of all nodes are ranks of the nodes. -/
theorem Scheduled.ranked (scheduled : table.Scheduled order) (covers : table.names ⊆ order)
    (distinct : table.names.Nodup) : table.Ranked order.idxOf := by
  intro node member
  have declared : node.name ∈ order := covers (List.mem_map_of_mem member)
  constructor
  · have inside := List.idxOf_lt_length_of_mem declared
    have short : order.length ≤ table.names.length :=
      (scheduled.nodup.subperm scheduled.subset_names).length_le
    simp only [names, List.length_map] at short
    exact inside.trans_le short
  · intro dependency needed
    exact scheduled.idxOf_lt declared (find?_of_mem distinct member) needed

/-- A visit of a name succeeds if ranks decrease along dependencies, every
waiting name has a higher rank and the fuel exceeds the rank. -/
theorem exists_visit (resolved : ∀ node ∈ table.nodes, table.Resolves node)
    (ranked : table.Ranked rank) :
    ∀ {path finished : List String} {name : String}, name ∈ table.names → rank name < fuel →
      (∀ waiting ∈ path, rank name < rank waiting) →
      ∃ result, table.visit fuel path finished name = .ok result := by
  induction fuel with
  | zero =>
      intro path finished name declared bounded
      omega
  | succ fuel ih =>
      intro path finished name declared bounded waits
      have offPath : name ∉ path := fun onPath => lt_irrefl _ (waits name onPath)
      obtain ⟨node, found⟩ := Option.isSome_iff_exists.mp (find?_isSome_iff.2 declared)
      obtain ⟨member, rfl⟩ := mem_of_find? found
      have folds := exists_foldlM (table.visit fuel (node.name :: path))
        node.dependencies (by
          intro dependency needed finished
          have lower := (ranked node member).2 dependency needed
          apply ih ((resolved node member).mem_names needed) (by omega)
          intro waiting onPath
          rcases List.mem_cons.mp onPath with rfl | further
          · exact lower
          · exact lower.trans (waits waiting further))
      by_cases done : node.name ∈ finished
      · exact ⟨finished, visit_eq_ok.2 ⟨offPath, .inl ⟨done, rfl⟩⟩⟩
      · obtain ⟨result, folded⟩ := folds finished
        exact ⟨result ++ [node.name], visit_eq_ok.2
          ⟨offPath, .inr ⟨done, fuel, node, result, rfl, found, folded, rfl⟩⟩⟩

/-- The recursion succeeds if the nodes have ranks. -/
theorem exists_depthFirst (resolved : ∀ node ∈ table.nodes, table.Resolves node)
    (ranked : table.Ranked rank) : ∃ order, table.depthFirst = .ok order := by
  apply exists_foldlM
  intro name declared finished
  exact exists_visit resolved ranked declared (ranked.lt_size declared) (by simp)

end DensityGraph.Table
