import DensityGraph.Proofs.Table.Order
import Mathlib.Data.Fintype.Card

/-!
# The stack of the search

The search keeps the nodes that wait on a stack and tells by their marks which nodes wait and which are done.
The names that wait are the path of the same search by recursion, and the names of the nodes that are done are
those that it has finished: once the node on top of the others is done, the recursion is back from its visit.
So both give the same order and fail alike.
-/

namespace DensityGraph.Table

variable {table : Table} {place : Fin table.nodes.length} {name dependency : String} {fuel : Nat}

def nameAt (table : Table) (place : Fin table.nodes.length) : String := (table.nodeAt place).name

theorem nodeAt_mem : table.nodeAt place ∈ table.nodes :=
  List.get_mem _ _

theorem map_nameAt_finRange : (List.finRange table.nodes.length).map table.nameAt = table.names := by
  calc (List.finRange table.nodes.length).map table.nameAt
      = ((List.finRange table.nodes.length).map table.nodes.get).map Node.name := by rw [List.map_map]; rfl
    _ = table.names := by rw [List.map_get_finRange, names]

theorem nameAt_injective (distinct : table.names.Nodup) : Function.Injective table.nameAt := by
  rw [← map_nameAt_finRange] at distinct
  intro place other same
  exact List.inj_on_of_nodup_map distinct (List.mem_finRange place) (List.mem_finRange other) same

theorem place?_eq_none_iff : table.place? name = none ↔ table.find? name = none := by
  rw [place?, find?, List.findFinIdx?_eq_none_iff, List.find?_eq_none]

theorem nameAt_of_place? (found : table.place? name = some place) : table.nameAt place = name := by
  obtain ⟨named, -⟩ := List.findFinIdx?_eq_some_iff.mp found
  exact beq_iff_eq.mp named

theorem find?_nameAt (distinct : table.names.Nodup) :
    table.find? (table.nameAt place) = some (table.nodeAt place) :=
  find?_of_mem distinct nodeAt_mem

namespace Search

variable {search after : Search table} {top : Frame table} {below : List (Frame table)}

/-- The nodes that wait. -/
def waiting (search : Search table) : List (Fin table.nodes.length) := search.stack.map Frame.node

/-- The names of the nodes that wait. -/
def path (search : Search table) : List String := search.waiting.map table.nameAt

/-- The names of the nodes that are done. -/
def finished (search : Search table) : List String := search.order.map table.nameAt

/-- The marks tell which nodes wait and which are done, and no node waits twice. -/
structure Marked (search : Search table) : Prop where
  distinct : search.waiting.Nodup
  active : ∀ place, search.markAt place = .active ↔ place ∈ search.waiting
  done : ∀ place, search.markAt place = .done ↔ place ∈ search.order

theorem markAt_initial : (initial table).markAt place = .new := by
  change (Vector.replicate table.nodes.length Mark.new)[place] = .new
  simp

theorem markAt_setMark {mark : Mark} {other : Fin table.nodes.length} :
    (search.setMark place mark).markAt other = if place = other then mark else search.markAt other := by
  change (search.marks.set place mark)[other] = if place = other then mark else search.marks[other]
  simp [Vector.getElem_set, Fin.ext_iff]

theorem marked_initial : (initial table).Marked := by
  constructor
  case distinct => exact List.nodup_nil
  case active => simp [markAt_initial, show (initial table).waiting = [] from rfl]
  case done => simp [markAt_initial, show (initial table).order = [] from rfl]

theorem Marked.push (marked : search.Marked) (new : search.markAt place = .new) : (search.push place).Marked := by
  have rested : place ∉ search.waiting := by
    rw [← marked.active, new]
    decide
  have undone : place ∉ search.order := by
    rw [← marked.done, new]
    decide
  constructor
  case distinct => exact List.nodup_cons.mpr ⟨rested, marked.distinct⟩
  case active =>
    intro other
    rw [show (search.push place).markAt other = _ from markAt_setMark]
    change _ ↔ other ∈ place :: search.waiting
    rw [List.mem_cons, ← marked.active]
    by_cases same : place = other
    · simp [same]
    · simp [same, Ne.symm same]
  case done =>
    intro other
    rw [show (search.push place).markAt other = _ from markAt_setMark]
    change _ ↔ other ∈ search.order
    rw [← marked.done]
    by_cases same : place = other
    · subst same
      simp [new]
    · simp [same]

/-- The nodes that wait stay the same when the node on top goes on to another dependency. -/
theorem waiting_eq {next : Nat} (stacked : search.stack = top :: below)
    (moved : after.stack = ⟨top.node, next⟩ :: below) : after.waiting = search.waiting := by
  simp [waiting, stacked, moved]

theorem path_eq {next : Nat} (stacked : search.stack = top :: below)
    (moved : after.stack = ⟨top.node, next⟩ :: below) : after.path = search.path := by
  rw [path, path, waiting_eq stacked moved]

theorem path_push : (search.push place).path = table.nameAt place :: search.path :=
  rfl

theorem Marked.advance (marked : search.Marked) (stacked : search.stack = top :: below) :
    (search.advance top below).Marked := by
  have same : (search.advance top below).waiting = search.waiting := waiting_eq stacked rfl
  constructor
  case distinct => rw [same]; exact marked.distinct
  case active => rw [same]; exact marked.active
  case done => exact marked.done

theorem Marked.pop (marked : search.Marked) (stacked : search.stack = top :: below) :
    (search.pop top below).Marked := by
  have split : search.waiting = top.node :: below.map Frame.node := by simp [waiting, stacked]
  have distinct := marked.distinct
  rw [split, List.nodup_cons] at distinct
  constructor
  case distinct => exact distinct.2
  case active =>
    intro other
    have before := marked.active other
    rw [split, List.mem_cons] at before
    rw [show (search.pop top below).markAt other = _ from markAt_setMark]
    change _ ↔ other ∈ below.map Frame.node
    by_cases same : top.node = other
    · subst same
      simp [distinct.1]
    · simp [same, before, Ne.symm same]
  case done =>
    intro other
    rw [show (search.pop top below).markAt other = _ from markAt_setMark]
    change _ ↔ other ∈ search.order ++ [top.node]
    rw [List.mem_append, List.mem_singleton, ← marked.done]
    by_cases same : top.node = other
    · simp [same]
    · simp [same, Ne.symm same]

/-- A run takes the next turn, if a node waits. -/
theorem run_eq (stacked : search.stack = top :: below) : search.run = search.turn top below >>= run := by
  rw [run.eq_def]
  split
  case h_1 empty => exact absurd (stacked.symm.trans empty) (by simp)
  case h_2 first rest again =>
    obtain ⟨rfl, rfl⟩ := List.cons.inj (stacked.symm.trans again)
    split
    case h_1 refused => rw [refused]; rfl
    case h_2 turned => rw [turned]; rfl

section

variable (stacked : search.stack = top :: below)
  (needed : (table.nodeAt top.node).dependencies[top.next]? = some dependency)

include stacked needed

/-- A run goes down to a dependency that is new. -/
theorem run_of_new (found : table.place? dependency = some place) (new : search.markAt place = .new) :
    search.run = ((search.advance top below).push place).run := by
  rw [run_eq stacked, turn, needed]
  simp only [found, new]
  rfl

theorem run_of_active (found : table.place? dependency = some place) (active : search.markAt place = .active) :
    search.run = .error (.cycle dependency) := by
  rw [run_eq stacked, turn, needed]
  simp only [found, active]
  rfl

/-- A run passes a dependency that is done. -/
theorem run_of_done (found : table.place? dependency = some place) (done : search.markAt place = .done) :
    search.run = (search.advance top below).run := by
  rw [run_eq stacked, turn, needed]
  simp only [found, done]
  rfl

theorem run_of_undeclared (missing : table.place? dependency = none) :
    search.run = .error (.unknownReference dependency .node) := by
  rw [run_eq stacked, turn, needed]
  simp only [missing]
  rfl

end

theorem run_of_empty (empty : search.stack = []) : search.run = .ok search := by
  rw [run.eq_def]
  split
  case h_1 => rfl
  case h_2 stacked => exact absurd (empty.symm.trans stacked) (by simp)

/-- What a run comes to with the node on top of others, by the names that the recursion finishes before it. -/
inductive Follows (search : Search table) (below : List (Frame table)) (name : String) :
    Except ModelError (List String) → Prop where
  | refused {e : ModelError} (refused : search.run = .error e) : Follows search below name (.error e)
  | popped {after : Search table} {done : List String} (marked : after.Marked) (stacked : after.stack = below)
      (finished : after.finished = done ++ [name]) (same : search.run = after.run) :
      Follows search below name (.ok done)

theorem Follows.of_run_eq {result : Except ModelError (List String)} (follows : after.Follows below name result)
    (same : search.run = after.run) : search.Follows below name result := by
  cases follows with
  | refused refused => exact .refused (same.trans refused)
  | popped marked stacked finished sameAgain => exact .popped marked stacked finished (same.trans sameAgain)

/-- The nodes that wait are not all nodes if another one is new. -/
theorem Marked.length_lt (marked : search.Marked) (new : search.markAt place = .new) :
    search.stack.length < table.size := by
  have distinct := (marked.push new).distinct
  simpa [Search.push, waiting, size, Nat.succ_le_iff] using distinct.length_le_card

theorem mem_path (distinct : table.names.Nodup) : table.nameAt place ∈ search.path ↔ place ∈ search.waiting :=
  List.mem_map_of_injective (nameAt_injective distinct)

theorem mem_finished (distinct : table.names.Nodup) : table.nameAt place ∈ search.finished ↔ place ∈ search.order :=
  List.mem_map_of_injective (nameAt_injective distinct)

/-- A visit of the next dependency by recursion, by its mark. -/
theorem Marked.visit_of_active (marked : search.Marked) (active : search.markAt place = .active) :
    table.visit fuel search.path search.finished (table.nameAt place) = .error (.cycle (table.nameAt place)) :=
  visit_eq_error.2 (.inl ⟨List.mem_map_of_mem ((marked.active place).1 active), rfl⟩)

theorem Marked.visit_of_done (marked : search.Marked) (distinct : table.names.Nodup)
    (done : search.markAt place = .done) :
    table.visit fuel search.path search.finished (table.nameAt place) = .ok search.finished := by
  have off : table.nameAt place ∉ search.path := by
    rw [mem_path distinct, ← marked.active, done]
    decide
  exact visit_eq_ok.2 ⟨off, .inl ⟨List.mem_map_of_mem ((marked.done place).1 done), rfl⟩⟩

theorem Marked.visit_of_new (marked : search.Marked) (distinct : table.names.Nodup)
    (new : search.markAt place = .new) :
    table.visit (fuel + 1) search.path search.finished (table.nameAt place) =
      (table.nodeAt place).dependencies.foldlM (table.visit fuel (table.nameAt place :: search.path)) search.finished >>=
        fun done => .ok (done ++ [table.nameAt place]) := by
  have off : table.nameAt place ∉ search.path := by
    rw [mem_path distinct, ← marked.active, new]
    decide
  have unfinished : table.nameAt place ∉ search.finished := by
    rw [mem_finished distinct, ← marked.done, new]
    decide
  cases folded : (table.nodeAt place).dependencies.foldlM (table.visit fuel (table.nameAt place :: search.path))
    search.finished with
  | error e =>
      exact visit_eq_error.2 (.inr ⟨off, unfinished, .inr ⟨_, find?_nameAt distinct, .inr ⟨fuel, rfl, folded⟩⟩⟩)
  | ok done =>
      exact visit_eq_ok.2 ⟨off, .inr ⟨unfinished, fuel, _, done, rfl, find?_nameAt distinct, folded, rfl⟩⟩

theorem visit_of_undeclared (undeclared : table.find? name = none) :
    table.visit fuel search.path search.finished name = .error (.unknownReference name .node) := by
  have outside {places : List (Fin table.nodes.length)} : name ∉ places.map table.nameAt := by
    intro member
    obtain ⟨place, -, rfl⟩ := List.mem_map.mp member
    exact find?_eq_none_iff.1 undeclared (List.mem_map_of_mem nodeAt_mem)
  exact visit_eq_error.2 (.inr ⟨outside, outside, .inl ⟨undeclared, rfl⟩⟩)

/-- With some fuel the recursion keeps up with the stack: wherever the node on top of the others is, a run is
done with it when the recursion is done with what is left of its dependencies. -/
def KeepsUp (table : Table) (fuel : Nat) : Prop :=
  ∀ ⦃search : Search table⦄ ⦃top : Frame table⦄ ⦃below : List (Frame table)⦄, search.Marked →
    search.stack = top :: below → table.size ≤ below.length + 1 + fuel →
      search.Follows below (table.nameAt top.node)
        (((table.nodeAt top.node).dependencies.drop top.next).foldlM (table.visit fuel search.path) search.finished)

/-- What a visit of a new node gives with more fuel, a run gives for the node put on top. -/
theorem KeepsUp.visit_of_new (keepsUp : KeepsUp table fuel) (distinct : table.names.Nodup) (marked : search.Marked)
    (new : search.markAt place = .new) (enough : table.size ≤ search.stack.length + 1 + fuel) :
    (∃ e, table.visit (fuel + 1) search.path search.finished (table.nameAt place) = .error e ∧
        (search.push place).run = .error e) ∨
      ∃ after : Search table, after.Marked ∧ after.stack = search.stack ∧
        table.visit (fuel + 1) search.path search.finished (table.nameAt place) = .ok after.finished ∧
        (search.push place).run = after.run := by
  have follows := keepsUp (marked.push new) rfl enough
  have visit := @Marked.visit_of_new table place fuel search marked distinct new
  rw [path_push, List.drop_zero] at follows
  change Follows _ _ _ ((table.nodeAt place).dependencies.foldlM _ search.finished) at follows
  generalize (table.nodeAt place).dependencies.foldlM (table.visit fuel (table.nameAt place :: search.path))
    search.finished = result at follows visit
  cases follows with
  | refused refused => exact .inl ⟨_, visit, refused⟩
  | popped markedAfter stacked finished same =>
      have visited : table.visit (fuel + 1) search.path search.finished (table.nameAt place) = .ok _ :=
        visit.trans (congrArg Except.ok finished.symm)
      exact .inr ⟨_, markedAfter, stacked, visited, same⟩

/-- The fuel suffices if less fuel does for the nodes that are put on top. -/
theorem keepsUp_of_less (distinct : table.names.Nodup) (deeper : ∀ less < fuel, KeepsUp table less) :
    KeepsUp table fuel := by
  intro search top below marked stacked enough
  generalize left : (table.nodeAt top.node).dependencies.drop top.next = dependencies
  induction dependencies generalizing search top with
  | nil =>
      have ended : (table.nodeAt top.node).dependencies[top.next]? = none :=
        List.getElem?_eq_none (List.drop_eq_nil_iff.1 left)
      refine .popped (marked.pop stacked) rfl (by simp [Search.finished, Search.pop]) ?_
      rw [run_eq stacked, turn, ended]
      rfl
  | cons dependency rest ih =>
      have needed : (table.nodeAt top.node).dependencies[top.next]? = some dependency := by
        rw [← List.head?_drop, left, List.head?_cons]
      have later : (table.nodeAt top.node).dependencies.drop (top.next + 1) = rest := by
        rw [← List.tail_drop, left, List.tail_cons]
      rw [List.foldlM_cons]
      cases found : table.place? dependency with
      | none =>
          rw [visit_of_undeclared (place?_eq_none_iff.1 found)]
          exact .refused (run_of_undeclared stacked needed found)
      | some place =>
          obtain rfl := nameAt_of_place? found
          cases mark : search.markAt place with
          | active =>
              rw [marked.visit_of_active mark]
              exact .refused (run_of_active stacked needed found mark)
          | done =>
              have follows := ih (marked.advance stacked) rfl later
              rw [path_eq stacked rfl] at follows
              rw [marked.visit_of_done distinct mark]
              exact follows.of_run_eq (run_of_done stacked needed found mark)
          | new =>
              have ran := run_of_new stacked needed found mark
              have room := marked.length_lt mark
              rw [stacked, List.length_cons] at room
              obtain ⟨less, rfl⟩ : ∃ less, fuel = less + 1 := ⟨fuel - 1, by omega⟩
              have visited := (deeper less (Nat.lt_succ_self less)).visit_of_new distinct (marked.advance stacked) mark
                (by rw [Search.advance, List.length_cons]; omega)
              rw [path_eq stacked rfl] at visited
              -- back from the visit, the node that has waited for it is on top again
              obtain ⟨e, visit, refused⟩ | ⟨after, markedAfter, stackedAfter, visit, same⟩ := visited
              · exact visit ▸ .refused (ran.trans refused)
              · have follows := ih markedAfter stackedAfter later
                rw [path_eq stacked stackedAfter] at follows
                exact visit ▸ follows.of_run_eq (ran.trans same)

theorem keepsUp (distinct : table.names.Nodup) : KeepsUp table fuel := by
  induction fuel using Nat.strong_induction_on with
  | _ fuel ih => exact keepsUp_of_less distinct ih

/-- What the searches by the stack and by recursion come to, from one node after another. -/
inductive Agrees : Except ModelError (List String) → Except ModelError (Search table) → Prop where
  | refused (e : ModelError) : Agrees (.error e) (.error e)
  | finished {search : Search table} (marked : search.Marked) (empty : search.stack = []) :
      Agrees (.ok search.finished) (.ok search)

theorem agrees_descend (distinct : table.names.Nodup) (marked : search.Marked) (empty : search.stack = [])
    (start : Fin table.nodes.length) :
    Agrees (table.visit table.size [] search.finished (table.nameAt start)) (search.descend start) := by
  have path : search.path = [] := by rw [Search.path, waiting, empty]; rfl
  rw [← path]
  cases mark : search.markAt start with
  | active =>
      have waits := (marked.active start).1 mark
      rw [waiting, empty] at waits
      cases waits
  | done =>
      have stays : search.descend start = .ok search := by simp only [descend, mark]
      rw [marked.visit_of_done distinct mark, stays]
      exact .finished marked empty
  | new =>
      have runs : search.descend start = (search.push start).run := by simp only [descend, mark]
      have room := marked.length_lt mark
      obtain ⟨less, size⟩ : ∃ less, table.size = less + 1 := ⟨table.size - 1, by omega⟩
      rw [runs, size]
      have keeps : KeepsUp table less := keepsUp distinct
      obtain ⟨e, visit, refused⟩ | ⟨after, markedAfter, emptyAfter, visit, same⟩ :=
        keeps.visit_of_new distinct marked mark (by omega)
      · rw [visit, refused]
        exact .refused e
      · rw [visit, same, run_of_empty (emptyAfter.trans empty)]
        exact .finished markedAfter (emptyAfter.trans empty)

theorem agrees_foldlM_descend (distinct : table.names.Nodup) (marked : search.Marked) (empty : search.stack = [])
    (starts : List (Fin table.nodes.length)) :
    Agrees ((starts.map table.nameAt).foldlM (table.visit table.size []) search.finished)
      (starts.foldlM descend search) := by
  induction starts generalizing search with
  | nil => exact .finished marked empty
  | cons start rest ih =>
      rw [List.map_cons, List.foldlM_cons, List.foldlM_cons]
      have first := agrees_descend distinct marked empty start
      generalize table.visit table.size [] search.finished (table.nameAt start) = visited at first ⊢
      generalize search.descend start = descended at first ⊢
      cases first with
      | refused e => exact .refused e
      | finished markedAfter emptyAfter => exact ih markedAfter emptyAfter

end Search

/-- The search gives the order that the recursion gives, or the same error. -/
theorem topologicalOrder_eq_depthFirst (distinct : table.names.Nodup) :
    table.topologicalOrder = table.depthFirst := by
  have agrees := Search.agrees_foldlM_descend distinct Search.marked_initial rfl (List.finRange table.nodes.length)
  rw [map_nameAt_finRange] at agrees
  change Search.Agrees table.depthFirst _ at agrees
  unfold topologicalOrder
  generalize table.depthFirst = order at agrees ⊢
  generalize (List.finRange table.nodes.length).foldlM Search.descend (Search.initial table) = search at agrees ⊢
  cases agrees with
  | refused e => rfl
  | finished marked empty => rfl

/-- The order of a table schedules all of its nodes. -/
theorem scheduled_of_topologicalOrder {order : List String} (distinct : table.names.Nodup)
    (ordered : table.topologicalOrder = .ok order) : table.Scheduled order ∧ table.names ⊆ order :=
  scheduled_of_depthFirst ((topologicalOrder_eq_depthFirst distinct).symm.trans ordered)

/-- A table whose nodes have ranks has an order. -/
theorem exists_topologicalOrder {rank : String → Nat} (distinct : table.names.Nodup)
    (resolved : ∀ node ∈ table.nodes, table.Resolves node) (ranked : table.Ranked rank) :
    ∃ order, table.topologicalOrder = .ok order := by
  rw [topologicalOrder_eq_depthFirst distinct]
  exact exists_depthFirst resolved ranked

end DensityGraph.Table
