import DensityGraph.Table.Basic

/-! # The order of dependencies

An order of all nodes in which each comes after those that it depends on.  The search goes down from one node
after another and keeps the nodes that wait for their dependencies on a stack, so that its own depth does not
grow with that of the table.  A list of nodes in any order makes a table if it could have been declared in some
order.
-/

namespace DensityGraph.Table

/-- How far the search has come with a node. -/
inductive Mark where
  | new
  | active
  | done
  deriving DecidableEq, Repr

/-- A node that waits for its dependencies, with the position of the next one. -/
structure Frame (table : Table) where
  node : Fin table.nodes.length
  next : Nat

/-- The marks of all nodes, the nodes that are done, and those that wait, the last first. -/
structure Search (table : Table) where
  marks : Vector Mark table.nodes.length
  order : List (Fin table.nodes.length)
  stack : List (Frame table)

variable {table : Table}

def nodeAt (table : Table) (place : Fin table.nodes.length) : Node := table.nodes.get place

def place? (table : Table) (name : String) : Option (Fin table.nodes.length) :=
  table.nodes.findFinIdx? fun node => node.name == name

/-- How many turns of the search new nodes can take. -/
def turns : List Mark → List Node → Nat
  | mark :: marks, node :: nodes => (if mark = .new then node.dependencies.length + 1 else 0) + turns marks nodes
  | _, _ => 0

/-- A node takes no more turns than before when its mark changes, and none as a new node if it is no longer
one. -/
theorem turns_set {marks : List Mark} {nodes : List Node} {place : Nat} {mark : Mark} (changed : mark ≠ .new)
    (inside : place < marks.length) (insideNodes : place < nodes.length) :
    turns (marks.set place mark) nodes +
        (if marks[place] = .new then nodes[place].dependencies.length + 1 else 0) = turns marks nodes := by
  induction marks generalizing nodes place with
  | nil => simp at inside
  | cons first rest ih =>
      cases nodes with
      | nil => simp at insideNodes
      | cons node nodes =>
          cases place with
          | zero => simp [turns, changed, Nat.add_comm]
          | succ place =>
              have rest := ih (Nat.lt_of_succ_lt_succ inside) (Nat.lt_of_succ_lt_succ insideNodes)
              simp only [List.set_cons_succ, turns, List.getElem_cons_succ]
              omega

namespace Search

def initial (table : Table) : Search table := ⟨Vector.replicate table.nodes.length .new, [], []⟩

def markAt (search : Search table) (place : Fin table.nodes.length) : Mark := search.marks.get place

def setMark (search : Search table) (place : Fin table.nodes.length) (mark : Mark) : Search table :=
  { search with marks := search.marks.set place mark }

/-- Puts a new node on the stack. -/
def push (search : Search table) (place : Fin table.nodes.length) : Search table :=
  { search.setMark place .active with stack := ⟨place, 0⟩ :: search.stack }

/-- Goes on to the next dependency of the node on top of the others. -/
def advance (search : Search table) (top : Frame table) (below : List (Frame table)) : Search table :=
  { search with stack := ⟨top.node, top.next + 1⟩ :: below }

/-- Takes the node on top of the others off the stack. -/
def pop (search : Search table) (top : Frame table) (below : List (Frame table)) : Search table :=
  { search.setMark top.node .done with order := search.order ++ [top.node], stack := below }

/-- One turn for the node on top of the others: its next dependency is looked at, or it is done. -/
def turn (search : Search table) (top : Frame table) (below : List (Frame table)) :
    Except ModelError (Search table) :=
  match (table.nodeAt top.node).dependencies[top.next]? with
  | none => .ok (search.pop top below)
  | some dependency =>
    match table.place? dependency with
    | none => .error (.unknownReference dependency .node)
    | some place =>
      match search.markAt place with
      | .new => .ok ((search.advance top below).push place)
      | .active => .error (.cycle dependency)
      | .done => .ok (search.advance top below)

/-- How many turns are left at most. -/
def left (search : Search table) : Nat :=
  search.stack.foldr (fun frame others => (table.nodeAt frame.node).dependencies.length - frame.next + 1 + others) 0 +
    turns search.marks.toList table.nodes

variable {search after : Search table} {top : Frame table} {below : List (Frame table)}

theorem left_push {place : Fin table.nodes.length} (new : search.markAt place = .new) :
    (search.push place).left = search.left := by
  have set := @turns_set search.marks.toList table.nodes place .active (by decide) (by simp) place.isLt
  rw [if_pos (by simpa [markAt, Vector.get] using new)] at set
  change _ + ((table.nodeAt place).dependencies.length + 1) = _ at set
  simp only [left, push, setMark, List.foldr_cons, Vector.toList_set]
  omega

theorem left_pop (stacked : search.stack = top :: below) : (search.pop top below).left < search.left := by
  have set := @turns_set search.marks.toList table.nodes top.node .done (by decide) (by simp) top.node.isLt
  simp only [left, pop, setMark, stacked, List.foldr_cons, Vector.toList_set]
  omega

theorem left_advance (stacked : search.stack = top :: below)
    (inside : top.next < (table.nodeAt top.node).dependencies.length) :
    (search.advance top below).left < search.left := by
  simp only [left, advance, stacked, List.foldr_cons]
  omega

theorem left_turn (stacked : search.stack = top :: below) (turned : search.turn top below = .ok after) :
    after.left < search.left := by
  unfold turn at turned
  split at turned
  case h_1 =>
    obtain rfl := Except.ok.inj turned
    exact left_pop stacked
  case h_2 dependency needed =>
    have advanced := left_advance stacked (List.getElem?_eq_some_iff.mp needed).1
    split at turned
    · cases turned
    · split at turned
      case h_1 new =>
        obtain rfl := Except.ok.inj turned
        exact Nat.lt_of_le_of_lt (Nat.le_of_eq (left_push new)) advanced
      case h_2 => cases turned
      case h_3 =>
        obtain rfl := Except.ok.inj turned
        exact advanced

/-- Takes turns until no node waits. -/
def run (search : Search table) : Except ModelError (Search table) :=
  match _ : search.stack with
  | [] => .ok search
  | top :: below =>
    match _ : search.turn top below with
    | .error e => .error e
    | .ok after => after.run
termination_by search.left
decreasing_by exact left_turn ‹_› ‹_›

/-- Goes down from a node unless that has been done. -/
def descend (search : Search table) (start : Fin table.nodes.length) : Except ModelError (Search table) :=
  match search.markAt start with
  | .new => (search.push start).run
  | _ => .ok search

end Search

/-- The names of all nodes, each after all that it depends on. -/
def topologicalOrder (table : Table) : Except ModelError (List String) := do
  let search ← (List.finRange table.nodes.length).foldlM Search.descend (Search.initial table)
  return search.order.map fun place => (table.nodeAt place).name

/-- A free parameter holds a value within valid bounds. -/
def checkFree : Node → Except ModelError Unit
  | .parameter ⟨name, .free value bounds⟩ => do
    let _ ← Parameter.free name value bounds.lower bounds.upper
    return ()
  | _ => .ok ()

/-- Adds the nodes one by one, each under a new name. -/
def pushAll (table : Table) : List Node → Except ModelError Table
  | [] => .ok table
  | node :: rest => do
    table.checkNewName node.name
    checkFree node
    pushAll (table.push node) rest

/-- All that a node depends on is in the table, as a parameter or a density where that is needed. -/
def checkReferences (table : Table) : Node → Except ModelError Unit
  | .parameter p => table.checkParameters p.dependencies
  | .density d => do
    table.checkParameters d.parameterRefs
    table.checkDensities d.densityRefs

def ofNodes (nodes : List Node) : Except ModelError Table := do
  let table ← empty.pushAll nodes
  table.nodes.forM table.checkReferences
  let _ ← table.topologicalOrder
  return table

end DensityGraph.Table
