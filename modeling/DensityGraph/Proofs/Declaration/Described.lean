import DensityGraph.Proofs.Composition.Variables
import DensityGraph.Proofs.Declaration.Flat
import Mathlib.Data.List.Induction

/-!
# What a declaration describes

A declaration describes the nodes that it makes on its own, once all that its
arguments stand for is declared: the joints of a product first, and the node of
its own name at last.  Numbers among its arguments stand for constants.
-/

namespace DensityGraph

open Declaration.Elaborator (Groups Joint addToGroup jointName)

namespace Argument

/-- The name of the node that an argument stands for, whatever it is weighted with or
conditioned on. -/
def target : Argument → String
  | reference name _ => name
  | constant _ text => text
  | nested declaration => declaration.name
  | conditioned density _ _ => density.target
  | weighted _ density _ => density.target

/-- The branch that a weighted argument makes. -/
def branch? : Argument → Option Branch
  | weighted weight density _ => some ⟨weight.target, density.target⟩
  | _ => none

/-- The factor that an argument without a condition makes. -/
def plain? : Argument → Option String
  | conditioned .. => none
  | argument => some argument.target

/-- What an argument is conditioned on, and the conditional. -/
def condition? : Argument → Option (String × String)
  | conditioned density given _ => some (given, density.target)
  | _ => none

def plainFactors (arguments : List Argument) : List String := arguments.filterMap plain?

def conditions (arguments : List Argument) : List (String × String) := arguments.filterMap condition?

end Argument

mutual

/-- The constants that the numbers in a declaration stand for, those of nested
declarations included. -/
def Declaration.constants : Declaration → List Parameter
  | .free .. => []
  | .derived _ _ dependencies _ => Argument.constantsAll dependencies
  | .density _ _ arguments _ => Argument.constantsAll arguments

def Argument.constants : Argument → List Parameter
  | .reference .. => []
  | .constant value text => [⟨text, .free value ⟨value, value⟩⟩]
  | .nested declaration => declaration.constants
  | .conditioned density _ _ => density.constants
  | .weighted weight density _ => weight.constants ++ density.constants

def Argument.constantsAll : List Argument → List Parameter
  | [] => []
  | argument :: rest => argument.constants ++ Argument.constantsAll rest

end

namespace Declaration

/-- The conditionals by what they are conditioned on, both in the order in which they
are written. -/
def grouped (conditions : List (String × String)) : Groups :=
  (Table.unique (conditions.map Prod.fst)).map fun given =>
    (given, (conditions.filter fun condition => condition.1 = given).map Prod.snd)

/-- A conditional joins its group, or begins one. -/
theorem addToGroup_map {keys : List String} (distinct : keys.Nodup) (members : String → List String)
    (given conditional : String) :
    addToGroup given conditional (keys.map fun key => (key, members key)) =
      if given ∈ keys then keys.map fun key => (key, members key ++ if key = given then [conditional] else [])
      else (keys.map fun key => (key, members key)) ++ [(given, [conditional])] := by
  induction keys with
  | nil => simp [addToGroup]
  | cons key rest ih =>
      obtain ⟨new, distinctRest⟩ := List.nodup_cons.mp distinct
      rw [List.map_cons, addToGroup]
      by_cases same : key = given
      · subst same
        have others : (rest.map fun key' => (key', members key' ++ if key' = key then [conditional] else [])) =
            rest.map fun key' => (key', members key') := by
          apply List.map_congr_left
          intro other member
          have different : other ≠ key := fun equal => new (equal ▸ member)
          rw [if_neg different, List.append_nil]
        rw [if_pos rfl, if_pos List.mem_cons_self, List.map_cons, if_pos rfl, others]
      · rw [if_neg same, ih distinctRest]
        by_cases later : given ∈ rest
        · rw [if_pos later, if_pos (List.mem_cons_of_mem _ later), List.map_cons, if_neg same, List.append_nil]
        · have absent : given ∉ key :: rest := by
            rw [List.mem_cons, not_or]
            exact ⟨fun equal => same equal.symm, later⟩
          rw [if_neg later, if_neg absent, List.cons_append]

theorem unique_append_singleton {names : List String} {name : String} :
    Table.unique (names ++ [name]) =
      if name ∈ names then Table.unique names else Table.unique names ++ [name] := by
  have last : Table.unique (names ++ [name]) =
      if (Table.unique names).contains name then Table.unique names else Table.unique names ++ [name] := by
    rw [Table.unique, List.foldl_append]
    rfl
  rw [last]
  simp only [List.contains_iff_mem, Table.mem_unique]

theorem grouped_append_singleton {conditions : List (String × String)} {given conditional : String} :
    grouped (conditions ++ [(given, conditional)]) = addToGroup given conditional (grouped conditions) := by
  unfold grouped
  rw [addToGroup_map (Table.nodup_unique _), List.map_append, List.map_singleton, unique_append_singleton]
  simp only [Table.mem_unique, List.filter_append, List.map_append]
  by_cases old : given ∈ conditions.map Prod.fst
  · rw [if_pos old, if_pos old]
    apply List.map_congr_left
    intro key _
    by_cases same : key = given
    · simp [same]
    · have different : given ≠ key := fun equal => same equal.symm
      simp [same, different]
  · rw [if_neg old, if_neg old, List.map_append, List.map_singleton]
    congr 1
    · apply List.map_congr_left
      intro key member
      have different : given ≠ key := fun equal => old (equal ▸ Table.mem_unique.1 member)
      simp [different]
    · have none : conditions.filter (fun condition => condition.1 = given) = [] := by
        rw [List.filter_eq_nil_iff]
        intro condition member conditioned
        exact old (List.mem_map.mpr ⟨condition, member, by simpa using conditioned⟩)
      simp [none]

/-- Adding conditionals one after another groups them. -/
theorem foldl_addToGroup (conditions : List (String × String)) :
    conditions.foldl (fun groups condition => addToGroup condition.1 condition.2 groups) [] = grouped conditions := by
  induction conditions using List.reverseRecOn with
  | nil => rfl
  | append_singleton before condition ih =>
      rw [List.foldl_append, ih, List.foldl_cons, List.foldl_nil, grouped_append_singleton]

/-- The conditionals of a product are bound to its only other factor, so that the
product is their joint. -/
def BoundDirectly (arguments : List Argument) : Prop :=
  (grouped (Argument.conditions arguments)).length = 1 ∧ (Argument.plainFactors arguments).length = 1

instance (arguments : List Argument) : Decidable (BoundDirectly arguments) :=
  inferInstanceAs (Decidable (_ ∧ _))

/-- The names of the joints that a declaration makes besides its own node. -/
def joints : Declaration → List String
  | .density .product name arguments _ =>
      if BoundDirectly arguments then []
      else (grouped (Argument.conditions arguments)).map fun group =>
        name ++ "_" ++ "_".intercalate group.2 ++ "_given_" ++ group.1
  | _ => []

def jointDensity (name : String) (joint : Joint) : Density :=
  ⟨name, .conditionalJoint joint.shared joint.marginal joint.conditionals⟩

/-- The nodes that a declaration makes on its own, in order.  Every joint of a product
takes one of the other factors for its marginal, and the product keeps those that are
left over. -/
inductive Makes : Declaration → List Node → Prop where
  | free {name : String} {value lower upper : Float} {offset : Nat} :
      Makes (.free name value lower upper offset) [.parameter ⟨name, .free value ⟨lower, upper⟩⟩]
  | derived {name source : String} {dependencies : List Argument} {offset : Nat} {formula : Formula}
      (compiled : Formula.compile source (dependencies.map Argument.target) = .ok formula) :
      Makes (.derived name source dependencies offset) [.parameter (.derived name formula)]
  | gaussian {name : String} {x mean sigma : Argument} {offset : Nat} :
      Makes (.density .gaussian name [x, mean, sigma] offset)
        [.density ⟨name, .gaussian x.target mean.target sigma.target⟩]
  | uniform {name : String} {arguments : List Argument} {offset : Nat} :
      Makes (.density .uniform name arguments offset)
        [.density ⟨name, .uniform (arguments.map Argument.target)⟩]
  | mixture {name : String} {weighted : List Argument} {remainder : Argument} {branches : List Branch} {offset : Nat}
      (weighs : weighted.map Argument.branch? = branches.map some) (unweighted : remainder.branch? = none) :
      Makes (.density .mixture name (weighted ++ [remainder]) offset)
        [.density ⟨name, .mixture branches remainder.target⟩]
  | direct {name given marginal : String} {conditionals : List String} {arguments : List Argument} {offset : Nat}
      (conditions : grouped (Argument.conditions arguments) = [(given, conditionals)])
      (other : Argument.plainFactors arguments = [marginal]) :
      Makes (.density .product name arguments offset)
        [.density ⟨name, .conditionalJoint given marginal conditionals⟩]
  | product {name : String} {arguments : List Argument} {offset : Nat} {joints : List Joint} {left : List String}
      (apart : ¬ BoundDirectly arguments)
      (conditions : joints.map (fun joint => (joint.shared, joint.conditionals)) =
        grouped (Argument.conditions arguments))
      (taken : (joints.map (·.marginal) ++ left).Perm (Argument.plainFactors arguments))
      (order : left.Sublist (Argument.plainFactors arguments)) :
      Makes (.density .product name arguments offset)
        (joints.map (fun joint => .density (jointDensity (jointName name joint) joint)) ++
          [.density ⟨name, .product (joints.map (jointName name) ++ left)⟩])

/-- The nodes that some declarations make, one after another. -/
inductive AllMake : List Declaration → List Node → Prop where
  | nil : AllMake [] []
  | cons {declaration : Declaration} {declarations : List Declaration} {nodes others : List Node}
      (makes : declaration.Makes nodes) (rest : AllMake declarations others) :
      AllMake (declaration :: declarations) (nodes ++ others)

variable {declaration : Declaration} {first second : List Declaration} {nodes others : List Node} {name : String}

theorem AllMake.append (make : AllMake first nodes) (makeOthers : AllMake second others) :
    AllMake (first ++ second) (nodes ++ others) := by
  induction make with
  | nil => exact makeOthers
  | cons makes _ ih =>
      rw [List.cons_append, List.append_assoc]
      exact .cons makes ih

theorem AllMake.singleton (makes : declaration.Makes nodes) : AllMake [declaration] nodes := by
  rw [← List.append_nil nodes]
  exact .cons makes .nil

/-- The joints of a declaration come first, and what it declares comes last. -/
theorem Makes.names (makes : declaration.Makes nodes) :
    nodes.map Node.name = declaration.joints ++ [declaration.name] := by
  cases makes with
  | free | derived _ | gaussian | uniform | mixture _ _ => rfl
  | direct conditions other =>
      have direct : BoundDirectly _ := ⟨congrArg List.length conditions, congrArg List.length other⟩
      rw [joints, if_pos direct]
      rfl
  | product apart conditions taken order =>
      rw [joints, if_neg apart, ← conditions, List.map_append, List.map_map, List.map_map]
      rfl

theorem AllMake.names (make : AllMake first nodes) :
    nodes.map Node.name = first.flatMap fun declaration => declaration.joints ++ [declaration.name] := by
  induction make with
  | nil => rfl
  | cons makes _ ih => rw [List.map_append, makes.names, ih, List.flatMap_cons]

theorem Named.append (named : Named name) (rest : String) : Named (name ++ rest) := by
  obtain ⟨first, others, spelled, begins⟩ := named
  exact ⟨first, others ++ rest.toList, by rw [String.toList_append, spelled, List.cons_append], begins⟩

/-- The name of a joint begins with the name of its product. -/
theorem named_of_mem_joints (named : Named declaration.name) (member : name ∈ declaration.joints) : Named name := by
  unfold joints at member
  split at member
  · split at member
    · cases member
    · obtain ⟨group, _, rfl⟩ := List.mem_map.mp member
      simp only [String.append_assoc]
      exact named.append _
  · cases member

/-- The declarations are written, and no constant has the name of a node. -/
structure Apart (declarations : List Declaration) (constants : List Parameter) : Prop where
  written : ∀ declaration ∈ declarations, declaration.Written
  unnamed : ∀ p ∈ constants, ¬ Named p.name

theorem Apart.nil : Apart [] [] :=
  ⟨List.forall_mem_nil _, List.forall_mem_nil _⟩

theorem Apart.append {constants more : List Parameter} (apart : Apart first constants) (others : Apart second more) :
    Apart (first ++ second) (constants ++ more) :=
  ⟨List.forall_mem_append.mpr ⟨apart.written, others.written⟩, List.forall_mem_append.mpr ⟨apart.unnamed, others.unnamed⟩⟩

end Declaration

open Declaration (Apart)

mutual

theorem Declaration.Written.apart : (declaration : Declaration) → declaration.Written →
    Apart declaration.inside declaration.constants
  | .free .., _ => by
      rw [Declaration.inside, Declaration.constants]
      exact .nil
  | .derived _ _ arguments _, written | .density _ _ arguments _, written => by
      rw [Declaration.Written] at written
      rw [Declaration.inside, Declaration.constants]
      exact Argument.AllWritten.apart arguments written.2

theorem Argument.Written.apart : (argument : Argument) → argument.Written → Apart argument.inside argument.constants
  | .reference .., _ => by
      rw [Argument.inside, Argument.constants]
      exact .nil
  | .constant .., written => by
      rw [Argument.Written] at written
      rw [Argument.inside, Argument.constants]
      exact ⟨List.forall_mem_nil _, List.forall_mem_singleton.mpr written.1⟩
  | .nested declaration, written => by
      rw [Argument.Written] at written
      rw [Argument.inside, Argument.constants, ← List.append_nil declaration.constants]
      exact (Declaration.Written.apart declaration written).append
        ⟨List.forall_mem_singleton.mpr written, List.forall_mem_nil _⟩
  | .conditioned density given _, written => by
      rw [Argument.Written] at written
      rw [Argument.inside, Argument.constants]
      exact Argument.Written.apart density written.1
  | .weighted weight density _, written => by
      rw [Argument.Written] at written
      rw [Argument.inside, Argument.constants]
      exact (Argument.Written.apart weight written.1).append (Argument.Written.apart density written.2)

theorem Argument.AllWritten.apart : (arguments : List Argument) → Argument.AllWritten arguments →
    Apart (Argument.insideAll arguments) (Argument.constantsAll arguments)
  | [], _ => by
      rw [Argument.insideAll, Argument.constantsAll]
      exact .nil
  | argument :: rest, written => by
      rw [Argument.AllWritten] at written
      rw [Argument.insideAll, Argument.constantsAll]
      exact (Argument.Written.apart argument written.1).append (Argument.AllWritten.apart rest written.2)

end

end DensityGraph
