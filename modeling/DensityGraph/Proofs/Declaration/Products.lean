import DensityGraph.Proofs.Declaration.Appended

/-!
# Products of conditionals

A product neither loses nor repeats a factor.  The factors that are conditioned on
one parameter make one joint, whose marginal is a plain factor that draws this
parameter, and every other plain factor stays behind the joints as it is.  A product
that consists of a single joint is that joint.  What the product draws is what its
arguments draw.
-/

namespace DensityGraph

open Declaration (AllMake Gains grouped BoundDirectly jointDensity elaborate declares_elaborateWith)
open Declaration.Elaborator (Joint jointName)

namespace Argument

variable {arguments : List Argument} {holds : String → Prop}

/-- Every argument is a plain factor or a conditional. -/
theorem exists_target_iff :
    (∃ argument ∈ arguments, holds argument.target) ↔
      (∃ part ∈ plainFactors arguments, holds part) ∨ ∃ condition ∈ conditions arguments, holds condition.2 := by
  induction arguments with
  | nil => simp [plainFactors, conditions]
  | cons first rest ih =>
      rw [List.exists_mem_cons_iff, ih]
      cases first with
      | conditioned density given offset =>
          have added :
              conditions (conditioned density given offset :: rest) = (given, density.target) :: conditions rest := rfl
          rw [added, List.exists_mem_cons_iff]
          exact or_left_comm
      | reference _ _ | constant _ _ | nested _ | weighted _ _ _ =>
          have added : ∀ first, plain? first = some first.target →
              plainFactors (first :: rest) = first.target :: plainFactors rest :=
            fun first plain => List.filterMap_cons_some plain
          rw [added _ rfl, List.exists_mem_cons_iff, or_assoc]
          rfl

end Argument

namespace Declaration

variable {table : Table} {name : String} {arguments : List Argument} {joints : List Joint} {left : List String}

/-- Joints for the conditionals of a product, and the plain factors that they leave. -/
structure SharesOut (table : Table) (arguments : List Argument) (joints : List Joint) (left : List String) : Prop where
  /-- there is one joint for each parameter that a factor is conditioned on -/
  distinct : (joints.map (·.shared)).Nodup
  shared : ∀ given, given ∈ joints.map (·.shared) ↔ given ∈ (Argument.conditions arguments).map Prod.fst
  conditionals : ∀ joint ∈ joints, joint.conditionals =
    ((Argument.conditions arguments).filter fun condition => condition.1 = joint.shared).map Prod.snd
  drawn : ∀ joint ∈ joints, table.Draws joint.marginal joint.shared
  /-- a plain factor is a marginal or is left, and as often as it is written -/
  once : (joints.map (·.marginal) ++ left).Perm (Argument.plainFactors arguments)
  order : left.Sublist (Argument.plainFactors arguments)

/-- The nodes of a product with joints and other factors. -/
def productNodes (name : String) (joints : List Joint) (left : List String) : List Node :=
  match joints, left with
  | [joint], [] => [.density (jointDensity name joint)]
  | joints, left =>
    joints.map (fun joint => .density (jointDensity (jointName name joint) joint)) ++
      [.density ⟨name, .product (joints.map (jointName name) ++ left)⟩]

theorem productNodes_of_several (several : ∀ joint, joints = [joint] → left ≠ []) :
    productNodes name joints left =
      joints.map (fun joint => .density (jointDensity (jointName name joint) joint)) ++
        [.density ⟨name, .product (joints.map (jointName name) ++ left)⟩] := by
  unfold productNodes
  split
  · exact absurd rfl (several _ rfl)
  · rfl

/-- What a product makes, with all that is known of its joints but what they draw. -/
theorem exists_joints_of_makes {offset : Nat} {own : List Node}
    (makes : Makes (.density .product name arguments offset) own) :
    ∃ joints left, own = productNodes name joints left ∧
      joints.map (fun joint => (joint.shared, joint.conditionals)) = grouped (Argument.conditions arguments) ∧
      (joints.map (·.marginal) ++ left).Perm (Argument.plainFactors arguments) ∧
      left.Sublist (Argument.plainFactors arguments) := by
  cases makes with
  | @direct _ given marginal conditionals _ _ conditions other =>
      refine ⟨[⟨given, conditionals, marginal⟩], [], rfl, conditions.symm, ?_, List.nil_sublist _⟩
      rw [other]
      exact .refl _
  | product apart conditions taken order =>
      refine ⟨_, _, (productNodes_of_several ?_).symm, conditions, taken, order⟩
      rintro joint rfl rfl
      apply apart
      rw [BoundDirectly, ← conditions, ← taken.length_eq]
      exact ⟨rfl, rfl⟩

theorem sharesOut_of_grouped
    (conditions : joints.map (fun joint => (joint.shared, joint.conditionals)) = grouped (Argument.conditions arguments))
    (drawn : ∀ joint ∈ joints, table.Draws joint.marginal joint.shared)
    (once : (joints.map (·.marginal) ++ left).Perm (Argument.plainFactors arguments))
    (order : left.Sublist (Argument.plainFactors arguments)) : SharesOut table arguments joints left := by
  have sharedEq : joints.map (·.shared) = Table.unique ((Argument.conditions arguments).map Prod.fst) := by
    have keys := congrArg (List.map Prod.fst) conditions
    simpa [grouped, Function.comp_def] using keys
  constructor
  case distinct =>
    rw [sharedEq]
    exact Table.nodup_unique _
  case shared =>
    intro given
    rw [sharedEq, Table.mem_unique]
  case conditionals =>
    intro joint member
    have group : (joint.shared, joint.conditionals) ∈ grouped (Argument.conditions arguments) := by
      rw [← conditions]
      exact List.mem_map_of_mem member
    obtain ⟨given, _, same⟩ := List.mem_map.mp group
    obtain ⟨rfl, members⟩ := Prod.mk.inj same
    exact members.symm
  case drawn => exact drawn
  case once => exact once
  case order => exact order

/-- What the joints and the other factors refer to is what the arguments stand for. -/
theorem SharesOut.exists_part_iff (shares : SharesOut table arguments joints left) (holds : String → Prop) :
    ((∃ joint ∈ joints, ∃ part ∈ joint.marginal :: joint.conditionals, holds part) ∨ ∃ part ∈ left, holds part) ↔
      ∃ argument ∈ arguments, holds argument.target := by
  rw [Argument.exists_target_iff]
  have plain : (∃ part ∈ Argument.plainFactors arguments, holds part) ↔
      (∃ joint ∈ joints, holds joint.marginal) ∨ ∃ part ∈ left, holds part := by
    simp only [← shares.once.mem_iff, List.mem_append, List.mem_map, or_and_right, exists_or,
      exists_exists_and_eq_and]
  have conditional : (∃ condition ∈ Argument.conditions arguments, holds condition.2) ↔
      ∃ joint ∈ joints, ∃ part ∈ joint.conditionals, holds part := by
    constructor
    · rintro ⟨condition, member, holdsIt⟩
      obtain ⟨joint, isJoint, same⟩ := List.mem_map.mp ((shares.shared condition.1).2 (List.mem_map_of_mem member))
      refine ⟨joint, isJoint, condition.2, ?_, holdsIt⟩
      rw [shares.conditionals joint isJoint]
      exact List.mem_map_of_mem (List.mem_filter.mpr ⟨member, by simp [same]⟩)
    · rintro ⟨joint, isJoint, part, member, holdsIt⟩
      rw [shares.conditionals joint isJoint] at member
      obtain ⟨condition, filtered, rfl⟩ := List.mem_map.mp member
      exact ⟨condition, (List.mem_filter.mp filtered).1, holdsIt⟩
  rw [plain, conditional]
  simp only [List.exists_mem_cons_iff, and_or_left, exists_or]
  rw [or_right_comm]

theorem SharesOut.plain (shares : SharesOut table arguments joints left)
    (unconditioned : Argument.conditions arguments = []) :
    joints = [] ∧ left = Argument.plainFactors arguments := by
  have none : joints = [] := by
    rw [← List.map_eq_nil_iff, List.eq_nil_iff_forall_not_mem]
    intro given member
    have conditioned := (shares.shared given).1 member
    rw [unconditioned] at conditioned
    cases conditioned
  have once := shares.once
  rw [none] at once
  exact ⟨none, shares.order.eq_of_length once.length_eq⟩

/-- Every joint of a product is a node of its own, or that of the product. -/
theorem exists_joint_node {joint : Joint} (member : joint ∈ joints) :
    ∃ own, .density (jointDensity own joint) ∈ productNodes name joints left := by
  unfold productNodes
  split
  · obtain rfl := List.mem_singleton.mp member
    exact ⟨name, List.mem_singleton_self _⟩
  · exact ⟨jointName name joint, List.mem_append_left _ (List.mem_map.mpr ⟨joint, member, rfl⟩)⟩

/-- There is one joint and nothing besides. -/
def IsJoint (joints : List Joint) (left : List String) : Prop := joints.length = 1 ∧ left = []

/-- The table has the nodes of a product. -/
def HoldsProduct (table : Table) (name : String) (joints : List Joint) (left : List String) : Prop :=
  ∀ node ∈ productNodes name joints left, node ∈ table.nodes

namespace HoldsProduct

variable {part x : String}

theorem density_of_isJoint (holds : HoldsProduct table name joints left) (distinct : table.names.Nodup)
    (isJoint : IsJoint joints left) :
    ∃ joint, joints = [joint] ∧ left = [] ∧ table.density name = .ok (jointDensity name joint) := by
  obtain ⟨single, rfl⟩ := isJoint
  obtain ⟨joint, rfl⟩ := List.length_eq_one_iff.mp single
  exact ⟨joint, rfl, rfl, Table.density_eq_ok.2 (Table.find?_of_mem distinct (holds _ (List.mem_singleton_self _)))⟩

theorem density_of_not_isJoint (holds : HoldsProduct table name joints left) (distinct : table.names.Nodup)
    (several : ¬ IsJoint joints left) :
    (∀ joint ∈ joints, table.density (jointName name joint) = .ok (jointDensity (jointName name joint) joint)) ∧
      table.density name = .ok ⟨name, .product (joints.map (jointName name) ++ left)⟩ := by
  have found : ∀ d, .density d ∈ productNodes name joints left → table.density d.name = .ok d :=
    fun d member => Table.density_eq_ok.2 (Table.find?_of_mem distinct (holds _ member))
  have apart : ∀ joint, joints = [joint] → left ≠ [] := by
    rintro joint rfl rfl
    exact several ⟨rfl, rfl⟩
  rw [productNodes_of_several apart] at found
  refine ⟨?_, found _ (List.mem_append_right _ (List.mem_singleton_self _))⟩
  intro joint member
  exact found _ (List.mem_append_left _ (List.mem_map.mpr ⟨joint, member, rfl⟩))

/-- The name of a product is that of a joint exactly if there is nothing else. -/
theorem bound_iff (holds : HoldsProduct table name joints left) (distinct : table.names.Nodup) :
    (∃ joint ∈ joints, table.density name = .ok (jointDensity name joint)) ↔ IsJoint joints left := by
  constructor
  · rintro ⟨joint, _, bound⟩
    by_contra several
    cases bound.symm.trans (holds.density_of_not_isJoint distinct several).2
  · intro isJoint
    obtain ⟨joint, rfl, _, found⟩ := holds.density_of_isJoint distinct isJoint
    exact ⟨joint, List.mem_singleton_self _, found⟩

/-- A product without conditions is the product of its factors. -/
theorem density_of_plain (holds : HoldsProduct table name joints left) (distinct : table.names.Nodup)
    (shares : SharesOut table arguments joints left) (unconditioned : Argument.conditions arguments = []) :
    table.density name = .ok ⟨name, .product (Argument.plainFactors arguments)⟩ := by
  obtain ⟨rfl, rfl⟩ := shares.plain unconditioned
  apply (holds.density_of_not_isJoint distinct _).2
  rintro ⟨impossible, _⟩
  cases impossible

theorem hasDensity (holds : HoldsProduct table name joints left) (distinct : table.names.Nodup) :
    table.HasDensity name := by
  rw [Table.hasDensity_iff]
  by_cases isJoint : IsJoint joints left
  · obtain ⟨joint, _, _, found⟩ := holds.density_of_isJoint distinct isJoint
    exact ⟨_, found⟩
  · exact ⟨_, (holds.density_of_not_isJoint distinct isJoint).2⟩

/-- All that the nodes of a product refer to is declared. -/
theorem hasDensity_of_part (holds : HoldsProduct table name joints left) (structured : table.Structured)
    (needed : (∃ joint ∈ joints, ∃ used ∈ joint.marginal :: joint.conditionals, used = part) ∨
      ∃ used ∈ left, used = part) :
    table.HasDensity part := by
  by_cases isJoint : IsJoint joints left
  · obtain ⟨joint, rfl, rfl, found⟩ := holds.density_of_isJoint structured.distinct isJoint
    obtain ⟨_, single, _, used, rfl⟩ | ⟨_, none, _⟩ := needed
    · obtain rfl := List.mem_singleton.mp single
      exact structured.hasDensity_part found used
    · cases none
  · obtain ⟨foundJoints, found⟩ := holds.density_of_not_isJoint structured.distinct isJoint
    obtain ⟨joint, member, _, used, rfl⟩ | ⟨_, used, rfl⟩ := needed
    · exact structured.hasDensity_part (foundJoints joint member) used
    · exact structured.hasDensity_part found (List.mem_append_right _ used)

/-- A product draws what the parts of its joints and its other factors draw. -/
theorem draws_iff (holds : HoldsProduct table name joints left) (structured : table.Structured) :
    table.Draws name x ↔
      (∃ joint ∈ joints, ∃ part ∈ joint.marginal :: joint.conditionals, table.Draws part x) ∨
        ∃ part ∈ left, table.Draws part x := by
  have draws_joint : ∀ {own joint}, table.density own = .ok (jointDensity own joint) →
      (table.Draws own x ↔ ∃ part ∈ joint.marginal :: joint.conditionals, table.Draws part x) :=
    fun found => structured.draws_composite found trivial
  by_cases isJoint : IsJoint joints left
  · obtain ⟨joint, rfl, rfl, found⟩ := holds.density_of_isJoint structured.distinct isJoint
    rw [draws_joint found]
    simp
  · obtain ⟨foundJoints, found⟩ := holds.density_of_not_isJoint structured.distinct isJoint
    have inner : (∃ part ∈ joints.map (jointName name), table.Draws part x) ↔
        ∃ joint ∈ joints, ∃ part ∈ joint.marginal :: joint.conditionals, table.Draws part x := by
      simp only [List.mem_map, exists_exists_and_eq_and]
      apply exists_congr
      intro joint
      exact and_congr_right fun member => draws_joint (foundJoints joint member)
    rw [structured.draws_composite found trivial, ← inner]
    simp only [Density.densityRefs, List.mem_append, or_and_right, exists_or]

/-- A product draws what its arguments draw. -/
theorem exists_generated (holds : HoldsProduct table name joints left) (structured : table.Structured)
    (shares : SharesOut table arguments joints left) :
    ∃ vars, table.generatedVariables name = .ok vars ∧
      ∀ x, x ∈ vars ↔ ∃ argument ∈ arguments, table.Draws argument.target x := by
  obtain ⟨vars, generated⟩ := structured.exists_generatedVariables (holds.hasDensity structured.distinct)
  refine ⟨vars, generated, fun x => ?_⟩
  rw [← shares.exists_part_iff fun part => table.Draws part x, ← holds.draws_iff structured]
  constructor
  · exact fun member => ⟨vars, generated, member⟩
  · rintro ⟨varsToo, generatedToo, member⟩
    obtain rfl := Except.ok.inj (generated.symm.trans generatedToo)
    exact member

end HoldsProduct

/-- What declaring a product does to a table. -/
structure DeclaresProduct (table : Table) (name : String) (arguments : List Argument) (changed : Table)
    (joints : List Joint) (left : List String) : Prop where
  /-- behind what the arguments declare stand the joints and the product, and nothing else -/
  nodes : ∃ middle added made, AllMake (Argument.insideAll arguments) made ∧
    Gains table added made (Argument.constantsAll arguments) middle ∧
    changed.nodes = middle.nodes ++ productNodes name joints left
  shares : SharesOut changed arguments joints left
  plain : Argument.conditions arguments = [] →
    changed.density name = .ok ⟨name, .product (Argument.plainFactors arguments)⟩
  joint : (∃ joint ∈ joints, changed.density name = .ok (jointDensity name joint)) ↔ IsJoint joints left
  several : ¬ IsJoint joints left →
    (∀ joint ∈ joints, changed.density (jointName name joint) = .ok (jointDensity (jointName name joint) joint)) ∧
      changed.density name = .ok ⟨name, .product (joints.map (jointName name) ++ left)⟩
  factors : ∀ argument ∈ arguments, ∃ vars, changed.generatedVariables argument.target = .ok vars
  draws : ∃ vars, changed.generatedVariables name = .ok vars ∧
    ∀ x, x ∈ vars ↔ ∃ argument ∈ arguments, changed.Draws argument.target x

end Declaration

open Declaration (DeclaresProduct HoldsProduct)

/-- On a table that a session reaches, a product that can be declared shares out its plain factors among one
joint for each parameter that is conditioned on, and keeps the others. -/
theorem Table.Reached.product_shares_out {table changed : Table} (reached : table.Reached) {name result : String}
    {arguments : List Argument} {offset : Nat}
    (ran : (elaborate (.density .product name arguments offset)).run table = .ok (result, changed)) :
    result = name ∧ ∃ joints left, DeclaresProduct table name arguments changed joints left := by
  have wellFormed := reached_iff.1 reached
  have grows : table.Grows changed := Declaration.growing_elaborateWith _ ran
  have structured := (grows.wellFormed wellFormed).toStructured
  obtain ⟨named, middle, added, made, own, make, gains, makes, appended⟩ := declares_elaborateWith _ ran
  obtain rfl : name = result := named.symm
  obtain ⟨joints, left, rfl, conditions, once, order⟩ := Declaration.exists_joints_of_makes makes
  have holds : HoldsProduct changed name joints left := by
    intro node member
    rw [appended]
    exact List.mem_append_right _ member
  have drawn : ∀ joint ∈ joints, changed.Draws joint.marginal joint.shared := by
    intro joint member
    obtain ⟨owner, isNode⟩ := Declaration.exists_joint_node member
    have gainsAll := gains.trans (Declaration.gains_of_append appended)
    have validated := (gainsAll.validate grows wellFormed (List.mem_append_right _ isNode)).2
    exact (sensible_of_validate validated).2.2.1
  have shares := Declaration.sharesOut_of_grouped conditions drawn once order
  refine ⟨rfl, joints, left, ?_⟩
  constructor
  case nodes => exact ⟨middle, added, made, make, gains, appended⟩
  case shares => exact shares
  case plain => exact fun unconditioned => holds.density_of_plain structured.distinct shares unconditioned
  case joint => exact holds.bound_iff structured.distinct
  case several => exact holds.density_of_not_isJoint structured.distinct
  case factors =>
    intro argument member
    have used := (shares.exists_part_iff (· = argument.target)).2 ⟨argument, member, rfl⟩
    exact structured.exists_generatedVariables (holds.hasDensity_of_part structured used)
  case draws => exact holds.exists_generated structured shares

/-- Two normal densities around one mean, the width of one of which is drawn by a flat density. -/
def separateFactors : Table :=
  ⟨[.parameter ⟨"x", .free 0 ⟨-5, 5⟩⟩,
    .parameter ⟨"y", .free 0 ⟨-5, 5⟩⟩,
    .parameter ⟨"m", .free 1 ⟨1, 1⟩⟩,
    .parameter ⟨"s", .free 1 ⟨0.5, 2⟩⟩,
    .density ⟨"g", .gaussian "x" "m" "s"⟩,
    .density ⟨"h", .gaussian "y" "m" "m"⟩,
    .density ⟨"u", .uniform ["s"]⟩]⟩

/-- The arguments `h, g|s, u` of a product. -/
def separateArguments : List Argument :=
  [.reference "h" 0, .conditioned (.reference "g" 2) "s" 2, .reference "u" 6]

theorem product_shares_out_separate :
    ∃ changed joints left, separateFactors.Reached ∧
      (elaborate (.density .product "p" separateArguments 0)).run separateFactors = .ok ("p", changed) ∧
      changed.names.drop separateFactors.size = ["p_g_given_s", "p"] ∧
      DeclaresProduct separateFactors "p" separateArguments changed joints left := by
  have accepted : (Table.ofNodes separateFactors.nodes).toBool = true := by decide +kernel
  obtain ⟨table, loaded⟩ := exists_ok_of_toBool accepted
  obtain ⟨rfl, wellFormed⟩ := Table.ofNodes_eq_ok.1 loaded
  have reached : separateFactors.Reached := Table.reached_iff.2 wellFormed
  let check (declared : String × Table) : Bool :=
    declared.1 == "p" && declared.2.names.drop separateFactors.size == ["p_g_given_s", "p"]
  obtain ⟨⟨name, changed⟩, ran, checked⟩ := @exists_ok_of_any _ _
    ((elaborate (.density .product "p" separateArguments 0)).run separateFactors) check (by decide +kernel)
  simp only [check, Bool.and_eq_true, beq_iff_eq] at checked
  obtain ⟨rfl, names⟩ := checked
  obtain ⟨_, joints, left, declares⟩ := reached.product_shares_out ran
  exact ⟨changed, joints, left, reached, ran, names, declares⟩

end DensityGraph
