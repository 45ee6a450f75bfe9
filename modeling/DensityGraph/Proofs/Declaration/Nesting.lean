import DensityGraph.Proofs.Declaration.Hoisting
import DensityGraph.Proofs.Declaration.Reading
import DensityGraph.Proofs.Table.Session

/-!
# Nesting is shorthand

A declaration with nested ones adds what the flat declarations add that it is made
of, one after another.  Only constants may be declared in another order.
-/

namespace DensityGraph.Declaration

open Elaborator

variable {α : Type} {uses names : List String} {table reached : Table} {name n : String}

/-- The flat steps of a declaration keep up with the declaration itself: constants
that were pending before are all that can be missing behind it. -/
def Simulated (declaration : Declaration) : Prop :=
  ∀ ⦃pending ahead behind n reached⦄, Lags pending ahead behind → elaborate declaration ahead = .ok (n, reached) →
    n = declaration.name ∧ ahead.Included reached ∧
      ∃ after, elaborateAll declaration.steps behind = .ok ((), after) ∧ Lags pending reached after

/-- A step adds a new node of a given name. -/
def AddsNode (name : String) (step : Elaborator String) : Prop :=
  ∀ ⦃table n reached⦄, step table = .ok (n, reached) → n = name ∧ name ∉ table.names

theorem addsNode_insertDensity (d : Density) : AddsNode d.name (insertDensity d) := by
  intro table n reached ran
  obtain ⟨_, declared, rfl⟩ := insertDensity_eq_ok.1 ran
  obtain ⟨_, new, _⟩ := Table.declareDensity_eq_ok.1 declared
  exact ⟨rfl, new⟩

/-- What is new after a step was new before. -/
theorem AddsNode.after {first : Elaborator α} {next : α → Elaborator String} (growing : Growing first)
    (adds : ∀ a, AddsNode name (next a)) : AddsNode name (first >>= next) := by
  intro table n reached ran
  obtain ⟨a, middle, firstRan, nextRan⟩ := run_bind_eq_ok.1 ran
  obtain ⟨rfl, new⟩ := adds a nextRan
  exact ⟨rfl, fun old => new ((growing firstRan).included.names_subset old)⟩

theorem addsNode_insertProduct (name : String) (plain : List String) (groups : Groups) :
    AddsNode name (insertProduct name plain groups) := by
  unfold insertProduct
  split
  · exact addsNode_insertDensity _
  · apply AddsNode.after (Growing.check _)
    rintro ⟨joints, left⟩
    split
    · intro table n reached ran
      obtain ⟨_, _, joined, ended⟩ := run_bind_eq_ok.1 ran
      obtain ⟨rfl, _⟩ := run_pure_eq_ok.1 ended
      exact ⟨rfl, (push_of_insertJoint joined).1⟩
    · apply AddsNode.after (growing_insertJoints _ _)
      intro _
      exact addsNode_insertDensity _

/-- Declaring a parameter that does not depend on the table. -/
def insertParameter (made : Except ModelError α) (parameter : α → Parameter) (name : String) : Elaborator String :=
  check (fun _ => made) >>= fun a =>
    change (fun table => table.declareParameter (parameter a)) >>= fun _ => pure name

theorem insertParameter_eq_ok {made : Except ModelError α} {parameter : α → Parameter} :
    insertParameter made parameter name table = .ok (n, reached) ↔
      ∃ a, made = .ok a ∧ table.declareParameter (parameter a) = .ok reached ∧ n = name := by
  simp only [insertParameter, run_bind_eq_ok, check_eq_ok, change_eq_ok, run_pure_eq_ok]
  constructor
  · rintro ⟨a, _, ⟨madeEq, rfl⟩, _, _, declared, rfl, rfl⟩
    exact ⟨a, madeEq, declared, rfl⟩
  · rintro ⟨a, madeEq, declared, rfl⟩
    exact ⟨a, table, ⟨madeEq, rfl⟩, (), reached, declared, rfl, rfl⟩

theorem addsNode_insertParameter {made : Except ModelError α} {parameter : α → Parameter}
    (named : ∀ a, made = .ok a → (parameter a).name = name) : AddsNode name (insertParameter made parameter name) := by
  intro table n reached ran
  obtain ⟨a, madeEq, declared, rfl⟩ := insertParameter_eq_ok.1 ran
  obtain ⟨_, new, _⟩ := Table.declareParameter_eq_ok.1 declared
  rw [named a madeEq] at new
  exact ⟨rfl, new⟩

theorem follows_insertParameter {made : Except ModelError α} {parameter : α → Parameter}
    (fits : ∀ a, made = .ok a → (parameter a).Sound ∧ (parameter a).dependencies ⊆ uses) :
    Follows uses (insertParameter made parameter name) := by
  intro pending ahead behind result reached lags arrived ran
  obtain ⟨a, madeEq, declared, rfl⟩ := insertParameter_eq_ok.1 ran
  obtain ⟨sound, inside⟩ := fits a madeEq
  obtain ⟨after, declaredBehind, others⟩ :=
    lags.declareParameter sound (fun _ needed => arrived (inside needed)) declared
  exact ⟨after, insertParameter_eq_ok.2 ⟨a, madeEq, declaredBehind, rfl⟩, others⟩

theorem mem_uses_of_namesItself {declaration : Declaration} (itself : declaration.flat.namesItself = true) :
    declaration.name ∈ declaration.arguments.flatMap Argument.uses := by
  cases declaration with
  | free => cases itself
  | derived | density => exact Argument.mem_uses_of_anyMentions itself

/-- What a declaration does with its arguments comes after they have been added. -/
theorem Simulated.of_hoists {declaration : Declaration} {args flatArgs : Elaborator α} {fits : α → Prop}
    (insert : α → Elaborator String)
    (hoists : Hoists args (declaration.inside.map flat) flatArgs (declaration.arguments.flatMap Argument.uses) fits)
    (inserts : ∀ a, fits a →
      Follows (declaration.arguments.flatMap Argument.uses) (insert a) ∧ AddsNode declaration.name (insert a))
    (runs : ∀ ⦃table n reached⦄, elaborate declaration table = .ok (n, reached) →
      (args >>= insert) table = .ok (n, reached))
    (runsFlat : ∀ ⦃table n reached⦄, declaration.name ∉ table.names → declaration.flat.namesItself = false →
      (flatArgs >>= insert) table = .ok (n, reached) → elaborate declaration.flat table = .ok (n, reached)) :
    Simulated declaration := by
  intro pending ahead behind n reached lags ran
  obtain ⟨a, middle, argsRan, inserted⟩ := run_bind_eq_ok.1 (runs ran)
  obtain ⟨fitsA, grows, replays, early, earlyRan, lagsEarly⟩ := hoists lags argsRan
  obtain ⟨follows, adds⟩ := inserts a fitsA
  obtain ⟨rfl, new⟩ := adds inserted
  obtain ⟨late, flatRan, lagsLate, _, arrived⟩ := replays (.refl middle) lagsEarly
  obtain ⟨after, insertedBehind, lagsAfter, growsMore, _⟩ := follows (lagsLate.drop arrived) arrived inserted
  refine ⟨rfl, grows.trans growsMore, after, ?_, lagsAfter⟩
  -- the declaration is new when its turn comes, so that it cannot be among the names that it uses
  have newEarly : declaration.name ∉ early.names := fun old => new (lagsEarly.included.names_subset old)
  have notItself : declaration.flat.namesItself = false := by
    rw [← Bool.not_eq_true]
    exact fun mentioned => new (lagsLate.included.names_subset (arrived (mem_uses_of_namesItself mentioned)))
  rw [steps, List.map_append, elaborateAll_append_eq_ok]
  refine ⟨early, earlyRan, elaborateAll_singleton_eq_ok.2 ⟨declaration.name, runsFlat newEarly notItself ?_⟩⟩
  exact run_bind_eq_ok.2 ⟨a, late, flatRan, insertedBehind⟩

/-- A declaration that does not use its own name passes the test. -/
theorem isCircular_eq_false {declaration : Declaration} (notItself : declaration.namesItself = false) :
    isCircular table declaration = false := by
  rw [isCircular, notItself, Bool.and_false]

variable {offset : Nat} {arguments : List Argument} {first : Argument} {rest : List Argument}

theorem simulated_free {value lower upper : Float} : Simulated (.free name value lower upper offset) := by
  have elaborate_eq_ok {table n reached} :
      elaborate (.free name value lower upper offset) table = .ok (n, reached) ↔
        insertParameter (Parameter.free name value lower upper) id name table = .ok (n, reached) := by
    rw [elaborate, elaborateWith]
    apply run_tested_eq_ok.trans
    exact ⟨And.right, fun ran => ⟨isCircular_eq_false rfl, ran⟩⟩
  apply Simulated.of_hoists (fun _ => insertParameter (Parameter.free name value lower upper) id name)
    (@Hoists.pure Unit (fun _ => True) () trivial)
  · intro _ _
    constructor
    · apply follows_insertParameter
      intro p made
      refine ⟨Parameter.free_sound made, ?_⟩
      obtain ⟨_, _, rfl⟩ := Parameter.free_eq_ok.1 made
      exact List.nil_subset _
    · apply addsNode_insertParameter
      intro p made
      obtain ⟨_, _, rfl⟩ := Parameter.free_eq_ok.1 made
      rfl
  · intro table n reached ran
    exact elaborate_eq_ok.1 ran
  · intro table n reached _ _ ran
    exact elaborate_eq_ok.2 ran

theorem simulated_derived {source : String}
    (hoists : Hoists (elaborateParameters isCircular arguments) ((Argument.insideAll arguments).map flat)
      (elaborateParameters isCircular (arguments.map Argument.flat)) (arguments.flatMap Argument.uses)
      (· ⊆ arguments.flatMap Argument.uses)) :
    Simulated (.derived name source arguments offset) := by
  apply Simulated.of_hoists
    (fun names => insertParameter ((Formula.compile source names).mapError .formula) (Parameter.derived name) name)
    hoists
  · intro names inside
    constructor
    · apply follows_insertParameter
      intro formula compiled
      obtain rfl := Formula.dependencies_of_compile (mapError_eq_ok.1 compiled)
      exact ⟨Parameter.sound_derived name formula, inside⟩
    · apply addsNode_insertParameter
      intro formula _
      rfl
  · intro table n reached ran
    rw [elaborate, elaborateWith] at ran
    exact (run_tested_eq_ok.1 ran).2
  · intro table n reached new notItself ran
    rw [flat, elaborate, elaborateWith]
    exact run_tested_eq_ok.2 ⟨isCircular_eq_false notItself, ran⟩

/-- A normal density of three names. -/
def insertGaussian (name : String) : List String → Elaborator String
  | [x, mean, sigma] => insertDensity ⟨name, .gaussian x mean sigma⟩
  | names => throw (.declaration (.arity .gaussian names.length))

theorem elaborate_gaussian {refuses : Test} {x mean sigma : Argument} :
    (elaborateParameters refuses [x, mean, sigma] >>= insertGaussian name) = (do
      let x ← elaborateParameter refuses x
      let mean ← elaborateParameter refuses mean
      let sigma ← elaborateParameter refuses sigma
      insertDensity ⟨name, .gaussian x mean sigma⟩) := by
  simp only [elaborateParameters, bind_assoc, pure_bind, insertGaussian]

theorem simulated_gaussian {x mean sigma : Argument}
    (hoists : Hoists (elaborateParameters isCircular [x, mean, sigma]) ((Argument.insideAll [x, mean, sigma]).map flat)
      (elaborateParameters isCircular ([x, mean, sigma].map Argument.flat)) ([x, mean, sigma].flatMap Argument.uses)
      (· ⊆ [x, mean, sigma].flatMap Argument.uses)) :
    Simulated (.density .gaussian name [x, mean, sigma] offset) := by
  apply Simulated.of_hoists (insertGaussian name) hoists
  · intro names inside
    unfold insertGaussian
    split
    · exact ⟨follows_insertDensity inside, addsNode_insertDensity _⟩
    · constructor
      · intro _ _ _ _ _ _ _ ran
        cases ran
      · intro _ _ _ ran
        cases ran
  · intro table n reached ran
    rw [elaborate, elaborateWith] at ran
    rw [elaborate_gaussian]
    exact (run_tested_eq_ok.1 ran).2
  · intro table n reached new notItself ran
    simp only [List.map_cons, List.map_nil] at ran
    rw [elaborate_gaussian] at ran
    rw [flat, List.map_cons, List.map_cons, List.map_cons, List.map_nil, elaborate, elaborateWith]
    exact run_tested_eq_ok.2 ⟨isCircular_eq_false notItself, ran⟩

theorem simulated_uniform
    (hoists : Hoists (elaborateParameters isCircular (first :: rest)) ((Argument.insideAll (first :: rest)).map flat)
      (elaborateParameters isCircular ((first :: rest).map Argument.flat)) ((first :: rest).flatMap Argument.uses)
      (· ⊆ (first :: rest).flatMap Argument.uses)) :
    Simulated (.density .uniform name (first :: rest) offset) := by
  apply Simulated.of_hoists (fun names => insertDensity ⟨name, .uniform names⟩) hoists
  · intro names inside
    exact ⟨follows_insertDensity (by simpa [Density.dependencies, Density.parameterRefs, Density.densityRefs]),
      addsNode_insertDensity _⟩
  · intro table n reached ran
    rw [elaborate, elaborateWith] at ran
    exact (run_tested_eq_ok.1 ran).2
  · intro table n reached new notItself ran
    rw [flat, List.map_cons, elaborate, elaborateWith]
    exact run_tested_eq_ok.2 ⟨isCircular_eq_false notItself, ran⟩

/-- The names of a mixture are among some given ones. -/
def BranchesWithin (uses : List String) (result : List Branch × String) : Prop :=
  (∀ branch ∈ result.1, branch.weight ∈ uses ∧ branch.density ∈ uses) ∧ result.2 ∈ uses

theorem BranchesWithin.mono {result : List Branch × String} (within : BranchesWithin names result)
    (more : names ⊆ uses) : BranchesWithin uses result :=
  ⟨fun branch member => ⟨more (within.1 branch member).1, more (within.1 branch member).2⟩, more within.2⟩

theorem BranchesWithin.cons {weight part remainder : String} {branches : List Branch}
    (within : BranchesWithin uses (branches, remainder)) (weightUsed : weight ∈ uses) (partUsed : part ∈ uses) :
    BranchesWithin uses (⟨weight, part⟩ :: branches, remainder) :=
  ⟨List.forall_mem_cons.mpr ⟨⟨weightUsed, partUsed⟩, within.1⟩, within.2⟩

theorem simulated_mixture {second : Argument}
    (hoists : Hoists (elaborateBranches isCircular name (first :: second :: rest))
      ((Argument.insideAll (first :: second :: rest)).map flat)
      (elaborateBranches isCircular name ((first :: second :: rest).map Argument.flat))
      ((first :: second :: rest).flatMap Argument.uses)
      (BranchesWithin ((first :: second :: rest).flatMap Argument.uses))) :
    Simulated (.density .mixture name (first :: second :: rest) offset) := by
  apply Simulated.of_hoists (fun result => insertDensity ⟨name, .mixture result.1 result.2⟩) hoists
  · rintro ⟨branches, remainder⟩ ⟨branchesInside, remainderInside⟩
    refine ⟨follows_insertDensity ?_, addsNode_insertDensity _⟩
    intro ref needed
    simp only [Density.dependencies, Density.parameterRefs, Density.densityRefs, List.mem_append, List.mem_map,
      List.mem_singleton] at needed
    rcases needed with ⟨branch, member, rfl⟩ | ⟨branch, member, rfl⟩ | rfl
    · exact (branchesInside branch member).1
    · exact (branchesInside branch member).2
    · exact remainderInside
  · intro table n reached ran
    rw [elaborate, elaborateWith] at ran
    exact (run_tested_eq_ok.1 ran).2
  · intro table n reached new notItself ran
    rw [flat, List.map_cons, List.map_cons, elaborate, elaborateWith]
    exact run_tested_eq_ok.2 ⟨isCircular_eq_false notItself, ran⟩

/-- The names of factors are among some given ones. -/
def FactorsWithin (uses : List String) (result : List String × Groups) : Prop :=
  result.1 ⊆ uses ∧ groupNames result.2 ⊆ uses

theorem simulated_product
    (hoists : Hoists (elaborateFactors isCircular [] [] (first :: rest)) ((Argument.insideAll (first :: rest)).map flat)
      (elaborateFactors isCircular [] [] ((first :: rest).map Argument.flat)) ((first :: rest).flatMap Argument.uses)
      (FactorsWithin ((first :: rest).flatMap Argument.uses))) :
    Simulated (.density .product name (first :: rest) offset) := by
  apply Simulated.of_hoists (fun result => insertProduct name result.1 result.2) hoists
  · rintro ⟨plain, groups⟩ ⟨plainInside, groupsInside⟩
    exact ⟨follows_insertProduct plainInside groupsInside, addsNode_insertProduct name plain groups⟩
  · intro table n reached ran
    rw [elaborate, elaborateWith] at ran
    have guarded := (run_tested_eq_ok.1 ran).2
    simp only [run_bind_eq_ok, run_get_eq_ok, run_guard_eq_ok] at guarded
    obtain ⟨_, _, ⟨rfl, rfl⟩, _, result, middle, added, inserted⟩ := guarded
    exact run_bind_eq_ok.2 ⟨result, middle, added, inserted⟩
  · intro table n reached new notItself ran
    rw [flat, List.map_cons, elaborate, elaborateWith]
    refine run_tested_eq_ok.2 ⟨isCircular_eq_false notItself, ?_⟩
    refine run_bind_eq_ok.2 ⟨table, table, run_get_eq_ok.2 ⟨rfl, rfl⟩, ?_⟩
    exact run_guard_eq_ok.2 ⟨fun old => new (Table.contains_iff.1 old), ran⟩

/-- A nested declaration comes to the lookup of its name. -/
theorem Simulated.hoists {declaration : Declaration} (simulated : Simulated declaration)
    {test : String → Table → Except ModelError α}
    (lookup : Hoists (check (test declaration.name)) [] (check (test declaration.name)) [declaration.name]
      fun _ => True) :
    Hoists (elaborate declaration >>= fun name => check (test name) >>= fun _ => pure name) declaration.steps
      (check (test declaration.name) >>= fun _ => pure declaration.name) [declaration.name]
      (· ∈ [declaration.name]) := by
  intro pending ahead behind result reached lags ran
  obtain ⟨n, middle, added, lookedUp⟩ := run_bind_eq_ok.1 ran
  obtain ⟨rfl, grows, after, stepsRan, lagsAfter⟩ := simulated lags added
  have named := @Hoists.map _ _ _ _ _ _ _ (· ∈ [declaration.name]) (fun _ => declaration.name) lookup
    fun _ _ => List.mem_singleton_self _
  obtain ⟨fits, growsMore, replays, later, stays, lagsLater⟩ := named lagsAfter lookedUp
  obtain ⟨_, rfl⟩ := run_pure_eq_ok.1 stays
  exact ⟨fits, grows.trans growsMore, replays, later, stepsRan, lagsLater⟩

mutual

/-- By induction on the tree: what is nested in the arguments goes ahead of them, and
what the declaration does with their names can wait until they are looked up. -/
theorem simulated_of_written : (declaration : Declaration) → declaration.Written → Simulated declaration
  | .free .., _ => simulated_free
  | .derived name source dependencies offset, written => by
      rw [Written] at written
      exact simulated_derived (hoists_elaborateParameters dependencies written.2)
  | .density .gaussian name [x, mean, sigma] offset, written => by
      rw [Written] at written
      exact simulated_gaussian (hoists_elaborateParameters [x, mean, sigma] written.2)
  | .density .gaussian name [] offset, _ | .density .gaussian name [_] offset, _
  | .density .gaussian name [_, _] offset, _ | .density .gaussian name (_ :: _ :: _ :: _ :: _) offset, _
  | .density .uniform name [] offset, _ | .density .mixture name [] offset, _
  | .density .mixture name [_] offset, _ | .density .product name [] offset, _ => by
      intro _ _ _ _ _ _ ran
      unfold elaborate elaborateWith at ran
      cases (run_tested_eq_ok.1 ran).2
  | .density .uniform name (first :: rest) offset, written => by
      rw [Written] at written
      exact simulated_uniform (hoists_elaborateParameters (first :: rest) written.2)
  | .density .mixture name (first :: second :: rest) offset, written => by
      rw [Written] at written
      exact simulated_mixture (hoists_elaborateBranches name (first :: second :: rest) written.2)
  | .density .product name (first :: rest) offset, written => by
      rw [Written] at written
      apply simulated_product
      apply hoists_elaborateFactors (first :: rest) written.2
      · exact List.nil_subset _
      · exact List.nil_subset _
      · exact List.Subset.refl _

theorem hoists_elaborateParameter : (argument : Argument) → argument.Written →
    Hoists (elaborateParameter isCircular argument) (argument.inside.map flat)
      (elaborateParameter isCircular argument.flat) argument.uses
      (· ∈ argument.uses)
  | .reference name offset, written => by
      rw [Argument.Written] at written
      rw [Argument.flat, elaborateParameter]
      exact (Hoists.parameter written).map _ fun _ _ => List.mem_singleton_self name
  | .constant value text, written => by
      rw [Argument.Written] at written
      rw [Argument.flat, elaborateParameter]
      exact (Hoists.constant written).imp fun _ same => List.mem_singleton.mpr same
  | .nested declaration, written => by
      rw [Argument.Written] at written
      rw [Argument.flat, elaborateParameter, elaborateParameter, Argument.inside]
      exact (simulated_of_written declaration written).hoists (Hoists.parameter written.named)
  | .conditioned part given offset, _ => by
      rw [elaborateParameter]
      exact Hoists.throw
  | .weighted weight part offset, _ => by
      rw [elaborateParameter]
      exact Hoists.throw

theorem hoists_elaborateParameters : (arguments : List Argument) → Argument.AllWritten arguments →
    Hoists (elaborateParameters isCircular arguments) ((Argument.insideAll arguments).map flat)
      (elaborateParameters isCircular (arguments.map Argument.flat)) (arguments.flatMap Argument.uses)
      (· ⊆ arguments.flatMap Argument.uses)
  | [], _ => by
      rw [List.map_nil, elaborateParameters]
      exact Hoists.pure (List.nil_subset _)
  | argument :: rest, written => by
      rw [Argument.AllWritten] at written
      rw [Argument.insideAll, List.map_append, List.map_cons, List.flatMap_cons, elaborateParameters,
        elaborateParameters]
      apply (hoists_elaborateParameter argument written.1).bind
      intro name used
      apply (hoists_elaborateParameters rest written.2).map
      intro names inside
      exact List.cons_subset.mpr ⟨List.mem_append_left _ used, fun _ member => List.mem_append_right _ (inside member)⟩

theorem hoists_elaborateDensity : (argument : Argument) → argument.Written →
    Hoists (elaborateDensity isCircular argument) (argument.inside.map flat)
      (elaborateDensity isCircular argument.flat) argument.uses
      (· ∈ argument.uses)
  | .reference name offset, written => by
      rw [Argument.Written] at written
      rw [Argument.flat, elaborateDensity]
      exact (Hoists.density written).map _ fun _ _ => List.mem_singleton_self name
  | .nested declaration, written => by
      rw [Argument.Written] at written
      rw [Argument.flat, elaborateDensity, elaborateDensity, Argument.inside]
      exact (simulated_of_written declaration written).hoists (Hoists.density written.named)
  | .constant value text, _ | .conditioned part given offset, _ | .weighted weight part offset, _ => by
      rw [elaborateDensity]
      exact Hoists.throw

theorem hoists_elaborateBranches (owner : String) : (arguments : List Argument) → Argument.AllWritten arguments →
    Hoists (elaborateBranches isCircular owner arguments) ((Argument.insideAll arguments).map flat)
      (elaborateBranches isCircular owner (arguments.map Argument.flat)) (arguments.flatMap Argument.uses)
      (BranchesWithin (arguments.flatMap Argument.uses))
  | [], _ => by
      rw [elaborateBranches]
      exact Hoists.throw
  | [remainder], written => by
      rw [Argument.AllWritten] at written
      have hoists := hoists_elaborateDensity remainder written.1
      cases remainder with
      | weighted weight part offset =>
          rw [elaborateBranches]
          exact Hoists.throw
      | _ =>
          simp only [Argument.insideAll, List.map_cons, List.map_nil, List.flatMap_cons, List.flatMap_nil,
            List.append_nil, Argument.flat, elaborateBranches] at hoists ⊢
          apply hoists.map
          intro name used
          exact ⟨List.forall_mem_nil _, used⟩
  | .weighted weight part offset :: second :: rest, written => by
      rw [Argument.AllWritten, Argument.Written] at written
      rw [Argument.insideAll, Argument.inside, List.append_assoc, List.map_append, List.map_append, List.flatMap_cons,
        Argument.uses, List.append_assoc, List.map_cons, List.map_cons, Argument.flat]
      unfold elaborateBranches
      apply (hoists_elaborateParameter weight written.1.1).bind
      intro weightName weightUsed
      apply (hoists_elaborateDensity part written.1.2).bind
      intro partName partUsed
      apply (hoists_elaborateBranches owner (second :: rest) written.2).map
      rintro ⟨branches, remainder⟩ within
      exact (within.mono fun _ used => List.mem_append_right _ (List.mem_append_right _ used)).cons
        (List.mem_append_left _ weightUsed) (List.mem_append_right _ (List.mem_append_left _ partUsed))
  | .reference .. :: _ :: _, _ | .constant .. :: _ :: _, _ | .nested _ :: _ :: _, _
  | .conditioned .. :: _ :: _, _ => by
      unfold elaborateBranches
      exact Hoists.throw

theorem hoists_elaborateFactors {within plain : List String} {groups : Groups} :
    (arguments : List Argument) → Argument.AllWritten arguments → plain ⊆ within → groupNames groups ⊆ within →
      arguments.flatMap Argument.uses ⊆ within →
      Hoists (elaborateFactors isCircular plain groups arguments) ((Argument.insideAll arguments).map flat)
        (elaborateFactors isCircular plain groups (arguments.map Argument.flat)) (arguments.flatMap Argument.uses)
        (FactorsWithin within)
  | [], _, plainInside, groupsInside, _ => by
      rw [List.map_nil, elaborateFactors]
      exact Hoists.pure ⟨plainInside, groupsInside⟩
  | argument :: rest, written, plainInside, groupsInside, usesInside => by
      rw [Argument.AllWritten] at written
      rw [List.flatMap_cons] at usesInside ⊢
      obtain ⟨argumentInside, restInside⟩ := List.append_subset.mp usesInside
      have density := hoists_elaborateDensity argument written.1
      rw [Argument.insideAll, List.map_append, List.map_cons]
      cases argument with
      | conditioned part given offset =>
          rw [Argument.Written] at written
          obtain ⟨partInside, givenInside⟩ := List.append_subset.mp argumentInside
          rw [Argument.inside, Argument.uses, List.append_assoc, Argument.flat, elaborateFactors, elaborateFactors]
          apply (hoists_elaborateDensity part written.1.1).bind
          intro name used
          apply (Hoists.parameter written.1.2).bind
          intro _ _
          apply hoists_elaborateFactors rest written.2 plainInside _ restInside
          intro ref member
          have new := groupNames_addToGroup given name groups member
          simp only [List.mem_cons] at new
          rcases new with rfl | rfl | old
          · exact givenInside (List.mem_singleton_self _)
          · exact partInside used
          · exact groupsInside old
      | _ =>
          rw [Argument.flat] at density ⊢
          unfold elaborateFactors
          apply density.bind
          intro name used
          apply hoists_elaborateFactors rest written.2 _ groupsInside restInside
          exact List.append_subset.mpr ⟨plainInside, List.cons_subset.mpr ⟨argumentInside used, List.nil_subset _⟩⟩

end

end DensityGraph.Declaration

namespace DensityGraph

open Declaration

variable {table : Table}

/-- In every table that can be reached nesting is shorthand.  A declaration that
can be added can be added in flat steps, and all names stand for the same nodes in
the end.  All trees that are read from a text are written as texts are. -/
theorem Table.Reached.flat_steps_agree (reached : table.Reached) :
    (∀ text declaration, parse text = .ok declaration → declaration.Written) ∧
      ∀ declaration : Declaration, declaration.Written → ∀ name nested,
        declaration.elaborate.run table = .ok (name, nested) →
          (∀ step ∈ declaration.steps, step.inside = []) ∧
            ∃ stepwise, (elaborateAll declaration.steps).run table = .ok ((), stepwise) ∧
              ∀ other, stepwise.find? other = nested.find? other := by
  refine ⟨fun _ _ => written_of_parse, ?_⟩
  intro declaration written name nested ran
  refine ⟨fun _ => inside_of_mem_steps, ?_⟩
  obtain ⟨_, _, stepwise, stepsRan, lags⟩ :=
    simulated_of_written declaration written (Lags.refl (reached_iff.1 reached)) ran
  refine ⟨stepwise, stepsRan, fun other => ?_⟩
  by_cases declared : other ∈ stepwise.names
  · exact (lags.included.find?_eq declared).symm
  · -- nothing is pending at the end, so that both tables have the same names
    have absent : other ∉ nested.names := by
      intro behindOnly
      obtain ⟨isPending, _⟩ := lags.missing other behindOnly declared
      cases isPending
    rw [find?_eq_none_iff.2 declared, find?_eq_none_iff.2 absent]

/-- The weight is declared first with the nested declaration, and last by the flat
steps. -/
theorem flat_steps_agree_mixture :
    ∃ declaration nested stepwise,
      parse "SUM::model(0.3*Gaussian::g(x[-5,5],m[0],1),Uniform::u(x))" = .ok declaration ∧
        declaration.elaborate.run .empty = .ok ("model", nested) ∧
          nested.names = ["0.3", "x", "m", "1", "g", "u", "model"] ∧
            (elaborateAll declaration.steps).run .empty = .ok ((), stepwise) ∧
              stepwise.names = ["x", "m", "1", "g", "u", "0.3", "model"] ∧
                ∀ other, stepwise.find? other = nested.find? other := by
  let test (declaration : Declaration) : Bool :=
    ((declaration.elaborate.run .empty).toOption.any fun added =>
      added.1 == "model" && added.2.names == ["0.3", "x", "m", "1", "g", "u", "model"]) &&
    ((elaborateAll declaration.steps).run .empty).toOption.any fun stepped =>
      stepped.2.names == ["x", "m", "1", "g", "u", "0.3", "model"]
  obtain ⟨declaration, parsed, tested⟩ := @exists_ok_of_any _ _
    (parse "SUM::model(0.3*Gaussian::g(x[-5,5],m[0],1),Uniform::u(x))") test (by decide +kernel)
  obtain ⟨testedNested, testedSteps⟩ := Bool.and_eq_true_iff.mp tested
  obtain ⟨⟨name, nested⟩, ran, expected⟩ := exists_ok_of_any testedNested
  obtain ⟨named, order⟩ := Bool.and_eq_true_iff.mp expected
  obtain rfl : name = "model" := eq_of_beq named
  have reached : Table.empty.Reached := ⟨[], rfl⟩
  obtain ⟨written, steps⟩ := reached.flat_steps_agree
  obtain ⟨_, stepwise, stepsRan, agree⟩ := steps declaration (written _ _ parsed) "model" nested ran
  rw [stepsRan] at testedSteps
  exact ⟨declaration, nested, stepwise, parsed, ran, eq_of_beq order, stepsRan, eq_of_beq testedSteps, agree⟩

end DensityGraph
