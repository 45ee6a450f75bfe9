import DensityGraph.Proofs.Declaration.ConditionalPair
import DensityGraph.Proofs.Declaration.Flat
import DensityGraph.Proofs.Table.Included

/-!
# Tables that lag behind

Constants are declared where they are met, so that a declaration with nested ones
and the flat declarations that it is made of declare them at different moments.  In
between, one table lags behind the other: it lacks nothing but constants, which are
still pending.  What adds a density or a parameter to the table in front adds it to
the one that lags behind, if that one has all that is used.
-/

namespace DensityGraph

theorem Table.Grows.included {start table : Table} (grows : start.Grows table) : start.Included table := by
  induction grows with
  | refl => exact .refl start
  | parameter _ _ _ declared ih =>
      obtain ⟨_, _, _, rfl⟩ := declareParameter_eq_ok.1 declared
      exact ih.push_right
  | density _ _ declared ih =>
      obtain ⟨_, _, _, _, _, rfl⟩ := declareDensity_eq_ok.1 declared
      exact ih.push_right

namespace Declaration

open Elaborator

variable {α β : Type} {pending uses : List String} {ahead behind reached after table : Table} {name text : String}

/-- A name is that of the constant that its text stands for. -/
def IsConstant (table : Table) (text : String) : Prop :=
  ∃ value, IsNumeral value text ∧ table.find? text = some (.parameter ⟨text, .free value ⟨value, value⟩⟩)

theorem IsConstant.push {node : Node} (isConstant : IsConstant table text) : IsConstant (table.push node) text := by
  obtain ⟨value, numeral, found⟩ := isConstant
  exact ⟨value, numeral, (Table.Included.refl table).push_right found⟩

/-- One table lags behind another: it lacks nothing but pending constants. -/
structure Lags (pending : List String) (ahead behind : Table) : Prop where
  aheadWellFormed : ahead.WellFormed
  behindWellFormed : behind.WellFormed
  included : behind.Included ahead
  missing : ∀ text ∈ ahead.names, text ∉ behind.names → text ∈ pending ∧ IsConstant ahead text

namespace Lags

theorem refl (wellFormed : table.WellFormed) : Lags [] table table :=
  ⟨wellFormed, wellFormed, .refl table, fun _ declared absent => absurd declared absent⟩

theorem mono (lags : Lags pending ahead behind) {more : List String} (fewer : pending ⊆ more) :
    Lags more ahead behind :=
  ⟨lags.aheadWellFormed, lags.behindWellFormed, lags.included, fun text declared absent =>
    ⟨fewer (lags.missing text declared absent).1, (lags.missing text declared absent).2⟩⟩

/-- What is there is no longer pending. -/
theorem drop (lags : Lags (pending ++ uses) ahead behind) (arrived : uses ⊆ behind.names) :
    Lags pending ahead behind := by
  refine ⟨lags.aheadWellFormed, lags.behindWellFormed, lags.included, ?_⟩
  intro text declared absent
  obtain ⟨isPending, isConstant⟩ := lags.missing text declared absent
  rcases List.mem_append.mp isPending with old | arrivedNow
  · exact ⟨old, isConstant⟩
  · exact absurd (arrived arrivedNow) absent

/-- No name of a node is pending. -/
theorem mem_of_named (lags : Lags pending ahead behind) (named : Named name) (declared : name ∈ ahead.names) :
    name ∈ behind.names := by
  by_contra absent
  obtain ⟨_, _, ⟨notNamed, _⟩, _⟩ := lags.missing name declared absent
  exact notNamed named

/-- A node that both tables get is not pending. -/
theorem push (lags : Lags pending ahead behind) {node : Node} (new : node.name ∉ ahead.names)
    (aheadWellFormed : (ahead.push node).WellFormed) (behindWellFormed : (behind.push node).WellFormed) :
    Lags pending (ahead.push node) (behind.push node) := by
  refine ⟨aheadWellFormed, behindWellFormed, lags.included.push new, ?_⟩
  intro text declared absent
  simp only [Table.names_push, List.mem_append, List.mem_singleton, not_or] at declared absent
  obtain ⟨isPending, isConstant⟩ := lags.missing text (declared.resolve_right absent.2) absent.1
  exact ⟨isPending, isConstant.push⟩

/-- Both tables have room for a parameter that the first one gets. -/
theorem declareParameter (lags : Lags pending ahead behind) {p : Parameter} (sound : p.Sound)
    (inside : p.dependencies ⊆ behind.names) (declared : ahead.declareParameter p = .ok reached) :
    ∃ after, behind.declareParameter p = .ok after ∧ Lags pending reached after ∧ ahead.Included reached ∧
      behind.Included after := by
  have reachedWellFormed := lags.aheadWellFormed.declareParameter sound declared
  obtain ⟨valid, new, dependencies, rfl⟩ := Table.declareParameter_eq_ok.1 declared
  have newBehind : p.name ∉ behind.names := fun old => new (lags.included.names_subset old)
  have declaredBehind : behind.declareParameter p = .ok (behind.push (.parameter p)) := by
    refine Table.declareParameter_eq_ok.2 ⟨valid, newBehind, fun name needed => ⟨(dependencies name needed).1, ?_⟩, rfl⟩
    exact lags.included.hasParameter_of_mem (inside needed) (dependencies name needed).2
  have afterWellFormed := lags.behindWellFormed.declareParameter sound declaredBehind
  exact ⟨_, declaredBehind, lags.push new reachedWellFormed afterWellFormed, (Table.Included.refl ahead).push_right,
    (Table.Included.refl behind).push_right⟩

/-- Both tables have room for a density that makes sense in the first one. -/
theorem declareDensity (lags : Lags pending ahead behind) {d : Density} (inside : d.dependencies ⊆ behind.names)
    (validated : ahead.validate d true = .ok ()) (declared : ahead.declareDensity d = .ok reached) :
    behind.validate d true = .ok () ∧ ∃ after, behind.declareDensity d = .ok after ∧ Lags pending reached after ∧
      ahead.Included reached ∧ behind.Included after := by
  have reachedWellFormed := lags.aheadWellFormed.declareDensity declared
  obtain ⟨valid, new, notItself, parameters, parts, rfl⟩ := Table.declareDensity_eq_ok.1 declared
  have newBehind : d.name ∉ behind.names := fun old => new (lags.included.names_subset old)
  have declaredBehind : behind.declareDensity d = .ok (behind.push (.density d)) := by
    refine Table.declareDensity_eq_ok.2 ⟨valid, newBehind, notItself, ?_, ?_, rfl⟩
    · intro ref needed
      exact lags.included.hasParameter_of_mem (inside (List.mem_append_left _ needed)) (parameters ref needed)
    · intro ref needed
      exact lags.included.hasDensity_of_mem (inside (List.mem_append_right _ needed)) (parts ref needed)
  have afterWellFormed := lags.behindWellFormed.declareDensity declaredBehind
  refine ⟨lags.included.validate_of_mem lags.behindWellFormed.toStructured lags.aheadWellFormed.toStructured inside
    parameters validated, _, declaredBehind, ?_⟩
  exact ⟨lags.push new reachedWellFormed afterWellFormed, (Table.Included.refl ahead).push_right,
    (Table.Included.refl behind).push_right⟩

end Lags

/-- A step that succeeds on a table succeeds with the same result on one that lags
behind it and has all that is used. -/
def Follows (uses : List String) (step : Elaborator α) : Prop :=
  ∀ ⦃pending ahead behind result reached⦄, Lags pending ahead behind → uses ⊆ behind.names →
    step ahead = .ok (result, reached) →
      ∃ after, step behind = .ok (result, after) ∧ Lags pending reached after ∧ ahead.Included reached ∧
        behind.Included after

namespace Follows

theorem bind {first : Elaborator α} {next : α → Elaborator β} (firstFollows : Follows uses first)
    (nextFollows : ∀ table a changed, first table = .ok (a, changed) → Follows uses (next a)) :
    Follows uses (first >>= next) := by
  intro pending ahead behind result reached lags arrived ran
  obtain ⟨a, middle, firstRan, nextRan⟩ := run_bind_eq_ok.1 ran
  obtain ⟨middleBehind, firstBehind, lagsMiddle, grows, growsBehind⟩ := firstFollows lags arrived firstRan
  have arrivedMiddle : uses ⊆ middleBehind.names := fun _ used => growsBehind.names_subset (arrived used)
  obtain ⟨after, nextBehind, lagsAfter, growsMore, growsMoreBehind⟩ :=
    nextFollows _ _ _ firstRan lagsMiddle arrivedMiddle nextRan
  exact ⟨after, run_bind_eq_ok.2 ⟨a, middleBehind, firstBehind, nextBehind⟩, lagsAfter, grows.trans growsMore,
    growsBehind.trans growsMoreBehind⟩

theorem pure (a : α) : Follows uses (pure a) := by
  intro pending ahead behind result reached lags _ ran
  obtain ⟨rfl, rfl⟩ := run_pure_eq_ok.1 ran
  exact ⟨behind, rfl, lags, .refl _, .refl _⟩

/-- A check that both tables answer alike. -/
theorem check {test : Table → Except ModelError α}
    (agree : ∀ ⦃pending ahead behind a⦄, Lags pending ahead behind → uses ⊆ behind.names → test ahead = .ok a →
      test behind = .ok a) : Follows uses (Elaborator.check test) := by
  intro pending ahead behind result reached lags arrived ran
  obtain ⟨tested, rfl⟩ := check_eq_ok.1 ran
  exact ⟨behind, check_eq_ok.2 ⟨agree lags arrived tested, rfl⟩, lags, .refl _, .refl _⟩

/-- What is new to a table is new to one that lags behind it. -/
theorem newName {e : ModelError} {step : Elaborator α} (follows : Follows uses step) :
    Follows uses (get >>= fun seen =>
      if seen.contains name = true then MonadExcept.throw e >>= fun (_ : Unit) => step else step) := by
  intro pending ahead behind result reached lags arrived ran
  obtain ⟨_, _, got, guarded⟩ := run_bind_eq_ok.1 ran
  obtain ⟨rfl, rfl⟩ := run_get_eq_ok.1 got
  obtain ⟨new, stepRan⟩ := run_guard_eq_ok.1 guarded
  obtain ⟨after, stepBehind, others⟩ := follows lags arrived stepRan
  refine ⟨after, run_bind_eq_ok.2 ⟨behind, behind, run_get_eq_ok.2 ⟨rfl, rfl⟩, run_guard_eq_ok.2 ⟨?_, stepBehind⟩⟩,
    others⟩
  rw [Table.contains_iff] at new ⊢
  exact fun old => new (lags.included.names_subset old)

end Follows

variable {d : Density}

/-- Adding a density comes to its check and its declaration. -/
theorem insertDensity_eq_ok :
    insertDensity d table = .ok (name, reached) ↔
      table.validate d true = .ok () ∧ table.declareDensity d = .ok reached ∧ name = d.name := by
  simp only [insertDensity, run_bind_eq_ok, run_get_eq_ok, run_guard_eq_ok, check_eq_ok, change_eq_ok, run_pure_eq_ok]
  constructor
  · rintro ⟨_, _, ⟨rfl, rfl⟩, _, _, _, ⟨_, rfl⟩, _, _, ⟨_, rfl⟩, _, _, ⟨validated, rfl⟩, _, _, declared, rfl, rfl⟩
    exact ⟨validated, declared, rfl⟩
  · rintro ⟨validated, declared, rfl⟩
    obtain ⟨_, new, _, parameters, parts, _⟩ := Table.declareDensity_eq_ok.1 declared
    exact ⟨table, table, ⟨rfl, rfl⟩, fun old => new (Table.contains_iff.1 old), (), table,
      ⟨Table.checkParameters_eq_ok.2 parameters, rfl⟩, (), table, ⟨Table.checkDensities_eq_ok.2 parts, rfl⟩, (), table,
      ⟨validated, rfl⟩, (), reached, declared, rfl, rfl⟩

theorem follows_insertDensity (inside : d.dependencies ⊆ uses) : Follows uses (insertDensity d) := by
  intro pending ahead behind result reached lags arrived ran
  obtain ⟨validated, declared, rfl⟩ := insertDensity_eq_ok.1 ran
  obtain ⟨validatedBehind, after, declaredBehind, others⟩ :=
    lags.declareDensity (fun _ needed => arrived (inside needed)) validated declared
  exact ⟨after, insertDensity_eq_ok.2 ⟨validatedBehind, declaredBehind, rfl⟩, others⟩

/-- The shared parameter of a joint and its parts. -/
def Elaborator.Joint.refs (joint : Joint) : List String := joint.shared :: joint.marginal :: joint.conditionals

/-- A joint is new and becomes the last node. -/
theorem push_of_insertJoint {joint : Joint} (ran : insertJoint name joint table = .ok ((), reached)) :
    name ∉ table.names ∧
      reached = table.push (.density ⟨name, .conditionalJoint joint.shared joint.marginal joint.conditionals⟩) := by
  obtain ⟨d, made, declared⟩ := insertJoint_eq_ok.1 ran
  obtain ⟨_, rfl⟩ := validate_of_conditionalJoint made
  obtain ⟨_, new, _, _, _, rfl⟩ := Table.declareDensity_eq_ok.1 declared
  exact ⟨new, rfl⟩

theorem follows_insertJoint {joint : Joint} (inside : joint.refs ⊆ uses) : Follows uses (insertJoint name joint) := by
  intro pending ahead behind result reached lags arrived ran
  obtain ⟨d, made, declared⟩ := insertJoint_eq_ok.1 ran
  obtain ⟨validated, rfl⟩ := validate_of_conditionalJoint made
  have parts : Density.dependencies ⟨name, .conditionalJoint joint.shared joint.marginal joint.conditionals⟩ ⊆ uses :=
    inside
  obtain ⟨validatedBehind, after, declaredBehind, others⟩ :=
    lags.declareDensity (fun _ needed => arrived (parts needed)) validated declared
  obtain ⟨_, _, _, _, partsBehind, _⟩ := Table.declareDensity_eq_ok.1 declaredBehind
  refine ⟨after, insertJoint_eq_ok.2 ⟨_, conditionalJoint_eq_ok.2 ⟨partsBehind, ?_, rfl⟩, declaredBehind⟩, others⟩
  exact Table.sensible_of_validate validatedBehind

theorem follows_insertJoints {owner : String} {joints : List Joint} (inside : ∀ joint ∈ joints, joint.refs ⊆ uses) :
    Follows uses (insertJoints owner joints) := by
  induction joints with
  | nil => exact Follows.pure []
  | cons joint rest ih =>
      rw [List.forall_mem_cons] at inside
      unfold insertJoints
      apply Follows.newName
      apply (follows_insertJoint inside.1).bind
      intro _ _ _ _
      apply (ih inside.2).bind
      intro _ _ _ _
      exact Follows.pure _

/-- The factor that is taken stood among the others. -/
theorem split_of_takeGenerator {shared marginal : String} {before plain left : List String}
    (taken : takeGenerator table shared before plain = .ok (some (marginal, left))) :
    ∃ front back, plain = front ++ marginal :: back ∧ left = before.reverse ++ (front ++ back) := by
  induction plain generalizing before with
  | nil => cases taken
  | cons candidate rest ih =>
      rw [takeGenerator] at taken
      split at taken
      · cases taken
      · split at taken
        · obtain ⟨rfl, rfl⟩ := Prod.mk.inj (Option.some.inj (Except.ok.inj taken))
          exact ⟨[], rest, rfl, rfl⟩
        · obtain ⟨front, back, rfl, rfl⟩ := ih taken
          exact ⟨candidate :: front, back, rfl, by simp⟩

theorem Lags.takeGenerator (lags : Lags pending ahead behind) {shared : String} {before plain : List String}
    {result : Option (String × List String)} (inside : plain ⊆ behind.names)
    (taken : Elaborator.takeGenerator ahead shared before plain = .ok result) :
    Elaborator.takeGenerator behind shared before plain = .ok result := by
  induction plain generalizing before with
  | nil => exact taken
  | cons candidate rest ih =>
      rw [List.cons_subset] at inside
      rw [Elaborator.takeGenerator] at taken ⊢
      cases generated : ahead.generatedVariables candidate with
      | error e =>
          rw [generated] at taken
          cases taken
      | ok vars =>
          rw [lags.included.generates_of_mem lags.behindWellFormed.toStructured inside.1 generated]
          rw [generated] at taken
          dsimp only at taken ⊢
          split at taken
          · rename_i drawn
            rw [if_pos drawn]
            exact taken
          · rename_i notDrawn
            rw [if_neg notDrawn]
            exact ih inside.2 taken

/-- The names in some groups of conditionals. -/
def groupNames (groups : Groups) : List String := groups.flatMap fun group => group.1 :: group.2

theorem groupNames_addToGroup (given conditional : String) (groups : Groups) :
    groupNames (addToGroup given conditional groups) ⊆ given :: conditional :: groupNames groups := by
  induction groups with
  | nil => exact List.Subset.refl _
  | cons group rest ih =>
      obtain ⟨own, members⟩ := group
      rw [addToGroup]
      split
      · intro name used
        simp only [groupNames, List.flatMap_cons, List.mem_append, List.mem_cons] at used ⊢
        tauto
      · intro name used
        simp only [groupNames, List.flatMap_cons, List.mem_append, List.mem_cons] at used ih ⊢
        rcases used with inGroup | inRest
        · tauto
        · have := ih inRest
          simp only [List.mem_cons] at this
          tauto

theorem Lags.pair (lags : Lags pending ahead behind) {owner : String} {plain : List String} {groups : Groups}
    {result : List Joint × List String} (inside : plain ⊆ behind.names)
    (paired : Elaborator.pair ahead owner plain groups = .ok result) :
    Elaborator.pair behind owner plain groups = .ok result := by
  induction groups generalizing plain result with
  | nil => exact paired
  | cons group rest ih =>
      obtain ⟨shared, conditionals⟩ := group
      rw [Elaborator.pair] at paired ⊢
      split at paired
      · cases paired
      · cases paired
      · rename_i marginal others taken
        rw [lags.takeGenerator inside taken]
        obtain ⟨front, back, rfl, rfl⟩ := split_of_takeGenerator taken
        have fewer : [].reverse ++ (front ++ back) ⊆ behind.names := fun _ member =>
          inside (((List.Sublist.refl front).append (List.sublist_cons_self marginal back)).subset member)
        dsimp only at paired ⊢
        split at paired
        · cases paired
        · rename_i joints left restPaired
          rw [ih fewer restPaired]
          exact paired

/-- Every group gets a factor of its own, and the others are left over in order. -/
theorem pair_splits {owner : String} {plain left : List String} {groups : Groups} {joints : List Joint}
    (paired : pair table owner plain groups = .ok (joints, left)) :
    joints.map (fun joint => (joint.shared, joint.conditionals)) = groups ∧
      (joints.map (·.marginal) ++ left).Perm plain ∧ left.Sublist plain := by
  induction groups generalizing plain joints with
  | nil =>
      obtain ⟨rfl, rfl⟩ := Prod.mk.inj (Except.ok.inj paired)
      exact ⟨rfl, .refl _, .refl _⟩
  | cons group rest ih =>
      obtain ⟨shared, conditionals⟩ := group
      rw [pair] at paired
      split at paired
      · cases paired
      · cases paired
      · rename_i marginal others taken
        split at paired
        · cases paired
        · rename_i restJoints restLeft restPaired
          obtain ⟨rfl, rfl⟩ := Prod.mk.inj (Except.ok.inj paired)
          obtain ⟨front, back, rfl, rfl⟩ := split_of_takeGenerator taken
          obtain ⟨grouped, perm, order⟩ := ih restPaired
          refine ⟨by rw [List.map_cons, grouped], ?_, ?_⟩
          · rw [List.reverse_nil, List.nil_append] at perm
            exact (perm.cons marginal).trans List.perm_middle.symm
          · exact order.trans ((List.Sublist.refl front).append (List.sublist_cons_self marginal back))

theorem pair_subset {owner : String} {plain left : List String} {groups : Groups} {joints : List Joint}
    (paired : Elaborator.pair table owner plain groups = .ok (joints, left)) :
    left ⊆ plain ∧ ∀ joint ∈ joints, joint.refs ⊆ plain ++ groupNames groups := by
  obtain ⟨rfl, taken, order⟩ := pair_splits paired
  refine ⟨order.subset, ?_⟩
  intro joint member
  have isPlain : joint.marginal ∈ plain :=
    taken.subset (List.mem_append_left _ (List.mem_map_of_mem member))
  have isGroup : joint.shared :: joint.conditionals ⊆
      groupNames (joints.map fun joint => (joint.shared, joint.conditionals)) := by
    intro name used
    exact List.mem_flatMap.mpr ⟨_, List.mem_map_of_mem member, used⟩
  obtain ⟨shared, conditionals⟩ := List.cons_subset.mp isGroup
  refine List.cons_subset.mpr ⟨List.mem_append_right _ shared, List.cons_subset.mpr ⟨List.mem_append_left _ isPlain, ?_⟩⟩
  exact fun name used => List.mem_append_right _ (conditionals used)

/-- The joints of a product are found under the names that they get. -/
theorem names_of_insertJoints {owner : String} {joints : List Joint} {names : List String}
    (ran : insertJoints owner joints table = .ok (names, reached)) : names ⊆ reached.names := by
  induction joints generalizing table names with
  | nil =>
      obtain ⟨rfl, _⟩ := run_pure_eq_ok.1 ran
      exact List.nil_subset _
  | cons joint rest ih =>
      simp only [insertJoints, run_bind_eq_ok, run_get_eq_ok, run_guard_eq_ok, run_pure_eq_ok] at ran
      obtain ⟨_, _, ⟨rfl, rfl⟩, _, _, middle, joined, others, _, restRan, rfl, rfl⟩ := ran
      obtain ⟨_, rfl⟩ := push_of_insertJoint joined
      apply List.cons_subset.mpr ⟨?_, ih restRan⟩
      apply (growing_insertJoints owner rest restRan).included.names_subset
      rw [Table.names_push]
      exact List.mem_append_right _ (List.mem_singleton_self _)

theorem follows_insertProduct {plain : List String} {groups : Groups} (plainInside : plain ⊆ uses)
    (groupsInside : groupNames groups ⊆ uses) : Follows uses (insertProduct name plain groups) := by
  unfold insertProduct
  split
  · exact follows_insertDensity (by simpa [Density.dependencies, Density.parameterRefs, Density.densityRefs])
  · apply Follows.bind
    · apply Follows.check
      intro pending ahead behind result lags arrived paired
      exact lags.pair (fun _ member => arrived (plainInside member)) paired
    · rintro table ⟨joints, left⟩ changed ran
      obtain ⟨leftSubset, jointsInside⟩ := pair_subset (check_eq_ok.1 ran).1
      have inside : ∀ joint ∈ joints, joint.refs ⊆ uses := by
        intro joint member name used
        rcases List.mem_append.mp (jointsInside joint member used) with isPlain | inGroup
        · exact plainInside isPlain
        · exact groupsInside inGroup
      split
      · rename_i joint same
        obtain ⟨rfl, rfl⟩ := Prod.mk.inj same
        apply (follows_insertJoint (inside joint List.mem_cons_self)).bind
        intro _ _ _ _
        exact Follows.pure _
      · rename_i others kept _ same
        obtain ⟨rfl, rfl⟩ := Prod.mk.inj same
        intro pending ahead behind result reached lags arrived ran
        obtain ⟨names, middle, joined, inserted⟩ := run_bind_eq_ok.1 ran
        obtain ⟨middleBehind, joinedBehind, lagsMiddle, grows, growsBehind⟩ :=
          follows_insertJoints inside lags arrived joined
        -- the product uses the names of the joints that have just been added
        have arrivedMiddle : names ++ uses ⊆ middleBehind.names :=
          List.append_subset.mpr ⟨names_of_insertJoints joinedBehind, fun _ used => growsBehind.names_subset (arrived used)⟩
        have factors : (Density.mk name (.product (names ++ left))).dependencies ⊆ names ++ uses := by
          intro factor member
          simp only [Density.dependencies, Density.parameterRefs, Density.densityRefs, List.nil_append,
            List.mem_append] at member ⊢
          exact member.imp id fun other => plainInside (leftSubset other)
        obtain ⟨after, insertedBehind, lagsAfter, growsMore, growsMoreBehind⟩ :=
          follows_insertDensity factors lagsMiddle arrivedMiddle inserted
        exact ⟨after, run_bind_eq_ok.2 ⟨names, middleBehind, joinedBehind, insertedBehind⟩, lagsAfter,
          grows.trans growsMore, growsBehind.trans growsMoreBehind⟩

end Declaration

end DensityGraph
