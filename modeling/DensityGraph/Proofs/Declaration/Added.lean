import DensityGraph.Proofs.Declaration.Described
import DensityGraph.Proofs.Declaration.Hoisting

/-!
# The nodes that a declaration adds

Declaring a tree puts new nodes behind those of the table: what the nested
declarations make, each behind what is nested in it, then what the declaration
itself makes.  Among them stand the constants that had not been declared before.
-/

namespace DensityGraph.Declaration

open Elaborator

variable {α β : Type} {table middle changed : Table} {declaration : Declaration} {early later : List Declaration}
  {added addedMore made others : List Node} {constants more : List Parameter} {name text : String}
  {fits : α → Prop} {fitsTo : β → Prop}

/-- A table gets new nodes behind its own: all that are made, in order, and among them
constants that it lacked. -/
structure Gains (table : Table) (added made : List Node) (constants : List Parameter) (changed : Table) : Prop where
  nodes : changed.nodes = table.nodes ++ added
  inOrder : made.Sublist added
  origin : ∀ node ∈ added, node ∈ made ∨ ∃ p ∈ constants, node = .parameter p
  covered : ∀ p ∈ constants, p.name ∈ changed.names

theorem Gains.refl (table : Table) : Gains table [] [] [] table :=
  ⟨(List.append_nil _).symm, .slnil, List.forall_mem_nil _, List.forall_mem_nil _⟩

theorem gains_of_append (appended : changed.nodes = table.nodes ++ made) : Gains table made made [] changed :=
  ⟨appended, .refl made, fun _ member => .inl member, List.forall_mem_nil _⟩

theorem Gains.names (gains : Gains table added made constants changed) :
    changed.names = table.names ++ added.map Node.name := by
  rw [Table.names, Table.names, gains.nodes, List.map_append]

theorem Gains.trans (first : Gains table added made constants middle)
    (second : Gains middle addedMore others more changed) :
    Gains table (added ++ addedMore) (made ++ others) (constants ++ more) changed := by
  constructor
  case nodes => rw [second.nodes, first.nodes, List.append_assoc]
  case inOrder => exact first.inOrder.append second.inOrder
  case origin =>
    rw [List.forall_mem_append]
    constructor
    · intro node member
      apply (first.origin node member).imp (List.mem_append_left _)
      rintro ⟨p, isConstant, same⟩
      exact ⟨p, List.mem_append_left _ isConstant, same⟩
    · intro node member
      apply (second.origin node member).imp (List.mem_append_right _)
      rintro ⟨p, isConstant, same⟩
      exact ⟨p, List.mem_append_right _ isConstant, same⟩
  case covered =>
    rw [List.forall_mem_append]
    refine ⟨fun p isConstant => ?_, second.covered⟩
    rw [second.names]
    exact List.mem_append_left _ (first.covered p isConstant)

/-- A step adds what some declarations make, and constants. -/
def Adds (early : List Declaration) (constants : List Parameter) (fits : α → Prop) (step : Elaborator α) : Prop :=
  ∀ ⦃table changed a⦄, step table = .ok (a, changed) →
    fits a ∧ ∃ added made, AllMake early made ∧ Gains table added made constants changed

namespace Adds

theorem bind {first : Elaborator α} {next : α → Elaborator β} (firstAdds : Adds early constants fits first)
    (nextAdds : ∀ a, fits a → Adds later more fitsTo (next a)) :
    Adds (early ++ later) (constants ++ more) fitsTo (first >>= next) := by
  intro table changed b ran
  obtain ⟨a, middle, firstRan, nextRan⟩ := run_bind_eq_ok.1 ran
  obtain ⟨fitsA, _, _, make, gains⟩ := firstAdds firstRan
  obtain ⟨fitsB, _, _, makeMore, gainsMore⟩ := nextAdds a fitsA nextRan
  exact ⟨fitsB, _, _, make.append makeMore, gains.trans gainsMore⟩

theorem pure {a : α} (fit : fits a) : Adds [] [] fits (pure a) := by
  intro table changed b ran
  obtain ⟨rfl, rfl⟩ := run_pure_eq_ok.1 ran
  exact ⟨fit, [], [], .nil, .refl _⟩

theorem throw {e : ModelError} : Adds early constants fits (MonadExcept.throw e) := by
  intro table changed a ran
  cases ran

theorem check {test : Table → Except ModelError α} (fit : ∀ {table a}, test table = .ok a → fits a) :
    Adds [] [] fits (check test) := by
  intro table changed a ran
  obtain ⟨tested, rfl⟩ := check_eq_ok.1 ran
  exact ⟨fit tested, [], [], .nil, .refl _⟩

/-- What follows a step adds nothing if it does nothing but change the result. -/
theorem map {step : Elaborator α} (adds : Adds early constants fits step) (f : α → β)
    (fit : ∀ a, fits a → fitsTo (f a)) : Adds early constants fitsTo (step >>= fun a => Pure.pure (f a)) := by
  have both := adds.bind fun a fitsA => Adds.pure (fit a fitsA)
  rwa [List.append_nil, List.append_nil] at both

/-- A look at the table that only fails or does not. -/
theorem look {test : Table → Except ModelError β} {a : α} (fit : fits a) :
    Adds [] [] fits (Elaborator.check test >>= fun _ => Pure.pure a) := by
  have checks : Adds [] [] (fun _ => True) (Elaborator.check test) := Adds.check fun _ => trivial
  exact checks.map (fun _ => a) fun _ _ => fit

/-- A step followed by a check that its result passes. -/
theorem checked {step : Elaborator α} (adds : Adds early constants fits step) {test : α → Table → Except ModelError β} :
    Adds early constants fits (step >>= fun a => Elaborator.check (test a) >>= fun _ => Pure.pure a) := by
  have both := adds.bind fun a fitsA => @Adds.look _ _ fits (test a) a fitsA
  rwa [List.append_nil, List.append_nil] at both

end Adds

/-- A number adds the constant that it stands for, unless its text is declared. -/
theorem adds_constant (value : Float) :
    Adds [] [⟨text, .free value ⟨value, value⟩⟩] (· = text) (constant value text) := by
  intro table changed result ran
  obtain ⟨rfl, added⟩ := constant_eq_ok.1 ran
  rcases added with ⟨declared, rfl⟩ | ⟨new, p, made, declared⟩
  · refine ⟨rfl, [], [], .nil, (List.append_nil _).symm, .slnil, List.forall_mem_nil _, ?_⟩
    exact List.forall_mem_singleton.mpr declared.mem_names
  · obtain ⟨_, _, rfl⟩ := Parameter.free_eq_ok.1 made
    obtain ⟨_, _, _, rfl⟩ := Table.declareParameter_eq_ok.1 declared
    refine ⟨rfl, _, [], .nil, rfl, List.nil_sublist _, ?_, ?_⟩
    · exact List.forall_mem_singleton.mpr (.inr ⟨_, List.mem_singleton_self _, rfl⟩)
    · rw [Table.names_push]
      exact List.forall_mem_singleton.mpr (List.mem_append_right _ (List.mem_singleton_self _))

/-- A step adds what some declarations make, and constants, and puts what a declaration
makes on its own behind all of it. -/
def Declares (declaration : Declaration) (early : List Declaration) (constants : List Parameter)
    (step : Elaborator String) : Prop :=
  ∀ ⦃table changed name⦄, step table = .ok (name, changed) →
    name = declaration.name ∧ ∃ middle added before own, AllMake early before ∧
      Gains table added before constants middle ∧ declaration.Makes own ∧ changed.nodes = middle.nodes ++ own

namespace Declares

theorem adds {step : Elaborator String} (declares : Declares declaration early constants step) :
    Adds (early ++ [declaration]) constants (· = declaration.name) step := by
  intro table changed name ran
  obtain ⟨named, middle, _, _, own, make, gains, makes, appended⟩ := declares ran
  have gainsBoth := gains.trans (gains_of_append appended)
  rw [List.append_nil] at gainsBoth
  exact ⟨named, _, _, make.append (.singleton makes), gainsBoth⟩

theorem bind {first : Elaborator α} {next : α → Elaborator String} (firstAdds : Adds early constants fits first)
    (nextDeclares : ∀ a, fits a → Declares declaration later more (next a)) :
    Declares declaration (early ++ later) (constants ++ more) (first >>= next) := by
  intro table changed name ran
  obtain ⟨a, between, firstRan, nextRan⟩ := run_bind_eq_ok.1 ran
  obtain ⟨fitsA, _, _, make, gains⟩ := firstAdds firstRan
  obtain ⟨named, middle, _, _, own, makeMore, gainsMore, makes, appended⟩ := nextDeclares a fitsA nextRan
  exact ⟨named, middle, _, _, own, make.append makeMore, gains.trans gainsMore, makes, appended⟩

/-- A step behind all that the declaration needs. -/
theorem last {first : Elaborator α} {next : α → Elaborator String} (firstAdds : Adds early constants fits first)
    (nextDeclares : ∀ a, fits a → Declares declaration [] [] (next a)) :
    Declares declaration early constants (first >>= next) := by
  have both := Declares.bind firstAdds nextDeclares
  rwa [List.append_nil, List.append_nil] at both

/-- A refusal that looks at the table adds nothing. -/
theorem guard {refused : Table → Prop} [DecidablePred refused] {e : ModelError} {step : Elaborator String}
    (declares : Declares declaration early constants step) :
    Declares declaration early constants (get >>= fun seen =>
      if refused seen then MonadExcept.throw e >>= fun (_ : Unit) => step else step) := by
  intro table changed name ran
  obtain ⟨_, _, got, guarded⟩ := run_bind_eq_ok.1 ran
  obtain ⟨rfl, rfl⟩ := run_get_eq_ok.1 got
  exact declares (run_guard_eq_ok.1 guarded).2

theorem throw {e : ModelError} : Declares declaration early constants (MonadExcept.throw e) := by
  intro table changed name ran
  cases ran

/-- Nothing but the nodes of the declaration is added. -/
theorem of_append {step : Elaborator String}
    (appends : ∀ ⦃table changed name⦄, step table = .ok (name, changed) →
      name = declaration.name ∧ ∃ own, declaration.Makes own ∧ changed.nodes = table.nodes ++ own) :
    Declares declaration [] [] step := by
  intro table changed name ran
  obtain ⟨named, own, makes, appended⟩ := appends ran
  exact ⟨named, table, [], [], own, .nil, .refl table, makes, appended⟩

end Declares

theorem declares_insertDensity {d : Density} (makes : declaration.Makes [.density d])
    (named : d.name = declaration.name) : Declares declaration [] [] (insertDensity d) := by
  apply Declares.of_append
  intro table changed name ran
  obtain ⟨_, declared, rfl⟩ := insertDensity_eq_ok.1 ran
  obtain ⟨_, _, _, _, _, rfl⟩ := Table.declareDensity_eq_ok.1 declared
  exact ⟨named, _, makes, rfl⟩

/-- Making a parameter and declaring it under the name of the declaration. -/
theorem declares_parameter {test : Table → Except ModelError α} {parameter : α → Parameter}
    (makes : ∀ {table a}, test table = .ok a → declaration.Makes [.parameter (parameter a)]) :
    Declares declaration [] [] (check test >>= fun a =>
      change (fun table => table.declareParameter (parameter a)) >>= fun _ => pure declaration.name) := by
  apply Declares.of_append
  intro table changed name ran
  simp only [run_bind_eq_ok, check_eq_ok, change_eq_ok, run_pure_eq_ok] at ran
  obtain ⟨a, _, ⟨tested, rfl⟩, _, _, declared, rfl, rfl⟩ := ran
  obtain ⟨_, _, _, rfl⟩ := Table.declareParameter_eq_ok.1 declared
  exact ⟨rfl, _, makes tested, rfl⟩

theorem insertJoints_appends {owner : String} {joints : List Joint} {names : List String}
    (ran : insertJoints owner joints table = .ok (names, changed)) :
    names = joints.map (jointName owner) ∧
      changed.nodes = table.nodes ++ joints.map fun joint => .density (jointDensity (jointName owner joint) joint) := by
  induction joints generalizing table names with
  | nil =>
      obtain ⟨rfl, rfl⟩ := run_pure_eq_ok.1 ran
      exact ⟨rfl, (List.append_nil _).symm⟩
  | cons joint rest ih =>
      simp only [insertJoints, run_bind_eq_ok, run_get_eq_ok, run_guard_eq_ok, run_pure_eq_ok] at ran
      obtain ⟨_, _, ⟨rfl, rfl⟩, _, _, middle, joined, others, _, restRan, rfl, rfl⟩ := ran
      obtain ⟨_, rfl⟩ := push_of_insertJoint joined
      obtain ⟨rfl, appended⟩ := ih restRan
      refine ⟨rfl, ?_⟩
      rw [appended, Table.nodes_push, List.append_assoc]
      rfl

theorem declares_insertProduct {arguments : List Argument} {offset : Nat} :
    Declares (.density .product name arguments offset) [] []
      (insertProduct name (Argument.plainFactors arguments) (grouped (Argument.conditions arguments))) := by
  unfold insertProduct
  split
  · rename_i noGroups
    rw [List.isEmpty_iff] at noGroups
    apply declares_insertDensity _ rfl
    refine @Makes.product _ _ _ [] _ ?_ noGroups.symm (.refl _) (.refl _)
    rintro ⟨single, _⟩
    rw [noGroups] at single
    cases single
  · apply Declares.last (Adds.check pair_splits)
    rintro ⟨joints, left⟩ ⟨conditions, taken, order⟩
    split
    · rename_i joint same
      obtain ⟨rfl, rfl⟩ := Prod.mk.inj same
      apply Declares.of_append
      intro table changed result ran
      obtain ⟨_, _, joined, ended⟩ := run_bind_eq_ok.1 ran
      obtain ⟨rfl, rfl⟩ := run_pure_eq_ok.1 ended
      obtain ⟨_, rfl⟩ := push_of_insertJoint joined
      exact ⟨rfl, _, .direct conditions.symm (List.perm_singleton.mp taken.symm), rfl⟩
    · rename_i others kept several same
      obtain ⟨rfl, rfl⟩ := Prod.mk.inj same
      apply Declares.of_append
      intro table changed result ran
      obtain ⟨names, middle, joined, inserted⟩ := run_bind_eq_ok.1 ran
      obtain ⟨rfl, appended⟩ := insertJoints_appends joined
      obtain ⟨_, declared, rfl⟩ := insertDensity_eq_ok.1 inserted
      obtain ⟨_, _, _, _, _, rfl⟩ := Table.declareDensity_eq_ok.1 declared
      refine ⟨rfl, _, .product ?_ conditions taken order, ?_⟩
      · rintro ⟨single, alone⟩
        rw [← conditions, List.length_map] at single
        rw [← taken.length_eq, List.length_append, List.length_map, single] at alone
        obtain ⟨joint, rfl⟩ := List.length_eq_one_iff.mp single
        obtain rfl := List.length_eq_zero_iff.mp (Nat.add_left_cancel alone)
        exact several joint rfl rfl
      · rw [Table.nodes_push, appended, List.append_assoc]

/-- The branches that some arguments make, the last of which takes the remainder. -/
def BranchesOf (arguments : List Argument) (result : List Branch × String) : Prop :=
  ∃ weighted remainder, arguments = weighted ++ [remainder] ∧
    weighted.map Argument.branch? = result.1.map some ∧ remainder.branch? = none ∧ result.2 = remainder.target

variable {refuses : Test}

mutual

theorem declares_elaborateWith :
    (declaration : Declaration) → Declares declaration declaration.inside declaration.constants (elaborateWith refuses declaration)
  | .free name value lower upper offset => by
      unfold elaborateWith
      rw [inside, constants]
      apply Declares.guard
      apply declares_parameter
      intro table p made
      obtain ⟨_, _, rfl⟩ := Parameter.free_eq_ok.1 made
      exact .free
  | .derived name source dependencies offset => by
      unfold elaborateWith
      rw [inside, constants]
      apply Declares.guard
      apply Declares.last (adds_elaborateParameters dependencies)
      rintro names rfl
      apply @declares_parameter Formula (.derived name source dependencies offset) _ (Parameter.derived name)
      intro table formula compiled
      exact .derived (mapError_eq_ok.1 compiled)
  | .density .gaussian name [x, mean, sigma] offset => by
      unfold elaborateWith
      rw [inside, constants]
      simp only [Argument.insideAll, Argument.constantsAll]
      apply Declares.guard
      apply Declares.bind (adds_elaborateParameter x)
      rintro _ rfl
      apply Declares.bind (adds_elaborateParameter mean)
      rintro _ rfl
      apply Declares.bind (adds_elaborateParameter sigma)
      rintro _ rfl
      exact declares_insertDensity .gaussian rfl
  | .density .gaussian name [] offset | .density .gaussian name [_] offset
  | .density .gaussian name [_, _] offset | .density .gaussian name (_ :: _ :: _ :: _ :: _) offset
  | .density .uniform name [] offset | .density .mixture name [] offset
  | .density .mixture name [_] offset | .density .product name [] offset => by
      unfold elaborateWith
      apply Declares.guard
      exact Declares.throw
  | .density .uniform name (first :: rest) offset => by
      unfold elaborateWith
      rw [inside, constants]
      apply Declares.guard
      apply Declares.last (adds_elaborateParameters (first :: rest))
      rintro _ rfl
      exact declares_insertDensity .uniform rfl
  | .density .mixture name (first :: second :: rest) offset => by
      unfold elaborateWith
      rw [inside, constants]
      apply Declares.guard
      apply Declares.last (adds_elaborateBranches name (first :: second :: rest))
      rintro ⟨branches, _⟩ ⟨weighted, remainder, split, weighs, unweighted, rfl⟩
      rw [split]
      exact declares_insertDensity (.mixture weighs unweighted) rfl
  | .density .product name (first :: rest) offset => by
      unfold elaborateWith
      rw [inside, constants]
      apply Declares.guard
      apply Declares.guard
      apply Declares.last (adds_elaborateFactors [] [] (first :: rest))
      rintro _ rfl
      rw [List.nil_append, foldl_addToGroup]
      exact declares_insertProduct

theorem adds_elaborateParameter : (argument : Argument) →
    Adds argument.inside argument.constants (· = argument.target) (elaborateParameter refuses argument)
  | .reference name offset => by
      unfold elaborateParameter
      rw [Argument.inside, Argument.constants]
      exact Adds.look rfl
  | .constant value text => by
      unfold elaborateParameter
      rw [Argument.inside, Argument.constants]
      exact adds_constant value
  | .nested declaration => by
      unfold elaborateParameter
      rw [Argument.inside, Argument.constants]
      exact (declares_elaborateWith declaration).adds.checked
  | .conditioned part given offset | .weighted weight part offset => by
      unfold elaborateParameter
      exact Adds.throw

theorem adds_elaborateParameters : (arguments : List Argument) →
    Adds (Argument.insideAll arguments) (Argument.constantsAll arguments) (· = arguments.map Argument.target)
      (elaborateParameters refuses arguments)
  | [] => by
      unfold elaborateParameters
      rw [Argument.insideAll, Argument.constantsAll]
      exact Adds.pure rfl
  | argument :: rest => by
      unfold elaborateParameters
      rw [Argument.insideAll, Argument.constantsAll]
      apply (adds_elaborateParameter argument).bind
      rintro _ rfl
      apply (adds_elaborateParameters rest).map
      rintro _ rfl
      rfl

theorem adds_elaborateDensity : (argument : Argument) →
    Adds argument.inside argument.constants (· = argument.target) (elaborateDensity refuses argument)
  | .reference name offset => by
      unfold elaborateDensity
      rw [Argument.inside, Argument.constants]
      exact Adds.look rfl
  | .nested declaration => by
      unfold elaborateDensity
      rw [Argument.inside, Argument.constants]
      exact (declares_elaborateWith declaration).adds.checked
  | .constant value text | .conditioned part given offset | .weighted weight part offset => by
      unfold elaborateDensity
      exact Adds.throw

theorem adds_elaborateBranches (owner : String) : (arguments : List Argument) →
    Adds (Argument.insideAll arguments) (Argument.constantsAll arguments) (BranchesOf arguments)
      (elaborateBranches refuses owner arguments)
  | [] => by
      unfold elaborateBranches
      exact Adds.throw
  | [remainder] => by
      have adds := adds_elaborateDensity remainder
      rw [Argument.insideAll, Argument.insideAll, Argument.constantsAll, Argument.constantsAll, List.append_nil,
        List.append_nil]
      cases remainder with
      | weighted weight part offset =>
          unfold elaborateBranches
          exact Adds.throw
      | _ =>
          unfold elaborateBranches
          apply adds.map
          rintro _ rfl
          exact ⟨[], _, rfl, rfl, rfl, rfl⟩
  | .weighted weight part offset :: second :: rest => by
      unfold elaborateBranches
      rw [Argument.insideAll, Argument.constantsAll, Argument.inside, Argument.constants, List.append_assoc,
        List.append_assoc]
      apply (adds_elaborateParameter weight).bind
      rintro _ rfl
      apply (adds_elaborateDensity part).bind
      rintro _ rfl
      apply (adds_elaborateBranches owner (second :: rest)).map
      rintro ⟨branches, _⟩ ⟨weighted, remainder, split, weighs, unweighted, rfl⟩
      refine ⟨.weighted weight part offset :: weighted, remainder, by rw [split, List.cons_append], ?_, unweighted, rfl⟩
      rw [List.map_cons, weighs]
      rfl
  | .reference .. :: _ :: _ | .constant .. :: _ :: _ | .nested _ :: _ :: _
  | .conditioned .. :: _ :: _ => by
      unfold elaborateBranches
      exact Adds.throw

theorem adds_elaborateFactors (plain : List String) (groups : Groups) : (arguments : List Argument) →
    Adds (Argument.insideAll arguments) (Argument.constantsAll arguments)
      (· = (plain ++ Argument.plainFactors arguments,
        (Argument.conditions arguments).foldl (fun groups condition => addToGroup condition.1 condition.2 groups)
          groups))
      (elaborateFactors refuses plain groups arguments)
  | [] => by
      unfold elaborateFactors
      rw [Argument.insideAll, Argument.constantsAll]
      exact Adds.pure (by rw [Argument.plainFactors, List.filterMap_nil, List.append_nil]; rfl)
  | argument :: rest => by
      have adds := adds_elaborateDensity argument
      rw [Argument.insideAll, Argument.constantsAll]
      cases argument with
      | conditioned part given offset =>
          unfold elaborateFactors
          rw [Argument.inside, Argument.constants]
          apply (adds_elaborateDensity part).bind
          rintro _ rfl
          have checks : Adds [] [] (fun _ => True) (check fun table => table.parameter given) :=
            Adds.check fun _ => trivial
          apply checks.bind
          intro _ _
          exact adds_elaborateFactors plain (addToGroup given part.target groups) rest
      | _ =>
          unfold elaborateFactors
          apply adds.bind
          intro name named
          have addsRest := adds_elaborateFactors (plain ++ [name]) groups rest
          subst named
          rw [List.append_assoc] at addsRest
          exact addsRest

end

end DensityGraph.Declaration
