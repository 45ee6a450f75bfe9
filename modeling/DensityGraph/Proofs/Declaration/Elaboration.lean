import DensityGraph.Declaration.Elaboration
import DensityGraph.Proofs.Formula.Grammar
import DensityGraph.Proofs.Table.Change

/-!
# What a declaration adds

Whatever a declaration says, the table that it leaves is made from the one that
it found by declaring one node after another.  Every parameter among them is
sound and has a formula compiled from its own text, and every density among
them has been checked against the table that it was added to.
-/

namespace DensityGraph

/-- The formula of a derived parameter is compiled from its own text and
dependencies. -/
def Parameter.Compiled (p : Parameter) : Prop :=
  ∀ formula, p.kind = .derived formula →
    Formula.compile formula.source formula.dependencies = .ok formula

/-- A compiled formula is compiled again from its own text. -/
theorem Formula.compile_self {source : String} {dependencies : List String} {formula : Formula}
    (compiled : compile source dependencies = .ok formula) :
    compile formula.source formula.dependencies = .ok formula := by
  obtain ⟨_, sameSource, sameNames, _⟩ := compile_eq_ok.mp compiled
  rwa [sameSource, sameNames]

theorem Formula.dependencies_of_compile {source : String} {dependencies : List String} {formula : Formula}
    (compiled : compile source dependencies = .ok formula) : formula.dependencies = dependencies :=
  (compile_eq_ok.mp compiled).2.2.1

theorem Parameter.compiled_shape {p : Parameter} : p.shape.Compiled ↔ p.Compiled := by
  obtain ⟨name, _ | _⟩ := p
  · simp [Compiled, shape]
  · rfl

namespace Table

/-- A table made from another by declaring single nodes that make sense. -/
inductive Grows (start : Table) : Table → Prop where
  | refl : Grows start start
  | parameter {before after : Table} {p : Parameter} (grows : Grows start before) (sound : p.Sound)
      (compiled : p.Compiled) (declared : before.declareParameter p = .ok after) : Grows start after
  | density {before after : Table} {d : Density} (grows : Grows start before)
      (validated : before.validate d true = .ok ()) (declared : before.declareDensity d = .ok after) :
      Grows start after

theorem Grows.trans {first second third : Table} (early : first.Grows second)
    (late : second.Grows third) : first.Grows third := by
  induction late with
  | refl => exact early
  | parameter _ sound compiled declared ih => exact .parameter ih sound compiled declared
  | density _ validated declared ih => exact .density ih validated declared

theorem Grows.wellFormed {start table : Table} (grows : start.Grows table) (wellFormed : start.WellFormed) :
    table.WellFormed := by
  induction grows with
  | refl => exact wellFormed
  | parameter _ sound _ declared ih => exact ih.declareParameter sound declared
  | density _ _ declared ih => exact ih.declareDensity declared

end Table

namespace Declaration

variable {α β : Type}

/-- A step that only declares nodes that make sense. -/
def Growing (step : Elaborator α) : Prop :=
  ∀ ⦃table changed a⦄, step table = .ok (a, changed) → table.Grows changed

namespace Elaborator

variable {table changed : Table}

theorem run_bind_eq_ok {first : Elaborator α} {next : α → Elaborator β} {b : β} :
    (first >>= next) table = .ok (b, changed) ↔
      ∃ a middle, first table = .ok (a, middle) ∧ next a middle = .ok (b, changed) := by
  constructor
  · intro ran
    obtain ⟨⟨a, middle⟩, firstRan, nextRan⟩ := bind_eq_ok.1 ran
    exact ⟨a, middle, firstRan, nextRan⟩
  · rintro ⟨a, middle, firstRan, nextRan⟩
    exact bind_eq_ok.2 ⟨(a, middle), firstRan, nextRan⟩

theorem run_pure_eq_ok {a b : α} :
    (pure a : Elaborator α) table = .ok (b, changed) ↔ b = a ∧ changed = table := by
  constructor
  · intro ran
    cases ran
    exact ⟨rfl, rfl⟩
  · rintro ⟨rfl, rfl⟩
    rfl

theorem run_throw {e : ModelError} : (throw e : Elaborator α) table = .error e :=
  rfl

/-- A refusal in front of a step lets it go on exactly when it does not apply. -/
theorem run_guard_eq_ok {refused : Prop} [Decidable refused] {e : ModelError} {step : Elaborator α} {a : α} :
    (if refused then MonadExcept.throw e >>= fun (_ : Unit) => step else step) table = .ok (a, changed) ↔
      ¬ refused ∧ step table = .ok (a, changed) := by
  by_cases holds : refused
  · rw [if_pos holds]
    simp only [holds, not_true, false_and, iff_false]
    intro ran
    cases ran
  · simp [holds]

theorem run_get_eq_ok {seen : Table} :
    (get : Elaborator Table) table = .ok (seen, changed) ↔ seen = table ∧ changed = table := by
  simp [get, getThe, MonadStateOf.get, StateT.get, pure, Except.pure, eq_comm]

/-- A declaration is elaborated if the test lets it pass. -/
theorem run_tested_eq_ok {refuses : Test} {declaration : Declaration} {step : Elaborator α} {a : α} :
    (get >>= fun seen =>
      if refuses seen declaration = true then
        MonadExcept.throw (.cycle declaration.name) >>= fun (_ : Unit) => step
      else step) table = .ok (a, changed) ↔
      refuses table declaration = false ∧ step table = .ok (a, changed) := by
  simp only [run_bind_eq_ok, run_get_eq_ok, run_guard_eq_ok, Bool.not_eq_true]
  constructor
  · rintro ⟨_, _, ⟨rfl, rfl⟩, passed, ran⟩
    exact ⟨passed, ran⟩
  · rintro ⟨passed, ran⟩
    exact ⟨table, table, ⟨rfl, rfl⟩, passed, ran⟩

theorem check_eq_ok {test : Table → Except ModelError α} {a : α} :
    check test table = .ok (a, changed) ↔ test table = .ok a ∧ changed = table := by
  unfold check
  cases test table <;> simp [eq_comm]

theorem change_eq_ok {step : Table → Except ModelError Table} {u : Unit} :
    change step table = .ok (u, changed) ↔ step table = .ok changed := by
  unfold change
  cases step table <;> simp

end Elaborator

open Elaborator

namespace Growing

theorem bind {first : Elaborator α} {next : α → Elaborator β} (firstGrowing : Growing first)
    (nextGrowing : ∀ a, Growing (next a)) : Growing (first >>= next) := by
  intro table changed b ran
  obtain ⟨a, middle, firstRan, nextRan⟩ := run_bind_eq_ok.1 ran
  exact (firstGrowing firstRan).trans (nextGrowing a nextRan)

theorem pure (a : α) : Growing (pure a) := by
  intro table changed b ran
  obtain ⟨_, rfl⟩ := run_pure_eq_ok.1 ran
  exact .refl

theorem throw (e : ModelError) : Growing (throw e : Elaborator α) := by
  intro table changed a ran
  rw [run_throw] at ran
  cases ran

theorem get : Growing get := by
  intro table changed seen ran
  obtain ⟨_, rfl⟩ := run_get_eq_ok.1 ran
  exact .refl

theorem check (test : Table → Except ModelError α) : Growing (check test) := by
  intro table changed a ran
  obtain ⟨_, rfl⟩ := check_eq_ok.1 ran
  exact .refl

theorem ite {condition : Prop} [Decidable condition] {first second : Elaborator α}
    (firstGrowing : Growing first) (secondGrowing : Growing second) :
    Growing (if condition then first else second) := by
  by_cases holds : condition
  · rw [if_pos holds]
    exact firstGrowing
  · rw [if_neg holds]
    exact secondGrowing

/-- A refusal in front of a step does not add anything. -/
theorem guard {refused : Prop} [Decidable refused] {e : ModelError} {step : Elaborator α}
    (growing : Growing step) :
    Growing (if refused then MonadExcept.throw e >>= fun (_ : Unit) => step else step) :=
  ite (bind (throw e) fun _ => growing) growing

end Growing

theorem growing_insertDensity (d : Density) : Growing (insertDensity d) := by
  unfold insertDensity
  apply Growing.bind Growing.get
  intro seen
  apply Growing.guard
  apply Growing.bind (Growing.check _)
  intro _
  apply Growing.bind (Growing.check _)
  intro _ table changed name ran
  simp only [run_bind_eq_ok, check_eq_ok, change_eq_ok, run_pure_eq_ok] at ran
  obtain ⟨_, _, ⟨validated, rfl⟩, _, _, declared, _, rfl⟩ := ran
  exact .density .refl validated declared

/-- Making a parameter and declaring it. -/
theorem growing_declareParameter {test : Table → Except ModelError α} {parameter : α → Parameter} {b : β}
    (built : ∀ {table a}, test table = .ok a → (parameter a).Sound ∧ (parameter a).Compiled) :
    Growing (check test >>= fun a =>
      change (fun table => table.declareParameter (parameter a)) >>= fun _ => pure b) := by
  intro table changed b' ran
  simp only [run_bind_eq_ok, check_eq_ok, change_eq_ok, run_pure_eq_ok] at ran
  obtain ⟨a, _, ⟨tested, rfl⟩, _, _, declared, _, rfl⟩ := ran
  obtain ⟨sound, compiled⟩ := built tested
  exact .parameter .refl sound compiled declared

theorem free_compiled {name : String} {value lower upper : Float} {p : Parameter}
    (made : Parameter.free name value lower upper = .ok p) : p.Compiled := by
  obtain ⟨_, _, rfl⟩ := Parameter.free_eq_ok.1 made
  intro formula kindEq
  cases kindEq

theorem growing_constant (value : Float) (text : String) : Growing (constant value text) := by
  unfold constant
  apply Growing.bind Growing.get
  intro seen
  apply Growing.ite
  · apply Growing.bind (Growing.check _)
    intro _
    exact Growing.pure text
  · apply growing_declareParameter
    intro _ p made
    exact ⟨Parameter.free_sound made, free_compiled made⟩

theorem validate_of_conditionalJoint {table : Table} {name shared marginal : String}
    {conditionals : List String} {d : Density}
    (made : table.conditionalJoint name conditionals shared marginal = .ok d) :
    table.validate d true = .ok () ∧ d = ⟨name, .conditionalJoint shared marginal conditionals⟩ := by
  simp only [Table.conditionalJoint, bind_eq_ok, exists_unit, pure_eq_ok] at made
  obtain ⟨_, validated, rfl⟩ := made
  exact ⟨validated, rfl⟩

theorem growing_insertJoint (name : String) (joint : Joint) : Growing (insertJoint name joint) := by
  unfold insertJoint
  intro table changed _ ran
  simp only [run_bind_eq_ok, check_eq_ok, change_eq_ok] at ran
  obtain ⟨d, _, ⟨made, rfl⟩, declared⟩ := ran
  exact .density .refl (validate_of_conditionalJoint made).1 declared

theorem growing_insertJoints (owner : String) (joints : List Joint) :
    Growing (insertJoints owner joints) := by
  induction joints with
  | nil => exact Growing.pure []
  | cons joint rest ih =>
      unfold insertJoints
      apply Growing.bind Growing.get
      intro seen
      apply Growing.guard
      apply Growing.bind (growing_insertJoint _ joint)
      intro _
      apply Growing.bind ih
      intro names
      exact Growing.pure _

theorem growing_insertProduct (name : String) (plain : List String) (groups : Groups) :
    Growing (insertProduct name plain groups) := by
  unfold insertProduct
  apply Growing.ite
  · exact growing_insertDensity _
  · apply Growing.bind (Growing.check _)
    rintro ⟨joints, plain⟩
    split
    · apply Growing.bind (growing_insertJoint _ _)
      intro _
      exact Growing.pure name
    · apply Growing.bind (growing_insertJoints _ _)
      intro names
      exact growing_insertDensity _

theorem derived_compiled {name source : String} {dependencies : List String} {formula : Formula}
    (compiled : Formula.compile source dependencies = .ok formula) :
    (Parameter.derived name formula).Compiled := by
  intro other kindEq
  obtain rfl := Parameter.Kind.derived.inj kindEq
  exact Formula.compile_self compiled

variable {refuses : Test}

mutual

theorem growing_elaborateWith : (declaration : Declaration) → Growing (elaborateWith refuses declaration)
  | .free name value lower upper offset => by
      unfold elaborateWith
      apply Growing.bind Growing.get
      intro seen
      apply Growing.guard
      apply growing_declareParameter
      intro _ p made
      exact ⟨Parameter.free_sound made, free_compiled made⟩
  | .derived name source dependencies offset => by
      unfold elaborateWith
      apply Growing.bind Growing.get
      intro seen
      apply Growing.guard
      apply Growing.bind (growing_elaborateParameters dependencies)
      intro names
      apply @growing_declareParameter Formula String _ (Parameter.derived name)
      intro _ formula compiled
      exact ⟨Parameter.sound_derived name formula, derived_compiled (mapError_eq_ok.1 compiled)⟩
  | .density .gaussian name [x, mean, sigma] offset => by
      unfold elaborateWith
      apply Growing.bind Growing.get
      intro seen
      apply Growing.guard
      apply Growing.bind (growing_elaborateParameter x)
      intro x
      apply Growing.bind (growing_elaborateParameter mean)
      intro mean
      apply Growing.bind (growing_elaborateParameter sigma)
      intro sigma
      exact growing_insertDensity _
  | .density .gaussian name [] offset | .density .gaussian name [_] offset
  | .density .gaussian name [_, _] offset | .density .gaussian name (_ :: _ :: _ :: _ :: _) offset
  | .density .uniform name [] offset | .density .mixture name [] offset
  | .density .mixture name [_] offset | .density .product name [] offset => by
      unfold elaborateWith
      apply Growing.bind Growing.get
      intro seen
      apply Growing.guard
      exact Growing.throw _
  | .density .uniform name (first :: rest) offset => by
      unfold elaborateWith
      apply Growing.bind Growing.get
      intro seen
      apply Growing.guard
      apply Growing.bind (growing_elaborateParameters (first :: rest))
      intro names
      exact growing_insertDensity _
  | .density .mixture name (first :: second :: rest) offset => by
      unfold elaborateWith
      apply Growing.bind Growing.get
      intro seen
      apply Growing.guard
      apply Growing.bind (growing_elaborateBranches name (first :: second :: rest))
      rintro ⟨branches, remainder⟩
      exact growing_insertDensity _
  | .density .product name (first :: rest) offset => by
      unfold elaborateWith
      apply Growing.bind Growing.get
      intro seen
      apply Growing.guard
      apply Growing.bind Growing.get
      intro seen
      apply Growing.guard
      apply Growing.bind (growing_elaborateFactors [] [] (first :: rest))
      rintro ⟨plain, groups⟩
      exact growing_insertProduct name plain groups

theorem growing_elaborateParameter : (argument : Argument) → Growing (elaborateParameter refuses argument)
  | .reference name offset => by
      unfold elaborateParameter
      apply Growing.bind (Growing.check _)
      intro _
      exact Growing.pure name
  | .constant value text => by
      unfold elaborateParameter
      exact growing_constant value text
  | .nested declaration => by
      unfold elaborateParameter
      apply Growing.bind (growing_elaborateWith declaration)
      intro name
      apply Growing.bind (Growing.check _)
      intro _
      exact Growing.pure name
  | .conditioned part given offset => by
      unfold elaborateParameter
      exact Growing.throw _
  | .weighted weight part offset => by
      unfold elaborateParameter
      exact Growing.throw _

theorem growing_elaborateParameters : (arguments : List Argument) → Growing (elaborateParameters refuses arguments)
  | [] => by
      unfold elaborateParameters
      exact Growing.pure []
  | argument :: rest => by
      unfold elaborateParameters
      apply Growing.bind (growing_elaborateParameter argument)
      intro name
      apply Growing.bind (growing_elaborateParameters rest)
      intro names
      exact Growing.pure _

theorem growing_elaborateDensity : (argument : Argument) → Growing (elaborateDensity refuses argument)
  | .reference name offset => by
      unfold elaborateDensity
      apply Growing.bind (Growing.check _)
      intro _
      exact Growing.pure name
  | .nested declaration => by
      unfold elaborateDensity
      apply Growing.bind (growing_elaborateWith declaration)
      intro name
      apply Growing.bind (Growing.check _)
      intro _
      exact Growing.pure name
  | .constant value text | .conditioned part given offset | .weighted weight part offset => by
      unfold elaborateDensity
      exact Growing.throw _

theorem growing_elaborateBranches (owner : String) :
    (arguments : List Argument) → Growing (elaborateBranches refuses owner arguments)
  | [] => by
      unfold elaborateBranches
      exact Growing.throw _
  | [remainder] => by
      have growing := growing_elaborateDensity remainder
      cases remainder with
      | weighted weight part offset =>
          unfold elaborateBranches
          exact Growing.throw _
      | _ =>
          unfold elaborateBranches
          apply Growing.bind growing
          intro name
          exact Growing.pure _
  | .weighted weight part offset :: second :: rest => by
      unfold elaborateBranches
      apply Growing.bind (growing_elaborateParameter weight)
      intro weightName
      apply Growing.bind (growing_elaborateDensity part)
      intro partName
      apply Growing.bind (growing_elaborateBranches owner (second :: rest))
      rintro ⟨branches, remainder⟩
      exact Growing.pure _
  | .reference .. :: _ :: _ | .constant .. :: _ :: _ | .nested _ :: _ :: _
  | .conditioned .. :: _ :: _ => by
      unfold elaborateBranches
      exact Growing.throw _

theorem growing_elaborateFactors (plain : List String) (groups : Groups) :
    (arguments : List Argument) → Growing (elaborateFactors refuses plain groups arguments)
  | [] => by
      unfold elaborateFactors
      exact Growing.pure _
  | argument :: rest => by
      have growing := growing_elaborateDensity argument
      cases argument with
      | conditioned part given offset =>
          unfold elaborateFactors
          apply Growing.bind (growing_elaborateDensity part)
          intro name
          apply Growing.bind (Growing.check _)
          intro _
          exact growing_elaborateFactors plain _ rest
      | _ =>
          unfold elaborateFactors
          apply Growing.bind growing
          intro name
          exact growing_elaborateFactors _ groups rest

end

end Declaration

/-- What a text declares is added node by node. -/
theorem Table.grows_of_declare {table changed : Table} {text name : String}
    (declared : table.declare text = .ok (name, changed)) : table.Grows changed := by
  unfold declare at declared
  split at declared
  · cases declared
  · exact Declaration.growing_elaborateWith _ declared

end DensityGraph
