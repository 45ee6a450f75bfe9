import DensityGraph.Proofs.Declaration.Nesting

/-!
# Declarations that use their own name

A new declaration that uses its own name is refused before anything in it is looked up.  The test is not
needed for that: whatever a declaration uses has been found declared by the time its own node is added, and
a name is not added twice.  So with the test that refuses nothing the same declarations are accepted, and
those that the other refuses fail for another reason.
-/

namespace DensityGraph.Declaration

open Elaborator

variable {α β : Type} {table reached : Table} {name n : String}

/-- A step that succeeds leaves all that is mentioned declared. -/
def Finds (mentioned : String → Bool) (step : Elaborator α) : Prop :=
  ∀ ⦃table a reached⦄, step table = .ok (a, reached) → ∀ name, mentioned name = true → name ∈ reached.names

namespace Finds

variable {mentioned more : String → Bool} {first : Elaborator α} {next : α → Elaborator β}

theorem bind (finds : Finds mentioned first) (nextFinds : ∀ a, Finds more (next a))
    (growing : ∀ a, Growing (next a)) : Finds (fun name => mentioned name || more name) (first >>= next) := by
  intro table b reached ran name among
  obtain ⟨a, middle, firstRan, nextRan⟩ := run_bind_eq_ok.1 ran
  rcases Bool.or_eq_true_iff.1 among with early | late
  · exact (growing a nextRan).included.names_subset (finds firstRan name early)
  · exact nextFinds a nextRan name late

/-- A step that mentions nothing may follow. -/
theorem followed (finds : Finds mentioned first) (growing : ∀ a, Growing (next a)) :
    Finds mentioned (first >>= next) := by
  intro table b reached ran name among
  obtain ⟨a, middle, firstRan, nextRan⟩ := run_bind_eq_ok.1 ran
  exact (growing a nextRan).included.names_subset (finds firstRan name among)

theorem map (finds : Finds mentioned first) (change : α → β) :
    Finds mentioned (first >>= fun a => Pure.pure (change a)) :=
  finds.followed fun _ => Growing.pure _

theorem of_throw {e : ModelError} : Finds mentioned (throw e : Elaborator α) := by
  rintro table a reached ⟨⟩

theorem mono {step : Elaborator α} (finds : Finds mentioned step)
    (covers : ∀ name, more name = true → mentioned name = true) : Finds more step :=
  fun _ _ _ ran name among => finds ran name (covers name among)

theorem of_none {step : Elaborator α} (nothing : ∀ name, mentioned name = false) : Finds mentioned step := by
  intro _ _ _ _ name among
  rw [nothing name] at among
  cases among

theorem parameter (target : String) :
    Finds (fun name => target == name) (check fun table => table.parameter target) := by
  intro table p reached ran name among
  obtain ⟨found, rfl⟩ := check_eq_ok.1 ran
  obtain rfl := beq_iff_eq.1 among
  exact (Table.hasParameter_iff.2 ⟨p, found⟩).mem_names

theorem density (target : String) :
    Finds (fun name => target == name) (check fun table => table.density target) := by
  intro table d reached ran name among
  obtain ⟨found, rfl⟩ := check_eq_ok.1 ran
  obtain rfl := beq_iff_eq.1 among
  exact (Table.hasDensity_iff.2 ⟨d, found⟩).mem_names

end Finds

/-- A nested declaration mentions what its arguments mention. -/
theorem mentions_nested (declaration : Declaration) :
    (Argument.nested declaration).mentions name = Argument.anyMentions name declaration.arguments := by
  cases declaration <;> rw [Argument.mentions] <;> rfl

theorem anyMentions_cons (argument : Argument) (rest : List Argument) :
    (fun name => Argument.anyMentions name (argument :: rest)) =
      fun name => argument.mentions name || Argument.anyMentions name rest := by
  funext name
  rw [Argument.anyMentions]

variable {refuses : Test}

mutual

theorem finds_elaborateWith : (declaration : Declaration) →
    Finds (fun name => Argument.anyMentions name declaration.arguments) (elaborateWith refuses declaration)
  | .free name value lower upper offset => .of_none fun _ => rfl
  | .derived name source dependencies offset => by
      intro table n reached ran
      rw [elaborateWith] at ran
      refine (finds_elaborateParameters dependencies).followed (fun names => ?_) (run_tested_eq_ok.1 ran).2
      apply @growing_declareParameter Formula String _ (Parameter.derived name)
      intro _ formula compiled
      exact ⟨Parameter.sound_derived name formula, derived_compiled (mapError_eq_ok.1 compiled)⟩
  | .density .gaussian name [x, mean, sigma] offset => by
      intro table n reached ran
      rw [elaborateWith, ← elaborate_gaussian] at ran
      refine (finds_elaborateParameters [x, mean, sigma]).followed (fun names => ?_) (run_tested_eq_ok.1 ran).2
      unfold insertGaussian
      split
      · exact growing_insertDensity _
      · exact Growing.throw _
  | .density .uniform name (first :: rest) offset => by
      intro table n reached ran
      rw [elaborateWith] at ran
      exact (finds_elaborateParameters (first :: rest)).followed (fun _ => growing_insertDensity _)
        (run_tested_eq_ok.1 ran).2
  | .density .mixture name (first :: second :: rest) offset => by
      intro table n reached ran
      rw [elaborateWith] at ran
      exact (finds_elaborateBranches name (first :: second :: rest)).followed (fun _ => growing_insertDensity _)
        (run_tested_eq_ok.1 ran).2
  | .density .product name (first :: rest) offset => by
      intro table n reached ran
      rw [elaborateWith] at ran
      obtain ⟨_, _, seen, ranBehind⟩ := run_bind_eq_ok.1 (run_tested_eq_ok.1 ran).2
      exact (finds_elaborateFactors [] [] (first :: rest)).followed (fun _ => growing_insertProduct name _ _)
        (run_guard_eq_ok.1 ranBehind).2
  | .density .gaussian name [] offset | .density .gaussian name [_] offset
  | .density .gaussian name [_, _] offset | .density .gaussian name (_ :: _ :: _ :: _ :: _) offset
  | .density .uniform name [] offset | .density .mixture name [] offset
  | .density .mixture name [_] offset | .density .product name [] offset => by
      intro table n reached ran
      unfold elaborateWith at ran
      cases (run_tested_eq_ok.1 ran).2

theorem finds_elaborateParameter : (argument : Argument) → Finds argument.mentions (elaborateParameter refuses argument)
  | .reference target offset => by
      unfold elaborateParameter
      exact (Finds.parameter target).map _
  | .constant value text => .of_none fun _ => rfl
  | .nested declaration => by
      unfold elaborateParameter
      simp only [mentions_nested]
      exact (finds_elaborateWith declaration).followed fun _ => (Growing.check _).bind fun _ => Growing.pure _
  | .conditioned part given offset | .weighted weight part offset => by
      unfold elaborateParameter
      exact .of_throw

theorem finds_elaborateParameters : (arguments : List Argument) →
    Finds (fun name => Argument.anyMentions name arguments) (elaborateParameters refuses arguments)
  | [] => .of_none fun _ => rfl
  | argument :: rest => by
      unfold elaborateParameters
      rw [anyMentions_cons]
      exact (finds_elaborateParameter argument).bind (fun _ => (finds_elaborateParameters rest).map _)
        fun _ => (growing_elaborateParameters rest).bind fun _ => Growing.pure _

theorem finds_elaborateDensity : (argument : Argument) → Finds argument.mentions (elaborateDensity refuses argument)
  | .reference target offset => by
      unfold elaborateDensity
      exact (Finds.density target).map _
  | .nested declaration => by
      unfold elaborateDensity
      simp only [mentions_nested]
      exact (finds_elaborateWith declaration).followed fun _ => (Growing.check _).bind fun _ => Growing.pure _
  | .constant value text | .conditioned part given offset | .weighted weight part offset => by
      unfold elaborateDensity
      exact .of_throw

theorem finds_elaborateBranches (owner : String) : (arguments : List Argument) →
    Finds (fun name => Argument.anyMentions name arguments) (elaborateBranches refuses owner arguments)
  | [] => .of_none fun _ => rfl
  | [remainder] => by
      have finds := finds_elaborateDensity remainder
      cases remainder with
      | weighted weight part offset =>
          unfold elaborateBranches
          exact .of_throw
      | _ =>
          unfold elaborateBranches
          simpa only [Argument.anyMentions, Bool.or_false] using finds.map _
  | .weighted weight part offset :: second :: rest => by
      unfold elaborateBranches
      simp only [anyMentions_cons _ (second :: rest), Argument.mentions, Bool.or_assoc]
      refine (finds_elaborateParameter weight).bind (fun weightName => ?_) fun weightName => ?_
      · refine (finds_elaborateDensity part).bind (fun partName => ?_) fun partName => ?_
        · exact (finds_elaborateBranches owner (second :: rest)).map _
        · exact (growing_elaborateBranches owner (second :: rest)).bind fun _ => Growing.pure _
      · apply Growing.bind (growing_elaborateDensity part)
        intro partName
        exact (growing_elaborateBranches owner (second :: rest)).bind fun _ => Growing.pure _
  | .reference .. :: _ :: _ | .constant .. :: _ :: _ | .nested _ :: _ :: _
  | .conditioned .. :: _ :: _ => by
      unfold elaborateBranches
      exact .of_throw

theorem finds_elaborateFactors (plain : List String) (groups : Groups) : (arguments : List Argument) →
    Finds (fun name => Argument.anyMentions name arguments) (elaborateFactors refuses plain groups arguments)
  | [] => .of_none fun _ => rfl
  | argument :: rest => by
      have finds := finds_elaborateDensity argument
      cases argument with
      | conditioned part given offset =>
          unfold elaborateFactors
          have behind (name : String) := (Finds.parameter given).bind
            (fun _ => finds_elaborateFactors plain (addToGroup given name groups) rest)
            fun _ => growing_elaborateFactors plain _ rest
          apply ((finds_elaborateDensity part).bind behind fun _ =>
            (Growing.check _).bind fun _ => growing_elaborateFactors plain _ rest).mono
          intro name among
          rw [Argument.anyMentions, Argument.mentions, Bool.or_comm (given == name), Bool.or_assoc] at among
          exact among
      | _ =>
          unfold elaborateFactors
          rw [anyMentions_cons]
          exact finds.bind (fun _ => finds_elaborateFactors _ groups rest) fun _ =>
            growing_elaborateFactors _ groups rest

end

theorem addsNode_insertGaussian (names : List String) : AddsNode name (insertGaussian name names) := by
  unfold insertGaussian
  split
  · exact addsNode_insertDensity _
  · rintro _ _ _ ⟨⟩

/-- A declaration that mentions its own name among its arguments fails where its node is added. -/
theorem Finds.never {mentioned : String → Bool} {args : Elaborator α} {insert : α → Elaborator String}
    (finds : Finds mentioned args) (adds : ∀ a, AddsNode name (insert a)) (among : mentioned name = true) :
    ∀ result, (args >>= insert) table ≠ .ok result := by
  rintro ⟨n, reached⟩ ran
  obtain ⟨a, middle, argsRan, inserted⟩ := run_bind_eq_ok.1 ran
  exact (adds a inserted).2 (finds argsRan name among)

/-- The test that refuses nothing. -/
def untested : Test := fun _ _ => false

/-- Two steps do the same, but for tables on which both fail, the first one for a cycle. -/
def Stricter (first second : Elaborator α) : Prop :=
  ∀ table, first table = second table ∨ ∃ name e, first table = .error (.cycle name) ∧ second table = .error e

namespace Stricter

variable {first second : Elaborator α} {next other : α → Elaborator β}

theorem refl (step : Elaborator α) : Stricter step step :=
  fun _ => .inl rfl

theorem bind (strict : Stricter first second) (nextStrict : ∀ a, Stricter (next a) (other a)) :
    Stricter (first >>= next) (second >>= other) := by
  intro table
  obtain same | ⟨name, e, refused, failed⟩ := strict table
  · cases ran : second table with
    | error e =>
        left
        exact (bind_eq_error.2 (.inl (same.trans ran))).trans (bind_eq_error.2 (.inl ran)).symm
    | ok result =>
        obtain ⟨a, middle⟩ := result
        have both {step : Elaborator α} {behind : α → Elaborator β} (stepRan : step table = .ok (a, middle)) :
            (step >>= behind) table = behind a middle := by
          simp only [Bind.bind, StateT.bind, stepRan, Except.bind]
        rw [both (same.trans ran), both ran]
        exact nextStrict a middle
  · exact .inr ⟨name, e, bind_eq_error.2 (.inl refused), bind_eq_error.2 (.inl failed)⟩

theorem guard {refused : Prop} [Decidable refused] {e : ModelError} (strict : Stricter first second) :
    Stricter (if refused then MonadExcept.throw e >>= fun (_ : Unit) => first else first)
      (if refused then MonadExcept.throw e >>= fun (_ : Unit) => second else second) := by
  by_cases holds : refused
  · rw [if_pos holds, if_pos holds]
    exact .refl _
  · rw [if_neg holds, if_neg holds]
    exact strict

theorem succeeds_iff (strict : Stricter first second) {result : α × Table} :
    first table = .ok result ↔ second table = .ok result := by
  obtain same | ⟨name, e, refused, failed⟩ := strict table
  · rw [same]
  · simp [refused, failed]

theorem fails {e : ModelError} (strict : Stricter first second) (failed : first table = .error e) :
    ∃ cause, second table = .error cause := by
  obtain same | ⟨name, cause, -, failedToo⟩ := strict table
  · exact ⟨e, same.symm.trans failed⟩
  · exact ⟨cause, failedToo⟩

theorem run_get_bind {step : Table → Elaborator α} : (get >>= step) table = step table table :=
  rfl

/-- The test may go where the step behind it fails whenever the test refuses. -/
theorem tested {declaration : Declaration} {step other : Elaborator String} (strict : Stricter step other)
    (never : ∀ ⦃table⦄, refuses table declaration = true → ∀ result, step table ≠ .ok result) :
    Stricter
      (get >>= fun seen =>
        if refuses seen declaration = true then
          MonadExcept.throw (.cycle declaration.name) >>= fun (_ : Unit) => step
        else step)
      (get >>= fun seen =>
        if untested seen declaration = true then
          MonadExcept.throw (.cycle declaration.name) >>= fun (_ : Unit) => other
        else other) := by
  intro table
  rw [run_get_bind, run_get_bind, if_neg (show ¬ untested table declaration = true from Bool.false_ne_true)]
  by_cases refused : refuses table declaration = true
  · rw [if_pos refused]
    cases ran : step table with
    | error e =>
        obtain ⟨cause, failed⟩ := strict.fails ran
        exact .inr ⟨declaration.name, cause, rfl, failed⟩
    | ok result => exact absurd ran (never refused result)
  · rw [if_neg refused]
    exact strict table

end Stricter

/-- A test refuses only declarations that use their own name. -/
def Circular (refuses : Test) : Prop :=
  ∀ ⦃table declaration⦄, refuses table declaration = true → declaration.namesItself = true

mutual

theorem stricter_elaborateWith (circular : Circular refuses) : (declaration : Declaration) →
    Stricter (elaborateWith refuses declaration) (elaborateWith untested declaration)
  | .free name value lower upper offset => by
      unfold elaborateWith
      apply Stricter.tested (.refl _)
      intro table refused
      exact absurd (circular refused) Bool.false_ne_true
  | .derived name source dependencies offset => by
      unfold elaborateWith
      apply ((stricter_elaborateParameters circular dependencies).bind fun _ => .refl _).tested
      intro table refused
      apply (finds_elaborateParameters dependencies).never _ (circular refused)
      intro names
      exact addsNode_insertParameter fun _ _ => rfl
  | .density .gaussian name [x, mean, sigma] offset => by
      rw [elaborateWith, elaborateWith]
      apply Stricter.tested
      · apply (stricter_elaborateParameter circular x).bind
        intro x
        apply (stricter_elaborateParameter circular mean).bind
        intro mean
        apply (stricter_elaborateParameter circular sigma).bind
        intro sigma
        exact .refl _
      · intro table refused
        rw [← elaborate_gaussian]
        apply (finds_elaborateParameters [x, mean, sigma]).never _ (circular refused)
        intro names
        exact addsNode_insertGaussian names
  | .density .uniform name (first :: rest) offset => by
      unfold elaborateWith
      apply ((stricter_elaborateParameters circular (first :: rest)).bind fun _ => .refl _).tested
      intro table refused
      apply (finds_elaborateParameters (first :: rest)).never _ (circular refused)
      intro names
      exact addsNode_insertDensity _
  | .density .mixture name (first :: second :: rest) offset => by
      unfold elaborateWith
      apply ((stricter_elaborateBranches circular name (first :: second :: rest)).bind fun _ => .refl _).tested
      intro table refused
      apply (finds_elaborateBranches name (first :: second :: rest)).never _ (circular refused)
      rintro ⟨branches, remainder⟩
      exact addsNode_insertDensity _
  | .density .product name (first :: rest) offset => by
      unfold elaborateWith
      apply Stricter.tested
      · apply (Stricter.refl get).bind
        intro seen
        apply Stricter.guard
        apply (stricter_elaborateFactors circular [] [] (first :: rest)).bind
        rintro ⟨plain, groups⟩
        exact .refl _
      · rintro table refused ⟨n, reached⟩ ran
        obtain ⟨_, _, _, ranBehind⟩ := run_bind_eq_ok.1 ran
        refine (finds_elaborateFactors [] [] (first :: rest)).never ?_ (circular refused) _ (run_guard_eq_ok.1 ranBehind).2
        rintro ⟨plain, groups⟩
        exact addsNode_insertProduct name plain groups
  | .density .gaussian name [] offset | .density .gaussian name [_] offset
  | .density .gaussian name [_, _] offset | .density .gaussian name (_ :: _ :: _ :: _ :: _) offset
  | .density .uniform name [] offset | .density .mixture name [] offset
  | .density .mixture name [_] offset | .density .product name [] offset => by
      unfold elaborateWith
      apply Stricter.tested (.refl _)
      rintro _ _ _ ⟨⟩

theorem stricter_elaborateParameter (circular : Circular refuses) : (argument : Argument) →
    Stricter (elaborateParameter refuses argument) (elaborateParameter untested argument)
  | .nested declaration => by
      unfold elaborateParameter
      exact (stricter_elaborateWith circular declaration).bind fun _ => .refl _
  | .reference .. | .constant .. | .conditioned .. | .weighted .. => by
      unfold elaborateParameter
      exact .refl _

theorem stricter_elaborateParameters (circular : Circular refuses) : (arguments : List Argument) →
    Stricter (elaborateParameters refuses arguments) (elaborateParameters untested arguments)
  | [] => by
      unfold elaborateParameters
      exact .refl _
  | argument :: rest => by
      unfold elaborateParameters
      apply (stricter_elaborateParameter circular argument).bind
      intro name
      exact (stricter_elaborateParameters circular rest).bind fun _ => .refl _

theorem stricter_elaborateDensity (circular : Circular refuses) : (argument : Argument) →
    Stricter (elaborateDensity refuses argument) (elaborateDensity untested argument)
  | .nested declaration => by
      unfold elaborateDensity
      exact (stricter_elaborateWith circular declaration).bind fun _ => .refl _
  | .reference .. | .constant .. | .conditioned .. | .weighted .. => by
      unfold elaborateDensity
      exact .refl _

theorem stricter_elaborateBranches (circular : Circular refuses) (owner : String) : (arguments : List Argument) →
    Stricter (elaborateBranches refuses owner arguments) (elaborateBranches untested owner arguments)
  | [] => by
      unfold elaborateBranches
      exact .refl _
  | [remainder] => by
      have strict := stricter_elaborateDensity circular remainder
      cases remainder with
      | weighted weight part offset =>
          unfold elaborateBranches
          exact .refl _
      | _ =>
          unfold elaborateBranches
          exact strict.bind fun _ => .refl _
  | .weighted weight part offset :: second :: rest => by
      unfold elaborateBranches
      apply (stricter_elaborateParameter circular weight).bind
      intro weightName
      apply (stricter_elaborateDensity circular part).bind
      intro partName
      exact (stricter_elaborateBranches circular owner (second :: rest)).bind fun _ => .refl _
  | .reference .. :: _ :: _ | .constant .. :: _ :: _ | .nested _ :: _ :: _
  | .conditioned .. :: _ :: _ => by
      unfold elaborateBranches
      exact .refl _

theorem stricter_elaborateFactors (circular : Circular refuses) (plain : List String) (groups : Groups) : (arguments : List Argument) →
    Stricter (elaborateFactors refuses plain groups arguments) (elaborateFactors untested plain groups arguments)
  | [] => by
      unfold elaborateFactors
      exact .refl _
  | argument :: rest => by
      have strict := stricter_elaborateDensity circular argument
      cases argument with
      | conditioned part given offset =>
          unfold elaborateFactors
          apply (stricter_elaborateDensity circular part).bind
          intro name
          apply (Stricter.refl _).bind
          intro _
          exact stricter_elaborateFactors circular plain _ rest
      | _ =>
          unfold elaborateFactors
          apply strict.bind
          intro name
          exact stricter_elaborateFactors circular _ groups rest

end

/-- A new declaration that uses its own name is refused for a cycle. -/
theorem elaborate_of_namesItself {declaration : Declaration} (new : declaration.name ∉ table.names)
    (itself : declaration.namesItself = true) : elaborate declaration table = .error (.cycle declaration.name) := by
  have refused : isCircular table declaration = true := by
    rw [isCircular, itself, Bool.and_true, Bool.not_eq_true', ← Bool.not_eq_true, Table.contains_iff]
    exact new
  unfold elaborate elaborateWith
  rw [Stricter.run_get_bind, if_pos refused]
  rfl

theorem circular_isCircular : Circular isCircular :=
  fun _ _ refused => (Bool.and_eq_true_iff.1 refused).2

/-- The test for a declaration that uses its own name refuses no good declaration: without it, at any depth,
the same declarations are accepted with the same tables, the others fail as before unless the test has
refused them, and whatever it refuses fails anyway. -/
theorem selfReference_refuses_failures (declaration : Declaration) (table : Table) :
    (∀ result, elaborate declaration table = .ok result ↔ elaborateWith untested declaration table = .ok result) ∧
      (∀ e, elaborate declaration table = .error e →
        elaborateWith untested declaration table = .error e ∨
          (∃ name, e = .cycle name) ∧ ∃ cause, elaborateWith untested declaration table = .error cause) ∧
      (declaration.name ∉ table.names → declaration.namesItself = true →
        elaborate declaration table = .error (.cycle declaration.name) ∧
          ∃ e, elaborateWith untested declaration table = .error e) := by
  have strict := stricter_elaborateWith circular_isCircular declaration
  refine ⟨fun result => strict.succeeds_iff, fun e failed => ?_, fun new itself => ?_⟩
  · obtain same | ⟨name, cause, refused, failedToo⟩ := strict table
    · exact .inl (same.symm.trans failed)
    · exact .inr ⟨⟨name, Except.error.inj (failed.symm.trans refused)⟩, cause, failedToo⟩
  · have refused := elaborate_of_namesItself new itself
    exact ⟨refused, strict.fails refused⟩

/-- A product that adds a conditional joint named `q_c_given_v`. -/
def forestaller : Declaration :=
  .density .product "q" [
    .conditioned (.nested (.density .gaussian "c" [
      .nested (.free "y" 0.5 0 1 0), .nested (.free "v" 0.5 0 1 0), .constant 1 "1"] 0)) "v" 0,
    .nested (.density .uniform "u" [.reference "v" 0] 0),
    .nested (.density .uniform "w" [.nested (.free "z" 0.5 0 1 0)] 0)] 0

/-- A product that uses its own name behind a factor that takes it. -/
def forestalled : Declaration :=
  .density .product "q_c_given_v" [.nested forestaller, .reference "q_c_given_v" 0] 0

/-- The name may be taken by then, even by a joint that no text spells. -/
theorem selfReference_refuses_failures_forestalled :
    forestalled.name ∉ Table.empty.names ∧ forestalled.namesItself = true ∧
      (∃ reached, elaborate forestaller Table.empty = .ok ("q", reached) ∧ forestalled.name ∈ reached.names) ∧
      elaborate forestalled Table.empty = .error (.cycle "q_c_given_v") ∧
      ∃ e, elaborateWith untested forestalled Table.empty = .error e := by
  have new : forestalled.name ∉ Table.empty.names := by decide
  have itself : forestalled.namesItself = true := by decide +kernel
  refine ⟨new, itself, ?_, (selfReference_refuses_failures forestalled Table.empty).2.2 new itself⟩
  obtain ⟨⟨name, reached⟩, ran, same⟩ := @exists_ok_of_any _ _ (elaborate forestaller Table.empty)
    (fun result => decide (result.1 = "q" ∧ forestalled.name ∈ result.2.names)) (by decide +kernel)
  obtain ⟨rfl, taken⟩ := of_decide_eq_true same
  exact ⟨reached, ran, taken⟩

end DensityGraph.Declaration
