import DensityGraph.Proofs.Declaration.Appended

/-!
# What the numbers in a declaration stand for

A number in a text stands for the parameter that is named like it.  Declaring the text
makes this parameter, a constant that holds the number, if nothing has its name, and
otherwise takes the parameter that is there, whatever it holds.
-/

namespace DensityGraph

open Declaration (IsNumeral)

/-- A constant that holds the number which its name spells. -/
def Parameter.IsLiteral (p : Parameter) : Prop :=
  ∃ value, p.kind = .free value ⟨value, value⟩ ∧ IsNumeral value p.name

mutual

theorem Declaration.Written.literals : (declaration : Declaration) → declaration.Written →
    ∀ p ∈ declaration.constants, p.IsLiteral
  | .free .., _ => by
      rw [Declaration.constants]
      exact List.forall_mem_nil _
  | .derived _ _ arguments _, written | .density _ _ arguments _, written => by
      rw [Declaration.Written] at written
      rw [Declaration.constants]
      exact Argument.AllWritten.literals arguments written.2

theorem Argument.Written.literals : (argument : Argument) → argument.Written →
    ∀ p ∈ argument.constants, p.IsLiteral
  | .reference .., _ => by
      rw [Argument.constants]
      exact List.forall_mem_nil _
  | .constant value text, written => by
      rw [Argument.Written] at written
      rw [Argument.constants]
      exact List.forall_mem_singleton.mpr ⟨value, rfl, written⟩
  | .nested declaration, written => by
      rw [Argument.Written] at written
      rw [Argument.constants]
      exact Declaration.Written.literals declaration written
  | .conditioned density given _, written => by
      rw [Argument.Written] at written
      rw [Argument.constants]
      exact Argument.Written.literals density written.1
  | .weighted weight density _, written => by
      rw [Argument.Written] at written
      rw [Argument.constants, List.forall_mem_append]
      exact ⟨Argument.Written.literals weight written.1, Argument.Written.literals density written.2⟩

theorem Argument.AllWritten.literals : (arguments : List Argument) → Argument.AllWritten arguments →
    ∀ p ∈ Argument.constantsAll arguments, p.IsLiteral
  | [], _ => by
      rw [Argument.constantsAll]
      exact List.forall_mem_nil _
  | argument :: rest, written => by
      rw [Argument.AllWritten] at written
      rw [Argument.constantsAll, List.forall_mem_append]
      exact ⟨Argument.Written.literals argument written.1, Argument.AllWritten.literals rest written.2⟩

end

/-- A text spells one number. -/
theorem Declaration.IsNumeral.unique {text : String} {first second : Float} (one : IsNumeral first text)
    (other : IsNumeral second text) : first = second :=
  Option.some.inj (one.2.symm.trans other.2)

namespace Declaration

open Elaborator

variable {α β : Type} {constants more : List Parameter} {text : String}

/-- A step that declares nodes, after which some constants are parameters. -/
structure Provides (constants : List Parameter) (step : Elaborator α) : Prop where
  growing : Growing step
  parameters : ∀ ⦃table changed a⦄, step table = .ok (a, changed) → ∀ p ∈ constants, changed.HasParameter p.name

namespace Provides

theorem bind {first : Elaborator α} {next : α → Elaborator β} (firstProvides : Provides constants first)
    (nextProvides : ∀ a, Provides more (next a)) : Provides (constants ++ more) (first >>= next) := by
  constructor
  case growing => exact firstProvides.growing.bind fun a => (nextProvides a).growing
  case parameters =>
    intro table changed b ran
    obtain ⟨a, middle, firstRan, nextRan⟩ := run_bind_eq_ok.1 ran
    rw [List.forall_mem_append]
    refine ⟨fun p isConstant => ?_, (nextProvides a).parameters nextRan⟩
    have included := ((nextProvides a).growing nextRan).included
    exact included.hasParameter (firstProvides.parameters firstRan p isConstant)

theorem of_growing {step : Elaborator α} (growing : Growing step) : Provides [] step :=
  ⟨growing, fun _ _ _ _ => List.forall_mem_nil _⟩

/-- What is declared behind a step takes nothing back. -/
theorem followed {first : Elaborator α} {next : α → Elaborator β} (firstProvides : Provides constants first)
    (growing : ∀ a, Growing (next a)) : Provides constants (first >>= next) := by
  have both := firstProvides.bind fun a => of_growing (growing a)
  rwa [List.append_nil] at both

theorem throw (e : ModelError) : Provides constants (MonadExcept.throw e : Elaborator α) := by
  refine ⟨Growing.throw e, ?_⟩
  intro table changed a ran
  cases ran

theorem guard {refused : Table → Prop} [DecidablePred refused] {e : ModelError} {step : Elaborator α}
    (provides : Provides constants step) :
    Provides constants (get >>= fun table =>
      if refused table then MonadExcept.throw e >>= fun (_ : Unit) => step else step) := by
  constructor
  case growing => exact Growing.get.bind fun _ => Growing.guard provides.growing
  case parameters =>
    intro table changed a ran
    simp only [run_bind_eq_ok, run_get_eq_ok, run_guard_eq_ok] at ran
    obtain ⟨_, _, ⟨rfl, rfl⟩, _, stepRan⟩ := ran
    exact provides.parameters stepRan

theorem checked {step : Elaborator α} (provides : Provides constants step) {test : α → Table → Except ModelError β} :
    Provides constants (step >>= fun a => Elaborator.check (test a) >>= fun _ => Pure.pure a) :=
  provides.followed fun a => (Growing.check _).bind fun _ => Growing.pure a

end Provides

theorem provides_constant (value : Float) : Provides [⟨text, .free value ⟨value, value⟩⟩] (constant value text) := by
  refine ⟨growing_constant value text, ?_⟩
  intro table changed result ran
  rw [List.forall_mem_singleton]
  obtain ⟨rfl, ⟨declared, rfl⟩ | ⟨new, p, made, declared⟩⟩ := constant_eq_ok.1 ran
  · exact declared
  · obtain ⟨_, _, _, rfl⟩ := Table.declareParameter_eq_ok.1 declared
    obtain ⟨_, _, rfl⟩ := Parameter.free_eq_ok.1 made
    exact ⟨_, Table.Included.find?_push_self new⟩

variable {refuses : Test}

mutual

theorem provides_elaborateWith :
    (declaration : Declaration) → Provides declaration.constants (elaborateWith refuses declaration)
  | .free name value lower upper offset => by
      rw [constants]
      exact .of_growing (growing_elaborateWith _)
  | .derived name source dependencies offset => by
      unfold elaborateWith
      rw [constants]
      apply Provides.guard
      apply (provides_elaborateParameters dependencies).followed
      intro names
      apply @growing_declareParameter Formula String _ (Parameter.derived name)
      intro _ formula compiled
      exact ⟨Parameter.sound_derived name formula, derived_compiled (mapError_eq_ok.1 compiled)⟩
  | .density .gaussian name [x, mean, sigma] offset => by
      unfold elaborateWith
      rw [constants]
      simp only [Argument.constantsAll, List.append_nil]
      apply Provides.guard
      apply (provides_elaborateParameter x).bind
      intro x
      apply (provides_elaborateParameter mean).bind
      intro mean
      apply (provides_elaborateParameter sigma).followed
      intro sigma
      exact growing_insertDensity _
  | .density .gaussian name [] offset | .density .gaussian name [_] offset
  | .density .gaussian name [_, _] offset | .density .gaussian name (_ :: _ :: _ :: _ :: _) offset
  | .density .uniform name [] offset | .density .mixture name [] offset
  | .density .mixture name [_] offset | .density .product name [] offset => by
      unfold elaborateWith
      apply Provides.guard
      exact Provides.throw _
  | .density .uniform name (first :: rest) offset => by
      unfold elaborateWith
      rw [constants]
      apply Provides.guard
      apply (provides_elaborateParameters (first :: rest)).followed
      intro names
      exact growing_insertDensity _
  | .density .mixture name (first :: second :: rest) offset => by
      unfold elaborateWith
      rw [constants]
      apply Provides.guard
      apply (provides_elaborateBranches name (first :: second :: rest)).followed
      rintro ⟨branches, remainder⟩
      exact growing_insertDensity _
  | .density .product name (first :: rest) offset => by
      unfold elaborateWith
      rw [constants]
      apply Provides.guard
      apply Provides.guard
      apply (provides_elaborateFactors [] [] (first :: rest)).followed
      rintro ⟨plain, groups⟩
      exact growing_insertProduct name plain groups

theorem provides_elaborateParameter : (argument : Argument) →
    Provides argument.constants (elaborateParameter refuses argument)
  | .reference name offset => by
      rw [Argument.constants]
      exact .of_growing (growing_elaborateParameter _)
  | .constant value text => by
      unfold elaborateParameter
      rw [Argument.constants]
      exact provides_constant value
  | .nested declaration => by
      unfold elaborateParameter
      rw [Argument.constants]
      exact (provides_elaborateWith declaration).checked
  | .conditioned part given offset | .weighted weight part offset => by
      unfold elaborateParameter
      exact Provides.throw _

theorem provides_elaborateParameters : (arguments : List Argument) →
    Provides (Argument.constantsAll arguments) (elaborateParameters refuses arguments)
  | [] => by
      rw [Argument.constantsAll]
      exact .of_growing (growing_elaborateParameters _)
  | argument :: rest => by
      unfold elaborateParameters
      rw [Argument.constantsAll]
      apply (provides_elaborateParameter argument).bind
      intro name
      exact (provides_elaborateParameters rest).followed fun _ => Growing.pure _

theorem provides_elaborateDensity : (argument : Argument) →
    Provides argument.constants (elaborateDensity refuses argument)
  | .reference name offset => by
      rw [Argument.constants]
      exact .of_growing (growing_elaborateDensity _)
  | .nested declaration => by
      unfold elaborateDensity
      rw [Argument.constants]
      exact (provides_elaborateWith declaration).checked
  | .constant value text | .conditioned part given offset | .weighted weight part offset => by
      unfold elaborateDensity
      exact Provides.throw _

theorem provides_elaborateBranches (owner : String) : (arguments : List Argument) →
    Provides (Argument.constantsAll arguments) (elaborateBranches refuses owner arguments)
  | [] => by
      unfold elaborateBranches
      exact Provides.throw _
  | [remainder] => by
      have provides := provides_elaborateDensity remainder
      rw [Argument.constantsAll, Argument.constantsAll, List.append_nil]
      cases remainder with
      | weighted weight part offset =>
          unfold elaborateBranches
          exact Provides.throw _
      | _ =>
          unfold elaborateBranches
          exact provides.followed fun _ => Growing.pure _
  | .weighted weight part offset :: second :: rest => by
      unfold elaborateBranches
      rw [Argument.constantsAll, Argument.constants, List.append_assoc]
      apply (provides_elaborateParameter weight).bind
      intro weightName
      apply (provides_elaborateDensity part).bind
      intro partName
      apply (provides_elaborateBranches owner (second :: rest)).followed
      rintro ⟨branches, remainder⟩
      exact Growing.pure _
  | .reference .. :: _ :: _ | .constant .. :: _ :: _ | .nested _ :: _ :: _
  | .conditioned .. :: _ :: _ => by
      unfold elaborateBranches
      exact Provides.throw _

theorem provides_elaborateFactors (plain : List String) (groups : Groups) : (arguments : List Argument) →
    Provides (Argument.constantsAll arguments) (elaborateFactors refuses plain groups arguments)
  | [] => by
      rw [Argument.constantsAll]
      exact .of_growing (growing_elaborateFactors plain groups _)
  | argument :: rest => by
      have provides := provides_elaborateDensity argument
      rw [Argument.constantsAll]
      cases argument with
      | conditioned part given offset =>
          unfold elaborateFactors
          rw [Argument.constants]
          apply (provides_elaborateDensity part).bind
          intro name
          have checks : Provides [] (check fun table => table.parameter given) := .of_growing (Growing.check _)
          apply checks.bind
          intro _
          exact provides_elaborateFactors plain _ rest
      | _ =>
          unfold elaborateFactors
          apply provides.bind
          intro name
          exact provides_elaborateFactors _ groups rest

end

end Declaration

/-- Constants of one name hold one number. -/
theorem Parameter.IsLiteral.eq_of_name {p q : Parameter} (first : p.IsLiteral) (second : q.IsLiteral)
    (same : q.name = p.name) : q = p := by
  obtain ⟨value, kindEq, numeral⟩ := first
  obtain ⟨other, otherEq, otherNumeral⟩ := second
  obtain rfl := numeral.unique (same ▸ otherNumeral)
  obtain ⟨own, kind⟩ := p
  obtain ⟨ownOther, kindOther⟩ := q
  dsimp only at same kindEq otherEq
  rw [same, kindEq, otherEq]

variable {table changed : Table} {text name : String}

/-- Every number in a text that is declared stands for a parameter of its name.  What
the text describes is added, and all that is added is named like an identifier or is
one of these constants. -/
theorem Table.added_of_declare (declared : table.declare text = .ok (name, changed)) :
    ∃ declaration added made, Declaration.parse text = .ok declaration ∧ changed.nodes = table.nodes ++ added ∧
      Declaration.AllMake declaration.parts made ∧ made ⊆ added ∧
      (∀ p ∈ declaration.constants, p.IsLiteral ∧ changed.HasParameter p.name) ∧
      ∀ node ∈ added, Declaration.Named node.name ∨ ∃ p ∈ declaration.constants, node = .parameter p := by
  unfold declare at declared
  split at declared
  · cases declared
  · rename_i declaration parsed
    have written := Declaration.written_of_parse parsed
    obtain ⟨writtenInside, _⟩ := Declaration.Written.apart declaration written
    have writtenParts : ∀ part ∈ declaration.parts, part.Written :=
      List.forall_mem_append.mpr ⟨writtenInside, List.forall_mem_singleton.mpr written⟩
    obtain ⟨_, _, early, before, own, make, gainsEarly, makes, appended⟩ :=
      Declaration.declares_elaborateWith declaration declared
    have makeAll : Declaration.AllMake declaration.parts (before ++ own) := make.append (.singleton makes)
    have gains := gainsEarly.trans (Declaration.gains_of_append appended)
    rw [List.append_nil] at gains
    refine ⟨declaration, early ++ own, before ++ own, parsed, gains.nodes, makeAll, gains.inOrder.subset,
      fun p isConstant => ⟨?_, ?_⟩, fun node isAdded => ?_⟩
    · exact Declaration.Written.literals declaration written p isConstant
    · exact (Declaration.provides_elaborateWith declaration).parameters declared p isConstant
    · apply (gains.origin node isAdded).imp_left
      exact fun isMade => makeAll.named writtenParts _ (List.mem_map_of_mem isMade)

/-- The parameter that a number stands for is the one that there was, unchanged, or the
new constant. -/
theorem Table.constants_of_declare (declared : table.declare text = .ok (name, changed)) :
    ∃ declaration made, Declaration.parse text = .ok declaration ∧
      Declaration.AllMake declaration.parts made ∧ made ⊆ changed.nodes ∧
      ∀ p ∈ declaration.constants, p.IsLiteral ∧ changed.HasParameter p.name ∧
        (p.name ∈ table.names → changed.find? p.name = table.find? p.name) ∧
        (p.name ∉ table.names → changed.find? p.name = some (.parameter p)) := by
  have included := (grows_of_declare declared).included
  obtain ⟨declaration, added, made, parsed, nodes, make, isMade, constants, origin⟩ := added_of_declare declared
  have inTable : made ⊆ changed.nodes := by
    rw [nodes]
    exact List.Subset.trans isMade (List.subset_append_right _ _)
  refine ⟨declaration, made, parsed, make, inTable, fun p isConstant => ?_⟩
  obtain ⟨literal, q, found⟩ := constants p isConstant
  refine ⟨literal, ⟨q, found⟩, fun old => included.find?_eq old, fun new => ?_⟩
  obtain ⟨member, named⟩ := mem_of_find? found
  rw [nodes, List.mem_append] at member
  have isAdded := member.resolve_left fun old => new (named ▸ List.mem_map_of_mem old)
  rcases origin _ isAdded with likeIdentifier | ⟨other, isConstantToo, same⟩
  · obtain ⟨_, _, numeral⟩ := literal
    exact absurd (named ▸ likeIdentifier) numeral.1
  · obtain rfl := Node.parameter.inj same
    rw [found, literal.eq_of_name (constants q isConstantToo).1 named]

end DensityGraph
