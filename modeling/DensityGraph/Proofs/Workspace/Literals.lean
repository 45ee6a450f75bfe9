import DensityGraph.Proofs.Declaration.Literals
import DensityGraph.Proofs.Table.Held
import DensityGraph.Proofs.Workspace.Step

/-!
# Numbers in later declarations

A number in a declaration takes the parameter that is named like it, if there is one.
That parameter is free, like any other, and setting its range moves its value away
from the number.  Nothing else that is done to a workspace does: as long as no such
range is set, and the bounds of the parameters that were there leave room for their
number only, every number stands for its value.
-/

namespace DensityGraph

open Declaration (IsNumeral)

namespace Number

open Float.Model

theorem beq_of_le (a b : UnpackedFloat) (below : a.le b = true) (above : b.le a = true) : a.beq b = true := by
  revert below above
  rcases a with (_ | _) | _ | (_ | _) | ⟨_ | _, m₁, e₁, _⟩ <;>
    rcases b with (_ | _) | _ | (_ | _) | ⟨_ | _, m₂, e₂, _⟩ <;>
    dsimp only [UnpackedFloat.le, UnpackedFloat.beq, UnpackedFloat.compare] <;>
    simp [compare]
  all_goals
    simp only [compareOfLessAndEq]
    split_ifs <;> simp [Ordering.then] <;> omega

/-- Numbers of which neither exceeds the other are equal, as the two zeros are. -/
theorem equal_of_le {x y : Float} (below : x ≤ y) (above : y ≤ x) : (x == y) = true :=
  beq_of_le (unpacked x) (unpacked y) (le_iff.1 below) (le_iff.1 above)

end Number

/-- If the name of a parameter is a number, the parameter is free and its bounds leave
room for this number only. -/
def Parameter.Pinned (p : Parameter) : Prop :=
  ∀ number, IsNumeral number p.name → ∃ held, p.kind = .free held ⟨number, number⟩

theorem Parameter.IsLiteral.pinned {p : Parameter} (literal : p.IsLiteral) : p.Pinned := by
  intro number numeral
  obtain ⟨value, kindEq, own⟩ := literal
  obtain rfl := own.unique numeral
  exact ⟨value, kindEq⟩

theorem Parameter.Pinned.setValue {p changed : Parameter} {value : Float} (pinned : p.Pinned)
    (set : p.setValue value = .ok changed) : changed.Pinned := by
  obtain ⟨old, bounds, kindEq, _, rfl⟩ := setValue_eq_ok.1 set
  intro number numeral
  obtain ⟨held, pinnedEq⟩ := pinned number numeral
  obtain ⟨_, rfl⟩ := Kind.free.inj (kindEq.symm.trans pinnedEq)
  exact ⟨value, rfl⟩

namespace Table

variable {table changed : Table} {name text : String} {ranges : String → Prop}

/-- All parameters that are named like numbers hold them. -/
def Pinned (table : Table) : Prop := ∀ p, .parameter p ∈ table.nodes → p.Pinned

theorem pinned_empty : empty.Pinned := by
  rintro p ⟨⟩

theorem Pinned.replace (pinned : table.Pinned) {q : Parameter} (pinnedToo : q.Pinned) : (table.replace q).Pinned := by
  intro p member
  obtain ⟨node, isNode, same⟩ := List.mem_map.mp member
  split at same
  · cases same
    exact pinnedToo
  · subst same
    exact pinned p isNode

theorem Pinned.setValue (pinned : table.Pinned) {value : Float} (set : table.setValue name value = .ok changed) :
    changed.Pinned := by
  obtain ⟨p, q, found, setParameter, rfl⟩ := setValue_eq_ok.1 set
  exact pinned.replace ((pinned p (mem_of_find? found).1).setValue setParameter)

/-- The range of a parameter that is not named like a number may be set. -/
theorem Pinned.setRange (pinned : table.Pinned) {lower upper : Float} (noNumeral : ∀ number, ¬ IsNumeral number name)
    (set : table.setRange name lower upper = .ok changed) : changed.Pinned := by
  obtain ⟨p, q, found, setParameter, rfl⟩ := setRange_eq_ok.1 set
  obtain ⟨_, _, _, _, rfl⟩ := Parameter.setRange_eq_ok.1 setParameter
  obtain ⟨_, named⟩ := mem_of_find? found
  apply pinned.replace
  intro number numeral
  exact absurd (named ▸ numeral) (noNumeral number)

theorem Pinned.declare (pinned : table.Pinned) (declared : table.declare text = .ok (name, changed)) :
    changed.Pinned := by
  obtain ⟨declaration, added, _, _, nodes, _, _, constants, origin⟩ := added_of_declare declared
  intro p member
  rw [nodes, List.mem_append] at member
  rcases member with old | isAdded
  · exact pinned p old
  · rcases origin _ isAdded with likeIdentifier | ⟨other, isConstant, same⟩
    · exact fun number numeral => absurd likeIdentifier numeral.1
    · obtain rfl := Node.parameter.inj same
      exact (constants p isConstant).1.pinned

/-- Nothing but setting a range moves a parameter away from the number that names it. -/
theorem Pinned.edit (pinned : table.Pinned) (edit : Edit (fun name => ∀ number, ¬ IsNumeral number name) table changed) :
    changed.Pinned := by
  cases edit with
  | unchanged => exact pinned
  | declare done => exact pinned.declare done
  | density done =>
      obtain ⟨_, _, _, _, _, rfl⟩ := declareDensity_eq_ok.1 done
      intro p member
      rcases List.mem_append.mp member with old | last
      · exact pinned p old
      · cases List.mem_singleton.mp last
  | setValue done => exact pinned.setValue done
  | setRange allowed done => exact pinned.setRange allowed done
  | restore => exact Snapshots.restore_induction _ _ _ pinned fun _ _ _ _ pinned set => pinned.setValue set

/-- A parameter that is pinned has the value of its number. -/
theorem WellFormed.value_of_pinned (wellFormed : table.WellFormed) (pinned : table.Pinned)
    (declared : table.HasParameter text) {number : Float} (numeral : IsNumeral number text) :
    ∃ held, table.value text = .ok held ∧ (held == number) = true := by
  obtain ⟨p, found⟩ := declared
  obtain ⟨member, rfl⟩ := mem_of_find? found
  obtain ⟨held, kindEq⟩ := pinned p member number numeral
  obtain ⟨own, kind⟩ := p
  obtain rfl : kind = .free held ⟨number, number⟩ := kindEq
  have sound := (wellFormed.sound _ member held ⟨number, number⟩ rfl).2
  obtain ⟨above, below⟩ := Bounds.contains_iff.1 (Parameter.admits_iff.1 sound).2
  exact ⟨held, value_of_holds wellFormed.toStructured ⟨_, parameter_eq_ok.2 found⟩, Number.equal_of_le below above⟩

end Table

namespace Workspace

variable {w changed origin : Workspace} {text name : String}

/-- Only the ranges of parameters that are not named like numbers are set. -/
abbrev KeepsNumbers : Workspace → Workspace → Prop :=
  Relation.ReflTransGen (Step (.ranging fun name => ∀ number, ¬ IsNumeral number name))

theorem pinned_of_steps (reachable : origin.Reachable) (pinned : origin.table.Pinned) (steps : KeepsNumbers origin w) :
    w.table.Pinned := by
  induction steps with
  | refl => exact pinned
  | tail earlier step ih => exact ih.edit (step.edited (reachable_of_steps reachable earlier).valid).table

/-- Every number in a text that is declared stands for a parameter of its name: the
nodes that the text describes have this name where it has the number.  A new one holds
the number and an old one holds what it held.  This is the number again in every
workspace that has been built, from an empty one or from one in which it was, by
operations that set no range of such a parameter. -/
theorem Reachable.literals_of_declare (reachable : w.Reachable) (declared : w.declare text = .ok (name, changed)) :
    ∃ declaration made, Declaration.parse text = .ok declaration ∧
      Declaration.AllMake declaration.parts made ∧ made ⊆ changed.table.nodes ∧
      ∀ p ∈ declaration.constants, ∃ number, IsNumeral number p.name ∧ changed.table.HasParameter p.name ∧
        (p.name ∉ w.table.names → changed.value p.name = .ok number) ∧
        (p.name ∈ w.table.names → changed.value p.name = w.value p.name) ∧
        ∀ origin : Workspace, origin.Reachable → origin.table.Pinned → KeepsNumbers origin w →
          ∃ held, changed.value p.name = .ok held ∧ (held == number) = true := by
  have structured := reachable.valid.coherent.toStructured
  have wellFormedAfter := (reachable.declare declared).valid.coherent.toWellFormed
  obtain ⟨table, tableDeclared, rfl⟩ := declare_eq_ok.1 declared
  have included := (Table.grows_of_declare tableDeclared).included
  obtain ⟨declaration, made, parsed, make, isMade, literals⟩ := Table.constants_of_declare tableDeclared
  refine ⟨declaration, made, parsed, make, isMade, fun p isConstant => ?_⟩
  obtain ⟨⟨number, kindEq, numeral⟩, hasParameter, kept, held⟩ := literals p isConstant
  refine ⟨number, numeral, hasParameter, fun new => ?_, fun old => ?_, fun origin before pinned steps => ?_⟩
  · have found := held new
    obtain ⟨own, kind⟩ := p
    obtain rfl : kind = .free number ⟨number, number⟩ := kindEq
    exact Table.value_of_holds wellFormedAfter.toStructured ⟨_, Table.parameter_eq_ok.2 found⟩
  · have hasParameterBefore := included.hasParameter_of_mem old hasParameter
    exact included.value_eq structured wellFormedAfter.toStructured hasParameterBefore
  · exact wellFormedAfter.value_of_pinned ((pinned_of_steps before pinned steps).declare tableDeclared) hasParameter
      numeral

theorem pinned_new (name : String) (now : Timestamp) : (new name now).table.Pinned :=
  Table.pinned_empty

/-- Two densities with one mean, a number. -/
def sharedMean : Except ModelError (Workspace × Workspace) := do
  let (_, w) ← (new "w" ⟨0, 0, 0⟩).declare "Gaussian::g(x[-5,5],0.5,1)"
  let (_, changed) ← w.declare "Gaussian::h(y[-5,5],0.5,2)"
  return (w, changed)

theorem exists_constants_sharedMean : ∃ declaration, Declaration.parse "Gaussian::h(y[-5,5],0.5,2)" = .ok declaration ∧
    declaration.constants.map Parameter.name = ["0.5", "2"] := by
  have names : (Declaration.parse "Gaussian::h(y[-5,5],0.5,2)").toOption.any (fun declaration =>
      decide (declaration.constants.map Parameter.name = ["0.5", "2"])) = true := by
    decide +kernel
  cases parsed : Declaration.parse "Gaussian::h(y[-5,5],0.5,2)" with
  | error e => simp [parsed, Except.toOption] at names
  | ok declaration => exact ⟨declaration, rfl, by simpa [parsed, Except.toOption] using names⟩

theorem literals_of_declare_sharedMean : ∃ (w changed : Workspace) (name : String) (declaration : Declaration),
    w.Reachable ∧ w.declare "Gaussian::h(y[-5,5],0.5,2)" = .ok (name, changed) ∧
      Declaration.parse "Gaussian::h(y[-5,5],0.5,2)" = .ok declaration ∧
      declaration.constants.map Parameter.name = ["0.5", "2"] ∧ ∀ p ∈ declaration.constants, ∃ number held,
        IsNumeral number p.name ∧ changed.value p.name = .ok held ∧ (held == number) = true := by
  have evaluated : sharedMean.toOption.isSome = true := by decide +kernel
  cases built : sharedMean with
  | error e => simp [built, Except.toOption] at evaluated
  | ok result =>
      simp only [sharedMean, bind_eq_ok] at built
      obtain ⟨⟨_, w⟩, first, ⟨name, changed⟩, second, _⟩ := built
      have reachable := Reachable.declare (.new _ _) first
      obtain ⟨declaration, _, parsed, _, _, literals⟩ := Reachable.literals_of_declare reachable second
      obtain ⟨_, parsedToo, names⟩ := exists_constants_sharedMean
      obtain rfl := Except.ok.inj (parsed.symm.trans parsedToo)
      refine ⟨w, changed, name, declaration, reachable, second, parsed, names, fun p isConstant => ?_⟩
      obtain ⟨number, numeral, _, _, _, since⟩ := literals p isConstant
      obtain ⟨held, value, equal⟩ := since _ (.new _ _) (pinned_new _ _) (.single (.declare first))
      exact ⟨number, held, numeral, value, equal⟩

/-- The same with another range for the number in between. -/
def movedMean : Except ModelError (Workspace × Workspace) := do
  let (_, w) ← (new "w" ⟨0, 0, 0⟩).declare "Gaussian::g(x[-5,5],0.5,1)"
  let w ← w.setRange "0.5" 2 3
  let (_, changed) ← w.declare "Gaussian::h(y[-5,5],0.5,2)"
  return (w, changed)

/-- The second density takes the parameter that is named like its mean, of which the
value has been moved to 2. -/
theorem not_number_of_movedMean : ∃ (w changed : Workspace) (name : String) (declaration : Declaration),
    w.Reachable ∧ w.declare "Gaussian::h(y[-5,5],0.5,2)" = .ok (name, changed) ∧
      Declaration.parse "Gaussian::h(y[-5,5],0.5,2)" = .ok declaration ∧
      "0.5" ∈ declaration.constants.map Parameter.name ∧ IsNumeral 0.5 "0.5" ∧
      changed.value "0.5" = .ok 2 ∧ ((2 : Float) == 0.5) = false := by
  have evaluated : movedMean.toOption.any (fun result => decide (result.2.value "0.5" = .ok 2)) = true := by
    decide +kernel
  have numeral : IsNumeral 0.5 "0.5" := by
    refine ⟨?_, by decide +kernel⟩
    rintro ⟨first, rest, spelled, begins⟩
    obtain ⟨rfl, _⟩ := List.cons.inj spelled
    revert begins
    decide
  cases built : movedMean with
  | error e => simp [built, Except.toOption] at evaluated
  | ok result =>
      simp only [built, Except.toOption, Option.any_some, decide_eq_true_eq] at evaluated
      simp only [movedMean, bind_eq_ok, pure_eq_ok] at built
      obtain ⟨_, first, w, moved, ⟨name, changed⟩, second, rfl⟩ := built
      obtain ⟨declaration, parsed, names⟩ := exists_constants_sharedMean
      exact ⟨w, changed, name, declaration, .setRange (.declare (.new _ _) first) moved, second, parsed,
        by simp [names], numeral, evaluated, by decide +kernel⟩

end Workspace

end DensityGraph
