import DensityGraph.Proofs.Text.Trimmed
import DensityGraph.Proofs.Workspace.Step

/-!
# What restoring a snapshot undoes

Between saving a snapshot and restoring it anything may be done to a workspace, as
long as no other snapshot is saved under the same name: the snapshot is kept, and
what has been declared stays declared with the same formulas.  So every parameter is
given back the value that it had, if all the free parameters that it reaches have
been captured.
-/

namespace DensityGraph.Workspace

variable {w changed captured later restored : Workspace} {kept name : String}

/-- The snapshot of a name is the same, and the table declares all that it did. -/
structure Keeps (kept : String) (w changed : Workspace) : Prop where
  table : w.table.Extends changed.table
  snapshot : changed.snapshots.get? kept = w.snapshots.get? kept

theorem Keeps.trans {last : Workspace} (first : Keeps kept w changed) (second : Keeps kept changed last) :
    Keeps kept w last :=
  ⟨first.table.trans second.table, second.snapshot.trans first.snapshot⟩

theorem Edited.keeps (edited : Edited (.keeping kept) w changed) (wellFormed : w.table.WellFormed) :
    Keeps kept w changed := by
  refine ⟨edited.table.extends_changed wellFormed, ?_⟩
  rcases edited.snapshots with same | ⟨name, snapshot, different, inserted⟩
  · rw [same]
  · rw [inserted, NameMap.get?_insert_of_ne (Ne.symm different)]

/-- Whatever is done, the workspace stays reachable and keeps the snapshot. -/
theorem keeps_of_steps (reachable : w.Reachable) (steps : Relation.ReflTransGen (Step (.keeping kept)) w later) :
    later.Reachable ∧ Keeps kept w later := by
  induction steps with
  | refl => exact ⟨reachable, .refl _, rfl⟩
  | tail _ step ih =>
      obtain ⟨reachableBefore, keeps⟩ := ih
      have valid := reachableBefore.valid
      exact ⟨step.reachable reachableBefore, keeps.trans ((step.edited valid).keeps valid.coherent.toWellFormed)⟩

/-- Everything that a snapshot is saved for is captured with the value that it holds,
and restoring the snapshot at any later moment gives it this value again. -/
theorem Reachable.holds_of_restoreSnapshot (reachable : w.Reachable) {parameters : List String} {now : Timestamp}
    (saved : w.saveSnapshot kept parameters now = .ok captured)
    (steps : Relation.ReflTransGen (Step (.keeping kept)) captured later) (back : later.restoreSnapshot kept = .ok restored)
    {value : Float} (listed : name ∈ parameters.map Text.trim) (holds : w.table.Holds name value) :
    restored.table.Holds name value := by
  obtain ⟨laterReachable, keeps⟩ := keeps_of_steps (reachable.saveSnapshot saved) steps
  obtain ⟨snapshots, savedThere, rfl⟩ := saveSnapshot_eq_ok.1 saved
  obtain ⟨snapshot, rfl, sorted, names, held⟩ :=
    Snapshots.exists_of_save reachable.valid.coherent.toWellFormed savedThere
  have found : later.snapshots.get? kept = some snapshot := keeps.snapshot.trans NameMap.get?_insert_self
  obtain ⟨table, restoredTable, rfl⟩ := restoreSnapshot_eq_ok.1 back
  have given := Snapshots.holds_of_restore laterReachable.valid.coherent.toWellFormed sorted found restoredTable
  obtain ⟨entry, member, rfl⟩ := List.mem_map.mp ((names name).2 listed)
  obtain rfl := holds.unique (held entry member)
  exact given entry member

/-- Restoring a snapshot gives every parameter that there was when it was saved the
value, or the error, that it had then, if the snapshot was saved for all the free
parameters that the value is computed from. -/
theorem Reachable.value_restored (reachable : w.Reachable) {parameters : List String} {now : Timestamp}
    (saved : w.saveSnapshot kept parameters now = .ok captured)
    (steps : Relation.ReflTransGen (Step (.keeping kept)) captured later) (back : later.restoreSnapshot kept = .ok restored)
    (declared : captured.table.HasParameter name)
    (listed : ∀ free, Relation.ReflTransGen captured.table.DependsOn name free → captured.table.IsFree free →
      ∃ given ∈ parameters, Text.trim given = Text.trim free) : restored.value name = captured.value name := by
  have wellFormed := reachable.valid.coherent.toWellFormed
  obtain ⟨laterReachable, keeps⟩ := keeps_of_steps (reachable.saveSnapshot saved) steps
  have restoredReachable := laterReachable.restoreSnapshot back
  have laterValid := laterReachable.valid
  have edited : Edited (.keeping kept) later restored := (Step.restoreSnapshot back).edited laterValid
  have keepsToo := keeps.trans (edited.keeps laterValid.coherent.toWellFormed)
  have sameTable : captured.table = w.table := by
    obtain ⟨_, _, rfl⟩ := saveSnapshot_eq_ok.1 saved
    rfl
  apply keepsToo.table.value_eq
  · rw [sameTable]
    exact wellFormed.toStructured
  · exact restoredReachable.valid.coherent.toStructured
  · exact declared
  · intro free value reached holds
    obtain ⟨given, member, trimmed⟩ := listed free reached holds.isFree
    rw [sameTable] at holds
    apply reachable.holds_of_restoreSnapshot saved steps back _ holds
    -- the name of a node is not changed by trimming, so it is one of those that were saved
    obtain ⟨_, found⟩ := holds
    obtain ⟨inTable, _⟩ := Table.mem_of_find? (Table.parameter_eq_ok.1 found)
    have valid : isValidName free = true := wellFormed.named _ inTable
    rw [← Text.trim_of_isValidName valid, ← trimmed]
    exact List.mem_map_of_mem member

/-- A parameter that is twice another one, which is captured, raised, and brought
back. -/
def raised : Except ModelError (Workspace × Workspace × Workspace × Workspace) := do
  let (_, w) ← (new "w" ⟨0, 0, 0⟩).declare "Gaussian::g(x[-5,5],expr::m('2*a',{a[0.5,-1,1]}),s[1,0.1,2])"
  let captured ← w.saveSnapshot "s" [" a", "x", "s"] ⟨0, 0, 0⟩
  let later ← captured.setValue "a" 1
  let restored ← later.restoreSnapshot "s"
  return (w, captured, later, restored)

theorem value_restored_raised : ∃ w captured later restored : Workspace,
    w.Reachable ∧ w.saveSnapshot "s" [" a", "x", "s"] ⟨0, 0, 0⟩ = .ok captured ∧
      Relation.ReflTransGen (Step (.keeping "s")) captured later ∧ later.restoreSnapshot "s" = .ok restored ∧
      captured.table.HasParameter "m" ∧ later.value "m" ≠ captured.value "m" ∧
      restored.value "m" = captured.value "m" := by
  have evaluated : raised.toOption.any (fun (_, captured, later, _) =>
      (captured.table.parameter "m").toBool && decide (later.value "m" ≠ captured.value "m") &&
        captured.table.nodes.all fun node =>
          node.parameter?.all fun p => !p.isFree || ["a", "x", "s"].contains p.name) = true := by
    decide +kernel
  cases built : raised with
  | error e => simp [built, Except.toOption] at evaluated
  | ok result =>
      obtain ⟨w, captured, later, restored⟩ := result
      simp only [built, Except.toOption, Option.any_some, Bool.and_eq_true, decide_eq_true_eq,
        List.all_eq_true] at evaluated
      obtain ⟨⟨found, different⟩, names⟩ := evaluated
      simp only [raised, bind_eq_ok, pure_eq_ok] at built
      obtain ⟨_, done, _, saved, _, set, _, back, same⟩ := built
      cases same
      have reachable := Reachable.declare (.new _ _) done
      have steps : Relation.ReflTransGen (Step (.keeping "s")) captured later := .single (.setValue set)
      have declared : captured.table.HasParameter "m" := Table.hasParameter_iff.2 (exists_ok_of_toBool found)
      refine ⟨_, captured, later, restored, reachable, saved, steps, back, declared, different,
        Reachable.value_restored reachable saved steps back declared ?_⟩
      rintro free - ⟨p, foundFree, isFree⟩
      obtain ⟨member, rfl⟩ := Table.mem_of_find? (Table.parameter_eq_ok.1 foundFree)
      have listed : p.name = "a" ∨ p.name = "x" ∨ p.name = "s" := by
        simpa [Node.parameter?, isFree] using names _ member
      obtain named | named | named := listed
      all_goals rw [Node.name, named]
      · exact ⟨" a", by decide, by decide +kernel⟩
      · exact ⟨"x", by decide, rfl⟩
      · exact ⟨"s", by decide, rfl⟩

end DensityGraph.Workspace
