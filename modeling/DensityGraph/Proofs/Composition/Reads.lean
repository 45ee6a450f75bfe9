import DensityGraph.Composition.Variables
import DensityGraph.Proofs.Composition.Variables

/-!
# The parameters that are read

The search for a parameter that a density reads ends well on every structured
table, and its answer stays the same under more fuel and on every larger table.
-/

namespace DensityGraph.Table

variable {table larger : Table} {name target : String} {depth deeper : Nat} {found : Bool}

theorem parameterReadsWithin_eq_ok :
    table.parameterReadsWithin target depth name = .ok found ↔
      (name = target ∧ found = true) ∨
        (name ≠ target ∧ ∃ p, table.parameter name = .ok p ∧
          ((p.dependencies = [] ∧ found = false) ∨
            ∃ less, depth = less + 1 ∧ p.dependencies ≠ [] ∧
              p.dependencies.anyM (table.parameterReadsWithin target less) = .ok found)) := by
  rw [parameterReadsWithin.eq_def]
  by_cases itself : name = target
  · simp only [itself, if_true, Except.ok.injEq, true_and, ne_eq, not_true_eq_false, false_and, or_false]
    exact eq_comm
  · simp only [itself, if_false, false_and, false_or, ne_eq, not_false_eq_true, true_and]
    cases declared : table.parameter name with
    | error e => simp
    | ok p =>
        simp only [Except.ok.injEq, exists_eq_left']
        cases dependencies : p.dependencies with
        | nil => simp [eq_comm]
        | cons first rest =>
            cases depth with
            | zero => simp
            | succ less => simp

theorem Extends.parameterReadsWithin (extension : table.Extends larger) (moreFuel : depth ≤ deeper)
    (searched : table.parameterReadsWithin target depth name = .ok found) :
    larger.parameterReadsWithin target deeper name = .ok found := by
  induction depth generalizing name found deeper with
  | zero =>
      apply parameterReadsWithin_eq_ok.2
      obtain itself | ⟨other, p, declared, ⟨noDependencies, rfl⟩ | ⟨less, fuelEq, _⟩⟩ :=
        parameterReadsWithin_eq_ok.1 searched
      · exact .inl itself
      · obtain ⟨q, declared', sameShape⟩ := extension.parameter declared
        rw [← Parameter.dependencies_shape, ← sameShape, Parameter.dependencies_shape] at noDependencies
        exact .inr ⟨other, q, declared', .inl ⟨noDependencies, rfl⟩⟩
      · omega
  | succ depth ih =>
      apply parameterReadsWithin_eq_ok.2
      obtain itself | ⟨other, p, declared, kinds⟩ := parameterReadsWithin_eq_ok.1 searched
      · exact .inl itself
      · obtain ⟨q, declared', sameShape⟩ := extension.parameter declared
        rw [← Parameter.dependencies_shape, ← sameShape, Parameter.dependencies_shape] at kinds
        refine .inr ⟨other, q, declared', ?_⟩
        rcases kinds with noDependencies | ⟨less, fuelEq, some, searched⟩
        · exact .inl noDependencies
        · obtain rfl : depth = less := by omega
          obtain ⟨deeper, rfl⟩ : ∃ more, deeper = more + 1 := ⟨deeper - 1, by omega⟩
          refine .inr ⟨deeper, rfl, some, anyM_mono ?_ searched⟩
          intro dependency _ b searchedDependency
          exact ih (by omega) searchedDependency

theorem Extends.parameterReads (extension : table.Extends larger)
    (searched : table.parameterReads name target = .ok found) :
    larger.parameterReads name target = .ok found :=
  extension.parameterReadsWithin extension.size_le searched

theorem exists_parameterReadsWithin (structured : table.Structured) {rank : String → Nat}
    (ranked : table.Ranked rank) (declared : table.HasParameter name) (enough : rank name < depth) :
    ∃ found, table.parameterReadsWithin target depth name = .ok found := by
  induction depth generalizing name with
  | zero => omega
  | succ depth ih =>
      obtain ⟨p, declaredAs⟩ := hasParameter_iff.1 declared
      by_cases itself : name = target
      · exact ⟨true, parameterReadsWithin_eq_ok.2 (.inl ⟨itself, rfl⟩)⟩
      by_cases noDependencies : p.dependencies = []
      · exact ⟨false, parameterReadsWithin_eq_ok.2
          (.inr ⟨itself, p, declaredAs, .inl ⟨noDependencies, rfl⟩⟩)⟩
      obtain ⟨found, searched, _⟩ := exists_anyM (table.parameterReadsWithin target depth)
        p.dependencies (by
          intro dependency needed
          have lower := ranked.dependency_lt declaredAs needed
          exact ih (structured.hasParameter_dependency declaredAs needed) (by omega))
      exact ⟨found, parameterReadsWithin_eq_ok.2
        (.inr ⟨itself, p, declaredAs, .inr ⟨depth, rfl, noDependencies, searched⟩⟩)⟩

theorem Structured.exists_parameterReads (structured : table.Structured)
    (declared : table.HasParameter name) (target : String) :
    ∃ found, table.parameterReads name target = .ok found := by
  obtain ⟨rank, ranked⟩ := structured.ranked
  exact exists_parameterReadsWithin structured ranked declared (ranked.lt_size declared.mem_names)

theorem parameterReads_self : table.parameterReads name name = .ok true :=
  parameterReadsWithin_eq_ok.2 (.inl ⟨rfl, rfl⟩)

/-- The search for what is read stops at names that are not declared. -/
theorem hasParameter_of_not_parameterReads (unread : table.parameterReads name target = .ok false) :
    table.HasParameter name := by
  obtain ⟨_, impossible⟩ | ⟨_, p, declared, _⟩ := parameterReadsWithin_eq_ok.1 unread
  · cases impossible
  · exact hasParameter_iff.2 ⟨p, declared⟩

/-- A parameter reads what its dependencies read. -/
theorem Structured.parameterReads_of_dependency (structured : table.Structured) {p : Parameter}
    (declared : table.parameter name = .ok p) {dependency : String} (needed : dependency ∈ p.dependencies)
    (reads : table.parameterReads dependency target = .ok true) :
    table.parameterReads name target = .ok true := by
  obtain ⟨found, searched⟩ := structured.exists_parameterReads
    (hasParameter_iff.2 ⟨p, declared⟩) target
  rcases parameterReadsWithin_eq_ok.1 searched with
    ⟨_, rfl⟩ | ⟨other, q, declared', ⟨noDependencies, _⟩ | ⟨less, fuelEq, some, searchedAll⟩⟩
  · exact searched
  · obtain rfl : p = q := Except.ok.inj (declared.symm.trans declared')
    simp [noDependencies] at needed
  · obtain rfl : p = q := Except.ok.inj (declared.symm.trans declared')
    cases found with
    | true => exact searched
    | false =>
        have missed := anyM_eq_ok_false.1 searchedAll dependency needed
        have missedToo : table.parameterReads dependency target = .ok false :=
          (Extends.refl table).parameterReadsWithin (by omega) missed
        cases missedToo.symm.trans reads

theorem densityReadsWithin_eq_ok :
    table.densityReadsWithin target depth name = .ok found ↔
      ∃ d, table.density name = .ok d ∧ ∃ direct,
        (inputs d).anyM (fun input => table.parameterReads input target) = .ok direct ∧
        ((direct = true ∧ found = true) ∨
          (direct = false ∧ d.densityRefs = [] ∧ found = false) ∨
          (direct = false ∧ ∃ less, depth = less + 1 ∧ d.densityRefs ≠ [] ∧
            d.densityRefs.anyM (table.densityReadsWithin target less) = .ok found)) := by
  rw [densityReadsWithin.eq_def]
  cases declared : table.density name with
  | error e => simp [declared]
  | ok d =>
      simp only [declared, Except.ok.injEq, exists_eq_left']
      cases direct : (inputs d).anyM fun input => table.parameterReads input target with
      | error e => simp
      | ok hit =>
          cases hit with
          | true =>
              simp only [Except.ok.injEq, exists_eq_left', true_and, Bool.true_eq_false, false_and, or_false]
              exact eq_comm
          | false =>
              simp only [Except.ok.injEq, exists_eq_left', true_and, Bool.false_eq_true,
                false_and, false_or]
              cases parts : d.densityRefs with
              | nil => simp [eq_comm]
              | cons first rest =>
                  cases depth with
                  | zero => simp
                  | succ less => simp

theorem Extends.densityReadsWithin (extension : table.Extends larger) (moreFuel : depth ≤ deeper)
    (searched : table.densityReadsWithin target depth name = .ok found) :
    larger.densityReadsWithin target deeper name = .ok found := by
  induction depth generalizing name found deeper with
  | zero =>
      obtain ⟨d, declared, direct, inputsSearched, kinds⟩ := densityReadsWithin_eq_ok.1 searched
      apply densityReadsWithin_eq_ok.2
      refine ⟨d, extension.density declared, direct,
        anyM_mono (fun _ _ _ => extension.parameterReads) inputsSearched, ?_⟩
      obtain hit | noParts | ⟨_, less, fuelEq, _⟩ := kinds
      · exact .inl hit
      · exact .inr (.inl noParts)
      · omega
  | succ depth ih =>
      obtain ⟨d, declared, direct, inputsSearched, kinds⟩ := densityReadsWithin_eq_ok.1 searched
      apply densityReadsWithin_eq_ok.2
      refine ⟨d, extension.density declared, direct,
        anyM_mono (fun _ _ _ => extension.parameterReads) inputsSearched, ?_⟩
      obtain hit | noParts | ⟨missed, less, fuelEq, some, searched⟩ := kinds
      · exact .inl hit
      · exact .inr (.inl noParts)
      · obtain rfl : depth = less := by omega
        obtain ⟨deeper, rfl⟩ : ∃ more, deeper = more + 1 := ⟨deeper - 1, by omega⟩
        refine .inr (.inr ⟨missed, deeper, rfl, some, anyM_mono ?_ searched⟩)
        intro part _ b searchedPart
        exact ih (by omega) searchedPart

theorem Extends.densityReads (extension : table.Extends larger)
    (searched : table.densityReads name target = .ok found) :
    larger.densityReads name target = .ok found :=
  extension.densityReadsWithin extension.size_le searched

theorem mem_parameterRefs_of_mem_inputs {d : Density} {input : String} (needed : input ∈ inputs d) :
    input ∈ d.parameterRefs := by
  obtain ⟨own, kind⟩ := d
  cases kind with
  | gaussian x mean sigma => exact List.mem_cons_of_mem x needed
  | mixture branches remainder => exact needed
  | uniform _ | product _ | conditionalJoint _ _ _ => cases needed

theorem exists_densityReadsWithin (structured : table.Structured) {rank : String → Nat}
    (ranked : table.Ranked rank) (declared : table.HasDensity name) (enough : rank name < depth) :
    ∃ found, table.densityReadsWithin target depth name = .ok found := by
  induction depth generalizing name with
  | zero => omega
  | succ depth ih =>
      obtain ⟨d, declaredAs⟩ := hasDensity_iff.1 declared
      obtain ⟨direct, inputsSearched, _⟩ := exists_anyM
        (fun input => table.parameterReads input target) (inputs d) (by
          intro input needed
          have parameterRef := mem_parameterRefs_of_mem_inputs needed
          exact structured.exists_parameterReads (structured.hasParameter_ref declaredAs parameterRef) target)
      cases direct with
      | true =>
          exact ⟨true, densityReadsWithin_eq_ok.2
            ⟨d, declaredAs, true, inputsSearched, .inl ⟨rfl, rfl⟩⟩⟩
      | false =>
          by_cases noParts : d.densityRefs = []
          · exact ⟨false, densityReadsWithin_eq_ok.2
              ⟨d, declaredAs, false, inputsSearched, .inr (.inl ⟨rfl, noParts, rfl⟩)⟩⟩
          obtain ⟨found, searched, _⟩ := exists_anyM (table.densityReadsWithin target depth)
            d.densityRefs (by
              intro part needed
              have lower := ranked.part_lt declaredAs needed
              exact ih (structured.hasDensity_part declaredAs needed) (by omega))
          exact ⟨found, densityReadsWithin_eq_ok.2
            ⟨d, declaredAs, false, inputsSearched, .inr (.inr ⟨rfl, depth, rfl, noParts, searched⟩)⟩⟩

theorem Structured.exists_densityReads (structured : table.Structured)
    (declared : table.HasDensity name) (target : String) :
    ∃ found, table.densityReads name target = .ok found := by
  obtain ⟨rank, ranked⟩ := structured.ranked
  exact exists_densityReadsWithin structured ranked declared (ranked.lt_size declared.mem_names)

theorem hasDensity_of_densityReads (searched : table.densityReads name target = .ok found) :
    table.HasDensity name := by
  obtain ⟨d, declared, _⟩ := densityReadsWithin_eq_ok.1 searched
  exact hasDensity_iff.2 ⟨d, declared⟩

/-- A density reads what its inputs and its parts read. -/
theorem Structured.densityReads_of_use (structured : table.Structured) {d : Density}
    (declared : table.density name = .ok d)
    (reads : (∃ input ∈ inputs d, table.parameterReads input target = .ok true) ∨
      ∃ part ∈ d.densityRefs, table.densityReads part target = .ok true) :
    table.densityReads name target = .ok true := by
  obtain ⟨found, searched⟩ := structured.exists_densityReads
    (hasDensity_iff.2 ⟨d, declared⟩) target
  obtain ⟨d', declared', direct, inputsSearched, kinds⟩ := densityReadsWithin_eq_ok.1 searched
  obtain rfl : d = d' := Except.ok.inj (declared.symm.trans declared')
  cases found with
  | true => exact searched
  | false =>
      have missedInputs : direct = false := by
        rcases kinds with ⟨_, wrong⟩ | ⟨missed, _, _⟩ | ⟨missed, _⟩
        · cases wrong
        · exact missed
        · exact missed
      subst missedInputs
      rcases reads with ⟨input, needed, reads⟩ | ⟨part, needed, reads⟩
      · cases (anyM_eq_ok_false.1 inputsSearched input needed).symm.trans reads
      · rcases kinds with ⟨wrong, _⟩ | ⟨_, noParts, _⟩ | ⟨_, less, fuelEq, _, searchedParts⟩
        · cases wrong
        · simp [noParts] at needed
        · have missed := anyM_eq_ok_false.1 searchedParts part needed
          have missedToo : table.densityReads part target = .ok false :=
            (Extends.refl table).densityReadsWithin (by omega) missed
          cases missedToo.symm.trans reads

end DensityGraph.Table
