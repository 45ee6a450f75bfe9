import DensityGraph.Composition.Variables
import DensityGraph.Proofs.Table.WellFormed

/-!
# The parameters that densities draw

The recursion over the parts of a density ends well on every structured table,
and what it finds stays the same under more fuel and on every larger table.
-/

namespace DensityGraph

/-- The density draws by drawing its parts. -/
def Density.IsComposite (d : Density) : Prop :=
  match d.kind with
  | .gaussian .. | .uniform _ => False
  | .product _ | .mixture .. | .conditionalJoint .. => True

namespace Table

variable {table larger : Table} {name : String} {depth deeper : Nat} {vars : List String}

theorem mem_foldl_unique {names seen : List String} :
    name ∈ names.foldl (fun seen name => if seen.contains name then seen else seen ++ [name]) seen ↔
      name ∈ seen ∨ name ∈ names := by
  induction names generalizing seen with
  | nil => simp
  | cons first rest ih =>
      rw [List.foldl_cons, ih]
      by_cases old : first ∈ seen
      · simp only [List.contains_iff_mem, old, if_true, List.mem_cons]
        constructor
        · rintro (early | late)
          · exact .inl early
          · exact .inr (.inr late)
        · rintro (early | rfl | late)
          · exact .inl early
          · exact .inl old
          · exact .inr late
      · simp [old, or_assoc]

theorem mem_unique {names : List String} : name ∈ unique names ↔ name ∈ names := by
  rw [unique, mem_foldl_unique]
  simp

theorem nodup_unique (names : List String) : (unique names).Nodup := by
  have folded : ∀ {seen : List String}, seen.Nodup →
      (names.foldl (fun seen name => if seen.contains name then seen else seen ++ [name]) seen).Nodup := by
    induction names with
    | nil => exact fun distinct => distinct
    | cons first rest ih =>
        intro seen distinct
        rw [List.foldl_cons]
        by_cases old : first ∈ seen
        · simpa [old] using ih distinct
        · rw [if_neg (by simpa using old)]
          apply ih
          rw [List.nodup_append]
          refine ⟨distinct, List.nodup_singleton _, ?_⟩
          rintro other member _ single rfl
          exact old (List.mem_singleton.mp single ▸ member)
  exact folded List.nodup_nil

/-- A table that declares all that another one declares, up to the values and
bounds of free parameters. -/
structure Extends (table larger : Table) : Prop where
  size_le : table.size ≤ larger.size
  finds : ∀ {name node}, table.shape.find? name = some node → larger.shape.find? name = some node

theorem Extends.refl (table : Table) : table.Extends table :=
  ⟨le_rfl, id⟩

theorem Extends.trans {largest : Table} (first : table.Extends larger) (second : larger.Extends largest) :
    table.Extends largest :=
  ⟨first.size_le.trans second.size_le, second.finds ∘ first.finds⟩

theorem Extends.density (extension : table.Extends larger) {d : Density}
    (found : table.density name = .ok d) : larger.density name = .ok d := by
  rw [← density_shape, density_eq_ok] at found ⊢
  exact extension.finds found

theorem Extends.parameter (extension : table.Extends larger) {p : Parameter}
    (found : table.parameter name = .ok p) :
    ∃ q, larger.parameter name = .ok q ∧ q.shape = p.shape := by
  have foundShape : table.shape.parameter name = .ok p.shape := by rw [parameter_shape, found]; rfl
  rw [parameter_eq_ok] at foundShape
  have foundLarger := parameter_eq_ok.2 (extension.finds foundShape)
  rw [parameter_shape, map_eq_ok] at foundLarger
  exact foundLarger

theorem Extends.hasParameter (extension : table.Extends larger) (declared : table.HasParameter name) :
    larger.HasParameter name := by
  obtain ⟨p, found⟩ := hasParameter_iff.1 declared
  obtain ⟨q, foundLarger, _⟩ := extension.parameter found
  exact hasParameter_iff.2 ⟨q, foundLarger⟩

theorem variablesWithin_eq_ok :
    table.variablesWithin depth name = .ok vars ↔
      ∃ d, table.density name = .ok d ∧
        ((∃ x mean sigma, d.kind = .gaussian x mean sigma ∧ vars = [x]) ∨
          (∃ parameters, d.kind = .uniform parameters ∧ vars = unique parameters) ∨
          (d.IsComposite ∧ ∃ less lists, depth = less + 1 ∧
            List.Forall₂ (fun part list => table.variablesWithin less part = .ok list) d.densityRefs lists ∧
            vars = unique lists.flatten)) := by
  rw [variablesWithin.eq_def]
  cases found : table.density name with
  | error e => simp [found]
  | ok d =>
      simp only [found, Except.ok.injEq, exists_eq_left', ← mapM_eq_ok]
      obtain ⟨own, kind⟩ := d
      cases kind with
      | gaussian x mean sigma => simp [Density.IsComposite, eq_comm]
      | uniform parameters => simp [Density.IsComposite, eq_comm]
      | product factors | mixture branches remainder | conditionalJoint shared marginal conditionals =>
          cases depth with
          | zero => simp
          | succ less =>
              simp only [Density.IsComposite, reduceCtorEq, false_and, exists_false, false_or, true_and,
                Nat.add_right_cancel_iff]
              cases parts : List.mapM (table.variablesWithin less) _ with
              | error e => simp [parts]
              | ok lists => simp [parts, eq_comm]

/-- What is found stays so under more fuel and on a larger table. -/
theorem Extends.variablesWithin (extension : table.Extends larger) (moreFuel : depth ≤ deeper)
    (found : table.variablesWithin depth name = .ok vars) :
    larger.variablesWithin deeper name = .ok vars := by
  induction depth generalizing name vars deeper with
  | zero =>
      obtain ⟨d, foundDensity, kinds⟩ := variablesWithin_eq_ok.1 found
      apply variablesWithin_eq_ok.2
      refine ⟨d, extension.density foundDensity, ?_⟩
      rcases kinds with gaussian | uniform | ⟨_, less, _, fuelEq, _⟩
      · exact .inl gaussian
      · exact .inr (.inl uniform)
      · omega
  | succ depth ih =>
      obtain ⟨d, foundDensity, kinds⟩ := variablesWithin_eq_ok.1 found
      apply variablesWithin_eq_ok.2
      refine ⟨d, extension.density foundDensity, ?_⟩
      rcases kinds with gaussian | uniform | ⟨composite, less, lists, fuelEq, parts, rfl⟩
      · exact .inl gaussian
      · exact .inr (.inl uniform)
      · obtain rfl : depth = less := by omega
        obtain ⟨deeper, rfl⟩ : ∃ more, deeper = more + 1 := ⟨deeper - 1, by omega⟩
        refine .inr (.inr ⟨composite, deeper, lists, rfl, parts.imp ?_, rfl⟩)
        intro part list foundPart
        exact ih (by omega) foundPart

theorem Extends.generatedVariables (extension : table.Extends larger)
    (found : table.generatedVariables name = .ok vars) : larger.generatedVariables name = .ok vars :=
  extension.variablesWithin extension.size_le found

theorem nodup_of_variablesWithin (found : table.variablesWithin depth name = .ok vars) : vars.Nodup := by
  obtain ⟨d, _, ⟨x, _, _, _, rfl⟩ | ⟨parameters, _, rfl⟩ | ⟨_, _, lists, _, _, rfl⟩⟩ :=
    variablesWithin_eq_ok.1 found
  · exact List.nodup_singleton x
  · exact nodup_unique parameters
  · exact nodup_unique lists.flatten

theorem nodup_of_generatedVariables (found : table.generatedVariables name = .ok vars) : vars.Nodup :=
  nodup_of_variablesWithin found

/-- On a structured table the recursion ends well when the fuel exceeds the
rank. -/
theorem exists_variablesWithin (structured : table.Structured) {rank : String → Nat}
    (ranked : table.Ranked rank) (declared : table.HasDensity name) (enough : rank name < depth) :
    ∃ vars, table.variablesWithin depth name = .ok vars := by
  induction depth generalizing name with
  | zero => omega
  | succ depth ih =>
      obtain ⟨d, found⟩ := hasDensity_iff.1 declared
      have parts : ∃ lists, List.Forall₂ (fun part list => table.variablesWithin depth part = .ok list)
          d.densityRefs lists := by
        apply exists_forall₂
        intro part needed
        have lower := ranked.part_lt found needed
        exact ih (structured.hasDensity_part found needed) (by omega)
      obtain ⟨lists, partsFound⟩ := parts
      obtain ⟨own, kind⟩ := d
      cases kind with
      | gaussian x mean sigma =>
          exact ⟨_, variablesWithin_eq_ok.2 ⟨_, found, .inl ⟨x, mean, sigma, rfl, rfl⟩⟩⟩
      | uniform parameters =>
          exact ⟨_, variablesWithin_eq_ok.2 ⟨_, found, .inr (.inl ⟨parameters, rfl, rfl⟩)⟩⟩
      | product _ | mixture _ _ | conditionalJoint _ _ _ =>
          exact ⟨_, variablesWithin_eq_ok.2
            ⟨_, found, .inr (.inr ⟨trivial, depth, lists, rfl, partsFound, rfl⟩)⟩⟩

/-- Every density of a structured table has a list of drawn parameters. -/
theorem Structured.exists_generatedVariables (structured : table.Structured)
    (declared : table.HasDensity name) : ∃ vars, table.generatedVariables name = .ok vars := by
  obtain ⟨rank, ranked⟩ := structured.ranked
  exact exists_variablesWithin structured ranked declared (ranked.lt_size declared.mem_names)

/-- What a density draws by itself, and what it draws through its parts. -/
theorem generated_by_kind {d : Density} (found : table.density name = .ok d)
    (generated : table.generatedVariables name = .ok vars) :
    match d.kind with
    | .gaussian x _ _ => vars = [x]
    | .uniform parameters => vars = unique parameters
    | .product _ | .mixture .. | .conditionalJoint .. =>
      ∃ lists, List.Forall₂ (fun part list => table.generatedVariables part = .ok list) d.densityRefs lists ∧
        vars = unique lists.flatten := by
  obtain ⟨d', found', kinds⟩ := variablesWithin_eq_ok.1 generated
  obtain rfl : d = d' := Except.ok.inj (found.symm.trans found')
  rcases kinds with ⟨x, mean, sigma, kindEq, rfl⟩ | ⟨parameters, kindEq, rfl⟩ |
    ⟨composite, less, lists, fuelEq, parts, rfl⟩
  · rw [kindEq]
  · rw [kindEq]
  · have generatedParts : List.Forall₂ (fun part list => table.generatedVariables part = .ok list)
        d.densityRefs lists := by
      apply parts.imp
      intro part list foundPart
      exact (Extends.refl table).variablesWithin (by omega) foundPart
    obtain ⟨own, kind⟩ := d
    cases kind with
    | gaussian _ _ _ | uniform _ => cases composite
    | product _ | mixture _ _ | conditionalJoint _ _ _ => exact ⟨lists, generatedParts, rfl⟩

end Table

end DensityGraph
