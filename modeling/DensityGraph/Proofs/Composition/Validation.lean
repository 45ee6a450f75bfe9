import DensityGraph.Composition.Validation
import DensityGraph.Proofs.Composition.Reads

/-!
# Densities that make sense

What the checks of a density say about it, as conditions on the parameters that
its parts draw.  The conditions stay true on every larger table, and when the
values and bounds of parameters are changed.
-/

namespace DensityGraph

namespace Table

variable {table larger : Table} {owner name : String} {seen : List String} {parts : List String}

/-- A name is that of a free parameter. -/
def IsFree (table : Table) (name : String) : Prop := ∃ p, table.parameter name = .ok p ∧ p.isFree = true

/-- A name is that of a free parameter, and a value is finite, within the bounds
of the parameter or not. -/
def Admits (table : Table) (name : String) (value : Float) : Prop :=
  table.IsFree name ∧ value.isFinite = true

/-- The parameters that a density draws. -/
def Generates (table : Table) (part : String) (vars : List String) : Prop :=
  table.generatedVariables part = .ok vars

/-- Different densities of a list draw different parameters. -/
def Disjoint (table : Table) (parts : List String) : Prop :=
  ∃ lists, List.Forall₂ table.Generates parts lists ∧ lists.flatten.Nodup

/-- A density draws the parameters of a list, in any order. -/
def DrawsSame (table : Table) (expected : List String) (part : String) : Prop :=
  ∃ vars, table.Generates part vars ∧ ∀ name, name ∈ vars ↔ name ∈ expected

/-- A density depends on a parameter that it does not draw. -/
def ConditionedOn (table : Table) (shared part : String) : Prop :=
  ∃ vars, table.Generates part vars ∧ shared ∉ vars ∧ table.densityReads part shared = .ok true

/-- A density makes sense, whatever the values of its weights. -/
def Sensible (table : Table) (d : Density) : Prop :=
  match d.kind with
  | .gaussian x _ _ => table.IsFree x
  | .uniform parameters => parameters ≠ [] ∧ (∀ x ∈ parameters, table.IsFree x) ∧ parameters.Nodup
  | .product factors => factors ≠ [] ∧ table.Disjoint factors
  | .mixture branches remainder =>
    branches ≠ [] ∧ ∃ expected, table.Generates remainder expected ∧
      ∀ branch ∈ branches, table.DrawsSame expected branch.density
  | .conditionalJoint shared marginal conditionals =>
    conditionals ≠ [] ∧ table.IsFree shared ∧ (∃ vars, table.Generates marginal vars ∧ shared ∈ vars) ∧
      (∀ part ∈ conditionals, table.ConditionedOn shared part) ∧ table.Disjoint (marginal :: conditionals)

theorem requireFree_eq_ok : table.requireFree owner name = .ok () ↔ table.IsFree name := by
  unfold requireFree IsFree
  cases declared : table.parameter name with
  | error e => simp
  | ok p => cases free : p.isFree <;> simp [free]

theorem requireUniform_eq_ok {parameters : List String} :
    table.requireUniform owner seen parameters = .ok () ↔
      (∀ x ∈ parameters, table.IsFree x) ∧ parameters.Nodup ∧ ∀ x ∈ parameters, x ∉ seen := by
  induction parameters generalizing seen with
  | nil => simp [requireUniform]
  | cons first rest ih =>
      simp only [requireUniform, bind_eq_ok, exists_unit, requireFree_eq_ok, throw_bind, guard_eq_ok, ih,
        List.contains_iff_mem, List.nodup_cons, List.mem_cons, forall_eq_or_imp, not_or]
      constructor
      · rintro ⟨free, new, freeRest, distinct, apart⟩
        refine ⟨⟨free, freeRest⟩, ⟨?_, distinct⟩, new, fun x member => (apart x member).2⟩
        exact fun member => (apart first member).1 rfl
      · rintro ⟨⟨free, freeRest⟩, ⟨once, distinct⟩, new, apart⟩
        refine ⟨free, new, freeRest, distinct, fun x member => ⟨?_, apart x member⟩⟩
        rintro rfl
        exact once member

theorem requireNew_eq_ok {names after : List String} :
    requireNew owner seen names = .ok after ↔
      names.Nodup ∧ (∀ x ∈ names, x ∉ seen) ∧ after = names.reverse ++ seen := by
  induction names generalizing seen with
  | nil => simp [requireNew, eq_comm]
  | cons first rest ih =>
      simp only [requireNew, guard_eq_ok, ih, List.contains_iff_mem, List.nodup_cons, List.mem_cons,
        forall_eq_or_imp, not_or, List.reverse_cons, List.append_assoc, List.singleton_append]
      constructor
      · rintro ⟨new, distinct, apart, rfl⟩
        exact ⟨⟨fun member => (apart first member).1 rfl, distinct⟩,
          ⟨new, fun x member => (apart x member).2⟩, rfl⟩
      · rintro ⟨⟨once, distinct⟩, ⟨new, apart⟩, rfl⟩
        refine ⟨new, distinct, fun x member => ⟨?_, apart x member⟩, rfl⟩
        rintro rfl
        exact once member

theorem requireDisjoint_eq_ok :
    table.requireDisjoint owner seen parts = .ok () ↔
      ∃ lists, List.Forall₂ table.Generates parts lists ∧ lists.flatten.Nodup ∧
        ∀ x ∈ lists.flatten, x ∉ seen := by
  induction parts generalizing seen with
  | nil => simp [requireDisjoint]
  | cons first rest ih =>
      simp only [requireDisjoint, bind_eq_ok, requireNew_eq_ok, ih, List.forall₂_cons_left_iff]
      constructor
      · rintro ⟨vars, generates, _, ⟨distinct, apart, rfl⟩, lists, others, distinctOthers, apartOthers⟩
        refine ⟨vars :: lists, ⟨vars, lists, generates, others, rfl⟩, ?_, ?_⟩
        · rw [List.flatten_cons, List.nodup_append]
          refine ⟨distinct, distinctOthers, ?_⟩
          rintro x member _ other rfl
          exact apartOthers x other (by simp [member])
        · intro x member
          rw [List.flatten_cons, List.mem_append] at member
          rcases member with own | other
          · exact apart x own
          · intro old
            exact apartOthers x other (by simp [old])
      · rintro ⟨_, ⟨vars, lists, generates, others, rfl⟩, distinctAll, apart⟩
        rw [List.flatten_cons, List.nodup_append] at distinctAll
        obtain ⟨distinct, distinctOthers, separate⟩ := distinctAll
        simp only [List.flatten_cons, List.forall_mem_append] at apart
        refine ⟨vars, generates, _, ⟨distinct, apart.1, rfl⟩, lists, others, distinctOthers, ?_⟩
        intro x other member
        rcases List.mem_append.mp member with own | old
        · exact separate x (List.mem_reverse.mp own) x other rfl
        · exact apart.2 x other old

theorem requireDisjoint_nil_eq_ok :
    table.requireDisjoint owner [] parts = .ok () ↔ table.Disjoint parts := by
  simp [requireDisjoint_eq_ok, Disjoint]

theorem sameNames_iff {a b : List String} : sameNames a b = true ↔ ∀ name, name ∈ a ↔ name ∈ b := by
  simp only [sameNames, Bool.and_eq_true, List.all_eq_true, List.contains_iff_mem]
  constructor
  · rintro ⟨forth, back⟩ name
    exact ⟨forth name, back name⟩
  · intro same
    exact ⟨fun name => (same name).mp, fun name => (same name).mpr⟩

theorem requireSame_eq_ok {remainder : String} {expected : List String} {branches : List Branch} :
    table.requireSame owner remainder expected branches = .ok () ↔
      ∀ branch ∈ branches, table.DrawsSame expected branch.density := by
  induction branches with
  | nil => simp [requireSame]
  | cons first rest ih =>
      simp only [requireSame, bind_eq_ok, throw_bind, guard_eq_ok, ih, List.forall_mem_cons,
        Bool.not_eq_true, Bool.not_eq_false', sameNames_iff]
      constructor
      · rintro ⟨vars, generates, same, others⟩
        exact ⟨⟨vars, generates, same⟩, others⟩
      · rintro ⟨⟨vars, generates, same⟩, others⟩
        exact ⟨vars, generates, same, others⟩

theorem requireConditioned_eq_ok {shared : String} :
    table.requireConditioned shared parts = .ok () ↔ ∀ part ∈ parts, table.ConditionedOn shared part := by
  induction parts with
  | nil => simp [requireConditioned]
  | cons first rest ih =>
      simp only [requireConditioned, bind_eq_ok, throw_bind, guard_eq_ok, ih, List.forall_mem_cons,
        List.contains_iff_mem, Bool.not_eq_true, Bool.not_eq_false']
      constructor
      · rintro ⟨vars, generates, apart, _, reads, rfl, others⟩
        exact ⟨⟨vars, generates, apart, reads⟩, others⟩
      · rintro ⟨⟨vars, generates, apart, reads⟩, others⟩
        exact ⟨vars, generates, apart, true, reads, rfl, others⟩

theorem validate_eq_ok {d : Density} : table.validate d false = .ok () ↔ table.Sensible d := by
  obtain ⟨owner, kind⟩ := d
  cases kind with
  | gaussian x mean sigma => exact requireFree_eq_ok
  | uniform parameters =>
      simp [validate, Sensible, guard_eq_ok, requireUniform_eq_ok]
  | product factors =>
      simp [validate, Sensible, guard_eq_ok, requireDisjoint_nil_eq_ok]
  | mixture branches remainder =>
      simp [validate, Sensible, throw_bind, guard_eq_ok, bind_eq_ok, requireSame_eq_ok, Generates]
  | conditionalJoint shared marginal conditionals =>
      simp only [validate, validateConditional, Sensible, throw_bind, guard_eq_ok, bind_eq_ok, exists_unit,
        requireFree_eq_ok, requireConditioned_eq_ok, requireDisjoint_nil_eq_ok, List.isEmpty_iff, Generates,
        Bool.not_eq_true, Bool.not_eq_false', List.contains_iff_mem, ne_eq]
      constructor
      · rintro ⟨some, free, vars, generates, drawn, conditioned, disjoint⟩
        exact ⟨some, free, ⟨vars, generates, drawn⟩, conditioned, disjoint⟩
      · rintro ⟨some, free, ⟨vars, generates, drawn⟩, conditioned, disjoint⟩
        exact ⟨some, free, vars, generates, drawn, conditioned, disjoint⟩

/-- A density that is accepted with its weights is accepted without them. -/
theorem sensible_of_validate {d : Density} (validated : table.validate d true = .ok ()) :
    table.Sensible d := by
  rw [← validate_eq_ok]
  obtain ⟨owner, kind⟩ := d
  cases kind with
  | mixture branches remainder =>
      simp only [validate, throw_bind, guard_eq_ok, bind_eq_ok, exists_unit] at validated ⊢
      obtain ⟨some, expected, generates, same, _⟩ := validated
      exact ⟨some, expected, generates, same, rfl⟩
  | gaussian _ _ _ | uniform _ | product _ | conditionalJoint _ _ _ => exact validated

theorem Extends.isFree (extension : table.Extends larger) (free : table.IsFree name) : larger.IsFree name := by
  obtain ⟨p, declared, pFree⟩ := free
  obtain ⟨q, declared', sameShape⟩ := extension.parameter declared
  refine ⟨q, declared', ?_⟩
  rw [← Parameter.isFree_shape, sameShape, Parameter.isFree_shape]
  exact pFree

theorem Extends.disjoint (extension : table.Extends larger) (disjoint : table.Disjoint parts) :
    larger.Disjoint parts := by
  obtain ⟨lists, generate, distinct⟩ := disjoint
  exact ⟨lists, generate.imp fun _ _ => extension.generatedVariables, distinct⟩

theorem Extends.sensible (extension : table.Extends larger) {d : Density} (sensible : table.Sensible d) :
    larger.Sensible d := by
  obtain ⟨owner, kind⟩ := d
  cases kind with
  | gaussian x mean sigma => exact extension.isFree sensible
  | uniform parameters =>
      obtain ⟨some, free, distinct⟩ := sensible
      exact ⟨some, fun x member => extension.isFree (free x member), distinct⟩
  | product factors =>
      obtain ⟨some, disjoint⟩ := sensible
      exact ⟨some, extension.disjoint disjoint⟩
  | mixture branches remainder =>
      obtain ⟨some, expected, generates, same⟩ := sensible
      refine ⟨some, expected, extension.generatedVariables generates, ?_⟩
      intro branch member
      obtain ⟨vars, generatesBranch, sameVars⟩ := same branch member
      exact ⟨vars, extension.generatedVariables generatesBranch, sameVars⟩
  | conditionalJoint shared marginal conditionals =>
      obtain ⟨some, free, ⟨vars, generates, drawn⟩, conditioned, disjoint⟩ := sensible
      refine ⟨some, extension.isFree free, ⟨vars, extension.generatedVariables generates, drawn⟩, ?_,
        extension.disjoint disjoint⟩
      intro part member
      obtain ⟨varsPart, generatesPart, apart, reads⟩ := conditioned part member
      exact ⟨varsPart, extension.generatedVariables generatesPart, apart, extension.densityReads reads⟩

/-- A density draws a parameter. -/
def Draws (table : Table) (part x : String) : Prop := ∃ vars, table.Generates part vars ∧ x ∈ vars

/-- A composite density draws what its parts draw. -/
theorem Structured.draws_composite (structured : table.Structured) {x : String} {d : Density}
    (found : table.density name = .ok d) (composite : d.IsComposite) :
    table.Draws name x ↔ ∃ part ∈ d.densityRefs, table.Draws part x := by
  obtain ⟨vars, generated⟩ := structured.exists_generatedVariables (hasDensity_iff.2 ⟨d, found⟩)
  obtain ⟨lists, parts, rfl⟩ : ∃ lists, List.Forall₂ table.Generates d.densityRefs lists ∧
      vars = unique lists.flatten := by
    have kinds := generated_by_kind found generated
    obtain ⟨own, kind⟩ := d
    cases kind with
    | gaussian _ _ _ | uniform _ => cases composite
    | product _ | mixture _ _ | conditionalJoint _ _ _ => exact kinds
  constructor
  · rintro ⟨vars, generatedToo, drawn⟩
    obtain rfl := Except.ok.inj (generated.symm.trans generatedToo)
    obtain ⟨list, inLists, drawn⟩ := List.mem_flatten.mp (mem_unique.1 drawn)
    obtain ⟨part, needed, generatedPart⟩ := exists_left_of_forall₂ parts inLists
    exact ⟨part, needed, list, generatedPart, drawn⟩
  · rintro ⟨part, needed, list, generatedPart, drawn⟩
    obtain ⟨listToo, inLists, generatedToo⟩ := exists_right_of_forall₂ parts needed
    obtain rfl := Except.ok.inj (generatedPart.symm.trans generatedToo)
    exact ⟨_, generated, mem_unique.2 (List.mem_flatten.mpr ⟨list, inLists, drawn⟩)⟩

end Table

end DensityGraph
