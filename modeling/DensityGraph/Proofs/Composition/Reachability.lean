import DensityGraph.Proofs.Composition.Reads
import DensityGraph.Proofs.Table.Session

/-!
# Reading as reachability

A parameter reads the names at the end of a chain of formulas that starts with it.
A density reads what the means, widths and weights read that shape it or one of
the densities it is made of, however deep.  Both searches stop at the first hit,
so the step lemmas say what a search finds from what its continuations find, and
the chains are then followed by induction over what is declared.
-/

namespace DensityGraph.Table

variable {table : Table} {name target : String}

/-- The formula of a parameter mentions another one. -/
def ComputedFrom (table : Table) (name dependency : String) : Prop :=
  ∃ formula, .parameter ⟨name, .derived formula⟩ ∈ table.nodes ∧ dependency ∈ formula.dependencies

/-- A density is made of another one. -/
def MadeOf (table : Table) (name part : String) : Prop :=
  ∃ kind, .density ⟨name, kind⟩ ∈ table.nodes ∧ part ∈ (Density.mk name kind).densityRefs

/-- The value of a parameter shapes the draws of a density by itself. -/
inductive ShapedBy (table : Table) (name : String) : String → Prop where
  | mean {x mean sigma : String} (declared : .density ⟨name, .gaussian x mean sigma⟩ ∈ table.nodes) :
      ShapedBy table name mean
  | sigma {x mean sigma : String} (declared : .density ⟨name, .gaussian x mean sigma⟩ ∈ table.nodes) :
      ShapedBy table name sigma
  | weight {branches : List Branch} {remainder : String} {branch : Branch}
      (declared : .density ⟨name, .mixture branches remainder⟩ ∈ table.nodes) (listed : branch ∈ branches) :
      ShapedBy table name branch.weight

theorem mem_of_parameter {p : Parameter} (declared : table.parameter name = .ok p) :
    .parameter p ∈ table.nodes ∧ p.name = name :=
  mem_of_find? (parameter_eq_ok.1 declared)

theorem mem_of_density {d : Density} (declared : table.density name = .ok d) :
    .density d ∈ table.nodes ∧ d.name = name :=
  mem_of_find? (density_eq_ok.1 declared)

theorem Structured.parameter_of_mem (structured : table.Structured) {p : Parameter}
    (member : .parameter p ∈ table.nodes) : table.parameter p.name = .ok p :=
  parameter_eq_ok.2 (find?_of_mem structured.distinct member)

theorem Structured.density_of_mem (structured : table.Structured) {d : Density}
    (member : .density d ∈ table.nodes) : table.density d.name = .ok d :=
  density_eq_ok.2 (find?_of_mem structured.distinct member)

theorem Structured.computedFrom_iff (structured : table.Structured) {p : Parameter} {dependency : String}
    (declared : table.parameter name = .ok p) :
    table.ComputedFrom name dependency ↔ dependency ∈ p.dependencies := by
  constructor
  · rintro ⟨formula, member, needed⟩
    obtain rfl : p = ⟨name, .derived formula⟩ :=
      Except.ok.inj (declared.symm.trans (structured.parameter_of_mem member))
    exact needed
  · intro needed
    obtain ⟨member, rfl⟩ := mem_of_parameter declared
    obtain ⟨own, value | formula⟩ := p
    · cases needed
    · exact ⟨formula, member, needed⟩

theorem Structured.madeOf_iff (structured : table.Structured) {d : Density} {part : String}
    (declared : table.density name = .ok d) : table.MadeOf name part ↔ part ∈ d.densityRefs := by
  constructor
  · rintro ⟨kind, member, needed⟩
    obtain rfl : d = ⟨name, kind⟩ := Except.ok.inj (declared.symm.trans (structured.density_of_mem member))
    exact needed
  · intro needed
    obtain ⟨member, rfl⟩ := mem_of_density declared
    exact ⟨d.kind, member, needed⟩

theorem Structured.shapedBy_iff (structured : table.Structured) {d : Density} {input : String}
    (declared : table.density name = .ok d) : table.ShapedBy name input ↔ input ∈ inputs d := by
  constructor
  · intro shaped
    cases shaped with
    | mean member =>
        obtain rfl := Except.ok.inj (declared.symm.trans (structured.density_of_mem member))
        simp [inputs]
    | sigma member =>
        obtain rfl := Except.ok.inj (declared.symm.trans (structured.density_of_mem member))
        simp [inputs]
    | weight member listed =>
        obtain rfl := Except.ok.inj (declared.symm.trans (structured.density_of_mem member))
        exact List.mem_map_of_mem listed
  · intro needed
    obtain ⟨member, rfl⟩ := mem_of_density declared
    obtain ⟨own, kind⟩ := d
    cases kind with
    | gaussian x mean sigma =>
        obtain rfl | rfl : input = mean ∨ input = sigma := by simpa [inputs] using needed
        · exact .mean member
        · exact .sigma member
    | mixture branches remainder =>
        obtain ⟨branch, listed, rfl⟩ := List.mem_map.mp needed
        exact .weight member listed
    | uniform _ | product _ | conditionalJoint _ _ _ => cases needed

theorem Structured.parameterReads_iff (structured : table.Structured) {p : Parameter}
    (declared : table.parameter name = .ok p) :
    table.parameterReads name target = .ok true ↔
      name = target ∨ ∃ dependency ∈ p.dependencies, table.parameterReads dependency target = .ok true := by
  constructor
  · intro reads
    obtain ⟨itself, _⟩ | ⟨_, q, declared', ⟨_, wrong⟩ | ⟨less, fuelEq, _, searched⟩⟩ :=
      parameterReadsWithin_eq_ok.1 reads
    · exact .inl itself
    · cases wrong
    · obtain rfl : p = q := Except.ok.inj (declared.symm.trans declared')
      obtain ⟨dependency, needed, hit⟩ := exists_of_anyM_eq_ok_true searched
      exact .inr ⟨dependency, needed, (Extends.refl table).parameterReadsWithin (by omega) hit⟩
  · rintro (rfl | ⟨dependency, needed, reads⟩)
    · exact parameterReads_self
    · exact structured.parameterReads_of_dependency declared needed reads

theorem Structured.densityReads_iff (structured : table.Structured) {d : Density}
    (declared : table.density name = .ok d) :
    table.densityReads name target = .ok true ↔
      (∃ input ∈ inputs d, table.parameterReads input target = .ok true) ∨
        ∃ part ∈ d.densityRefs, table.densityReads part target = .ok true := by
  constructor
  · intro reads
    obtain ⟨d', declared', direct, inputsSearched, kinds⟩ := densityReadsWithin_eq_ok.1 reads
    obtain rfl : d = d' := Except.ok.inj (declared.symm.trans declared')
    obtain ⟨rfl, _⟩ | ⟨_, _, wrong⟩ | ⟨_, less, fuelEq, _, searched⟩ := kinds
    · exact .inl (exists_of_anyM_eq_ok_true inputsSearched)
    · cases wrong
    · obtain ⟨part, needed, hit⟩ := exists_of_anyM_eq_ok_true searched
      exact .inr ⟨part, needed, (Extends.refl table).densityReadsWithin (by omega) hit⟩
  · exact structured.densityReads_of_use declared

/-- A parameter reads what a chain of formulas leads to. -/
theorem Structured.parameterReads_iff_reachable (structured : table.Structured)
    (declared : table.HasParameter name) :
    table.parameterReads name target = .ok true ↔ Relation.ReflTransGen table.ComputedFrom name target := by
  refine structured.parameter_induction (motive := fun name =>
    table.parameterReads name target = .ok true ↔ Relation.ReflTransGen table.ComputedFrom name target)
    ?_ declared
  intro name p found ih
  rw [structured.parameterReads_iff found, Relation.ReflTransGen.cases_head_iff]
  simp only [structured.computedFrom_iff found]
  apply or_congr_right
  apply exists_congr
  exact fun dependency => and_congr_right (ih dependency)

/-- A density is shaped by what the target leads to, itself or in one of its parts. -/
def Consults (table : Table) (name target : String) : Prop :=
  ∃ part, Relation.ReflTransGen table.MadeOf name part ∧
    ∃ input, table.ShapedBy part input ∧ table.parameterReads input target = .ok true

theorem consults_iff :
    table.Consults name target ↔
      (∃ input, table.ShapedBy name input ∧ table.parameterReads input target = .ok true) ∨
        ∃ part, table.MadeOf name part ∧ table.Consults part target := by
  constructor
  · rintro ⟨part, chain, shaped⟩
    rcases chain.cases_head with rfl | ⟨first, edge, rest⟩
    · exact .inl shaped
    · exact .inr ⟨first, edge, part, rest, shaped⟩
  · rintro (shaped | ⟨first, edge, part, rest, shaped⟩)
    · exact ⟨name, .refl, shaped⟩
    · exact ⟨part, .head edge rest, shaped⟩

/-- A density reads what shapes it or one of the densities that it is made of. -/
theorem Structured.densityReads_iff_consults (structured : table.Structured)
    (declared : table.HasDensity name) :
    table.densityReads name target = .ok true ↔ table.Consults name target := by
  refine structured.density_induction (motive := fun name =>
    table.densityReads name target = .ok true ↔ table.Consults name target) ?_ declared
  intro name d found ih
  rw [structured.densityReads_iff found, consults_iff]
  simp only [structured.shapedBy_iff found, structured.madeOf_iff found]
  apply or_congr_right
  apply exists_congr
  exact fun part => and_congr_right (ih part)

/-- In every table that can be reached, both searches end well on what is declared.
They find a name exactly if it is reached: from a parameter along the formulas, and
from a density along its parts to a mean, a width or a weight, and from there along
the formulas. -/
theorem Reached.reads_iff_reachable (reached : table.Reached) (target : String) :
    (∀ name, table.HasParameter name → ∃ found, table.parameterReads name target = .ok found ∧
      (found = true ↔ target = name ∨ Relation.TransGen table.ComputedFrom name target)) ∧
    ∀ name, table.HasDensity name → ∃ found, table.densityReads name target = .ok found ∧
      (found = true ↔ ∃ part, (part = name ∨ Relation.TransGen table.MadeOf name part) ∧
        ∃ input, table.ShapedBy part input ∧ table.parameterReads input target = .ok true) := by
  have structured := (reached_iff.1 reached).toStructured
  constructor
  · intro name declared
    obtain ⟨found, searched⟩ := structured.exists_parameterReads declared target
    have hits : table.parameterReads name target = .ok true ↔ Relation.ReflTransGen table.ComputedFrom name target :=
      structured.parameterReads_iff_reachable declared
    rw [searched, Except.ok.injEq, Relation.reflTransGen_iff_eq_or_transGen] at hits
    exact ⟨found, searched, hits⟩
  · intro name declared
    obtain ⟨found, searched⟩ := structured.exists_densityReads declared target
    have hits : table.densityReads name target = .ok true ↔ table.Consults name target :=
      structured.densityReads_iff_consults declared
    simp only [searched, Except.ok.injEq, Consults, Relation.reflTransGen_iff_eq_or_transGen] at hits
    exact ⟨found, searched, hits⟩

/-- A product of a mixture, one branch of which is normal around what two formulas
compute from `a`.  Everything stands before what it is made of. -/
def farMean : Table :=
  ⟨[.density ⟨"p", .product ["m", "flat"]⟩,
    .density ⟨"m", .mixture [⟨"weight", "far"⟩] "near"⟩,
    .density ⟨"far", .gaussian "x" "mean" "width"⟩,
    .density ⟨"near", .gaussian "x" "spare" "width"⟩,
    .density ⟨"flat", .uniform ["y"]⟩,
    .parameter (.derived "mean" ⟨"b + b", ["b"], .binary .add (.slot 0) (.slot 0)⟩),
    .parameter (.derived "b" ⟨"a * a", ["a"], .binary .mul (.slot 0) (.slot 0)⟩),
    .parameter ⟨"a", .free 0.25 ⟨0, 1⟩⟩,
    .parameter ⟨"spare", .free 0.5 ⟨0, 1⟩⟩,
    .parameter ⟨"weight", .free 0.5 ⟨0, 1⟩⟩,
    .parameter ⟨"width", .free 1 ⟨0.5, 2⟩⟩,
    .parameter ⟨"x", .free 0.5 ⟨0, 1⟩⟩,
    .parameter ⟨"y", .free 0.5 ⟨0, 1⟩⟩]⟩

theorem reads_iff_reachable_farMean :
    farMean.Reached ∧ farMean.HasParameter "mean" ∧ farMean.HasDensity "p" ∧
      Relation.TransGen farMean.ComputedFrom "mean" "a" ∧
      (∃ part, (part = "p" ∨ Relation.TransGen farMean.MadeOf "p" part) ∧
        ∃ input, farMean.ShapedBy part input ∧ farMean.parameterReads input "a" = .ok true) ∧
      ¬ ∃ part, (part = "p" ∨ Relation.TransGen farMean.MadeOf "p" part) ∧
        ∃ input, farMean.ShapedBy part input ∧ farMean.parameterReads input "y" = .ok true := by
  have accepted : (ofNodes farMean.nodes).toBool = true := by decide +kernel
  obtain ⟨table, loaded⟩ := exists_ok_of_toBool accepted
  obtain ⟨rfl, wellFormed⟩ := ofNodes_eq_ok.1 loaded
  have reached : farMean.Reached := reached_iff.2 wellFormed
  have mean : farMean.HasParameter "mean" := ⟨_, rfl⟩
  have product : farMean.HasDensity "p" := ⟨_, rfl⟩
  have meanReads : farMean.parameterReads "mean" "a" = .ok true := by decide +kernel
  have productReads : farMean.densityReads "p" "a" = .ok true := by decide +kernel
  have productSkips : farMean.densityReads "p" "y" = .ok false := by decide +kernel
  obtain ⟨found, searched, chained⟩ := (Reached.reads_iff_reachable reached "a").1 "mean" mean
  obtain rfl := Except.ok.inj (meanReads.symm.trans searched)
  obtain ⟨found, searched, consulted⟩ := (Reached.reads_iff_reachable reached "a").2 "p" product
  obtain rfl := Except.ok.inj (productReads.symm.trans searched)
  obtain ⟨found, searched, skipped⟩ := (Reached.reads_iff_reachable reached "y").2 "p" product
  obtain rfl := Except.ok.inj (productSkips.symm.trans searched)
  have different : "a" ≠ "mean" := by decide
  refine ⟨reached, mean, product, (chained.1 rfl).resolve_left different, consulted.1 rfl, ?_⟩
  intro reachable
  cases skipped.2 reachable

end DensityGraph.Table
