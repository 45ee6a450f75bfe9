import DensityGraph.Proofs.Composition.Coherent
import DensityGraph.Proofs.Table.Session

/-!
# What later operations keep

As long as no other table is loaded in its place, a table goes on declaring all that
it declared, up to the values and bounds of free parameters.
-/

namespace DensityGraph

namespace Session

variable {session : Session} {operation : Operation} {operations : List Operation}

/-- The table of a later session declares all that the table of this one does. -/
def Extends (session later : Session) : Prop := session.table.Extends later.table

theorem Valid.extends_step (valid : session.Valid) (stays : ∀ nodes, operation ≠ .load nodes) :
    session.Extends (session.step operation) := by
  have unchanged : session.Extends session := Table.Extends.refl _
  cases operation with
  | declareFree name value lower upper =>
      apply step_of_attempt rfl unchanged
      intro changed applied
      obtain ⟨p, _, declared⟩ := bind_eq_ok.1 applied
      exact Table.extends_declareParameter declared
  | declareConstant name value =>
      apply step_of_attempt rfl unchanged
      intro changed applied
      obtain ⟨p, _, declared⟩ := bind_eq_ok.1 applied
      exact Table.extends_declareParameter declared
  | declareDerived name formula => exact step_of_attempt rfl unchanged fun _ => Table.extends_declareParameter
  | declareDensity d => exact step_of_attempt rfl unchanged fun _ => Table.extends_declareDensity
  | declareText text =>
      apply step_of_attempt rfl unchanged
      intro changed applied
      obtain ⟨⟨name, table⟩, declared, same⟩ := bind_eq_ok.1 applied
      obtain rfl := pure_eq_ok.1 same
      exact (Table.grows_of_declare declared).extends_changed
  | setValue name value =>
      exact step_of_attempt rfl unchanged fun _ set => (valid.wellFormed.setValue set).extends_changed
  | setRange name lower upper =>
      exact step_of_attempt rfl unchanged fun _ set => (valid.wellFormed.setRange set).extends_changed
  | restore snapshots name =>
      rw [step_restore]
      exact (Snapshots.adjusted_restore valid.wellFormed snapshots name).extends_changed
  | load nodes => exact absurd rfl (stays nodes)

theorem Valid.extends_foldl (valid : session.Valid) (stays : ∀ nodes, .load nodes ∉ operations) :
    session.Extends (operations.foldl Session.step session) := by
  induction operations generalizing session with
  | nil => exact Table.Extends.refl _
  | cons operation rest ih =>
      have staysFirst : ∀ nodes, operation ≠ .load nodes := by
        rintro nodes rfl
        exact stays nodes List.mem_cons_self
      have staysRest : ∀ nodes, .load nodes ∉ rest := fun nodes later => stays nodes (List.mem_cons_of_mem _ later)
      have early : session.Extends (session.step operation) := valid.extends_step staysFirst
      exact Table.Extends.trans early (ih (valid.step operation) staysRest)

end Session

namespace Table

variable {table : Table} {operations : List Operation}

/-- The table that some operations leave, of which the failing ones change nothing. -/
def after (table : Table) (operations : List Operation) : Table :=
  (operations.foldl Session.step ⟨table, table.size⟩).table

theorem WellFormed.extends_after (wellFormed : table.WellFormed) (stays : ∀ nodes, .load nodes ∉ operations) :
    table.Extends (table.after operations) := by
  have valid : Session.Valid ⟨table, table.size⟩ := Session.valid_load (ofNodes_eq_ok.2 ⟨rfl, wellFormed⟩)
  exact valid.extends_foldl stays

/-- A density that makes sense goes on doing so. -/
theorem WellFormed.lasting (wellFormed : table.WellFormed) {d : Density} (member : .density d ∈ table.nodes)
    (sensible : table.Sensible d) (operations : List Operation) (stays : ∀ nodes, .load nodes ∉ operations) :
    (table.after operations).density d.name = .ok d ∧ (table.after operations).validate d false = .ok () := by
  have extension := wellFormed.extends_after stays
  refine ⟨extension.density (density_eq_ok.2 (find?_of_mem wellFormed.distinct member)), ?_⟩
  rw [validate_eq_ok]
  exact extension.sensible sensible

end Table

end DensityGraph
