import DensityGraph.Proofs.Result
import DensityGraph.Table.Basic
import Mathlib.Data.List.Nodup

/-!
# Looking names up and declaring nodes

What the checks of a table say about its nodes, and what each change of a table
does to its list of nodes.
-/

namespace DensityGraph.Table

variable {table changed : Table} {name : String} {node : Node}

theorem mem_of_find? (found : table.find? name = some node) :
    node ∈ table.nodes ∧ node.name = name := by
  refine ⟨List.mem_of_find?_eq_some found, ?_⟩
  simpa using List.find?_some found

/-- The names of the nodes in order. -/
def names (table : Table) : List String := table.nodes.map Node.name

theorem length_names : table.names.length = table.size := by
  simp [names, size]

theorem find?_eq_none_iff : table.find? name = none ↔ name ∉ table.names := by
  simp [find?, names, List.find?_eq_none]

theorem find?_isSome_iff : (table.find? name).isSome = true ↔ name ∈ table.names := by
  rw [← not_iff_not, ← find?_eq_none_iff]
  simp

theorem contains_iff : table.contains name = true ↔ name ∈ table.names :=
  find?_isSome_iff

/-- Under distinct names a node is found under its own name. -/
theorem find?_of_mem (distinct : table.names.Nodup) (member : node ∈ table.nodes) :
    table.find? node.name = some node := by
  obtain ⟨nodes⟩ := table
  simp only [names, find?] at distinct member ⊢
  induction nodes with
  | nil => simp at member
  | cons first rest ih =>
      simp only [List.map_cons, List.nodup_cons] at distinct
      rcases List.mem_cons.mp member with rfl | later
      · simp
      · have different : first.name ≠ node.name := by
          intro equal
          exact distinct.1 (equal ▸ List.mem_map_of_mem later)
        rw [List.find?_cons_of_neg (by simpa using different)]
        exact ih distinct.2 later

theorem find?_eq_some_iff (distinct : table.names.Nodup) :
    table.find? name = some node ↔ node ∈ table.nodes ∧ node.name = name := by
  constructor
  · exact mem_of_find?
  · rintro ⟨member, rfl⟩
    exact find?_of_mem distinct member

/-- The place of a name is that of the node that has it. -/
theorem indexOf?_eq_some_iff (distinct : table.names.Nodup) {place : Nat} :
    table.indexOf? name = some place ↔
      ∃ node, table.nodes[place]? = some node ∧ node.name = name := by
  rw [indexOf?, List.findIdx?_eq_some_iff_getElem]
  constructor
  · rintro ⟨inside, named, _⟩
    exact ⟨table.nodes[place], List.getElem?_eq_getElem inside, by simpa using named⟩
  · rintro ⟨node, found, rfl⟩
    obtain ⟨inside, rfl⟩ := List.getElem?_eq_some_iff.mp found
    refine ⟨inside, by simp, ?_⟩
    intro earlier before
    have different : earlier ≠ place := by omega
    have insideNames : place < table.names.length := by simpa [names] using inside
    have earlierInside : earlier < table.names.length := by omega
    intro equal
    apply different
    have sameName : table.names[earlier] = table.names[place] := by
      simpa [names] using equal
    exact (List.Nodup.getElem_inj_iff distinct).mp sameName

theorem parameter_eq_ok {p : Parameter} :
    table.parameter name = .ok p ↔ table.find? name = some (.parameter p) := by
  unfold parameter
  rcases found : table.find? name with _ | (q | d) <;> simp [Node.parameter?]

theorem density_eq_ok {d : Density} :
    table.density name = .ok d ↔ table.find? name = some (.density d) := by
  unfold density
  rcases found : table.find? name with _ | (q | d') <;> simp [Node.density?]

/-- A name is that of a parameter. -/
def HasParameter (table : Table) (name : String) : Prop := ∃ p, table.find? name = some (.parameter p)

/-- A name is that of a density. -/
def HasDensity (table : Table) (name : String) : Prop := ∃ d, table.find? name = some (.density d)

theorem hasParameter_iff : table.HasParameter name ↔ ∃ p, table.parameter name = .ok p := by
  simp only [HasParameter, parameter_eq_ok]

theorem hasDensity_iff : table.HasDensity name ↔ ∃ d, table.density name = .ok d := by
  simp only [HasDensity, density_eq_ok]

theorem hasDensity_of_toBool (found : (table.density name).toBool = true) : table.HasDensity name := by
  rw [hasDensity_iff]
  exact exists_ok_of_toBool found

theorem HasParameter.mem_names (declared : table.HasParameter name) : name ∈ table.names := by
  obtain ⟨p, found⟩ := declared
  exact find?_isSome_iff.1 (by simp [found])

theorem HasDensity.mem_names (declared : table.HasDensity name) : name ∈ table.names := by
  obtain ⟨d, found⟩ := declared
  exact find?_isSome_iff.1 (by simp [found])

theorem checkParameters_eq_ok {list : List String} :
    table.checkParameters list = .ok () ↔ ∀ name ∈ list, table.HasParameter name := by
  induction list with
  | nil => simp [checkParameters]
  | cons first rest ih =>
      rw [checkParameters, List.forall_mem_cons, hasParameter_iff]
      cases table.parameter first with
      | error e => simp
      | ok p => simpa using ih

theorem checkDensities_eq_ok {list : List String} :
    table.checkDensities list = .ok () ↔ ∀ name ∈ list, table.HasDensity name := by
  induction list with
  | nil => simp [checkDensities]
  | cons first rest ih =>
      rw [checkDensities, List.forall_mem_cons, hasDensity_iff]
      cases table.density first with
      | error e => simp
      | ok d => simpa using ih

theorem checkDependencies_eq_ok {own : String} {list : List String} :
    table.checkDependencies own list = .ok () ↔
      ∀ name ∈ list, name ≠ own ∧ table.HasParameter name := by
  induction list with
  | nil => simp [checkDependencies]
  | cons first rest ih =>
      rw [checkDependencies, List.forall_mem_cons, hasParameter_iff]
      by_cases itself : first = own
      · simp [itself]
      · cases table.parameter first with
        | error e => simp [itself]
        | ok p => simpa [itself] using ih

theorem checkNewName_eq_ok :
    table.checkNewName name = .ok () ↔ isValidName name = true ∧ name ∉ table.names := by
  rw [← contains_iff, checkNewName]
  cases valid : isValidName name <;> cases taken : table.contains name <;> simp

@[simp]
theorem nodes_push : (table.push node).nodes = table.nodes ++ [node] :=
  rfl

@[simp]
theorem size_push : (table.push node).size = table.size + 1 := by
  simp [size]

@[simp]
theorem names_push : (table.push node).names = table.names ++ [node.name] := by
  simp [names]

theorem declareParameter_eq_ok {p : Parameter} :
    table.declareParameter p = .ok changed ↔
      isValidName p.name = true ∧ p.name ∉ table.names ∧
        (∀ name ∈ p.dependencies, name ≠ p.name ∧ table.HasParameter name) ∧
        changed = table.push (.parameter p) := by
  simp only [declareParameter, bind_eq_ok, exists_unit, pure_eq_ok, checkNewName_eq_ok,
    checkDependencies_eq_ok, and_assoc]

theorem declareDensity_eq_ok {d : Density} :
    table.declareDensity d = .ok changed ↔
      isValidName d.name = true ∧ d.name ∉ table.names ∧ d.name ∉ d.dependencies ∧
        (∀ name ∈ d.parameterRefs, table.HasParameter name) ∧
        (∀ name ∈ d.densityRefs, table.HasDensity name) ∧
        changed = table.push (.density d) := by
  simp only [declareDensity, bind_eq_ok, exists_unit, throw_bind, guard_eq_ok, pure_eq_ok,
    checkNewName_eq_ok, checkParameters_eq_ok, checkDensities_eq_ok, List.contains_iff_mem, and_assoc]

theorem setValue_eq_ok {value : Float} :
    table.setValue name value = .ok changed ↔
      ∃ p q, table.find? name = some (.parameter p) ∧ p.setValue value = .ok q ∧
        changed = table.replace q := by
  simp only [setValue, bind_eq_ok, parameter_eq_ok, pure_eq_ok, exists_and_left]

theorem setRange_eq_ok {lower upper : Float} :
    table.setRange name lower upper = .ok changed ↔
      ∃ p q, table.find? name = some (.parameter p) ∧ p.setRange lower upper = .ok q ∧
        changed = table.replace q := by
  simp only [setRange, bind_eq_ok, parameter_eq_ok, pure_eq_ok, exists_and_left]

end DensityGraph.Table
