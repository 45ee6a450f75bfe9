import DensityGraph.Proofs.Dataset
import DensityGraph.Proofs.Sampling.Variables
import DensityGraph.Sampling.Generate

/-!
# Generated data sets

Once a request has been checked, every observation holds a value for each
observable, so that the only stops left are those of a draw.  The data set that
is made would pass its own check.
-/

namespace DensityGraph

namespace Sampling

open DensityGraph.Random (Stream)

variable {table : Table} {attempts count : Nat} {config : Config} {name : String} {stream : Stream}
variable {vars observables : List String}

theorem checkObservables_eq_ok {seen : List String} :
    checkObservables name vars seen observables = .ok () ↔
      observables.Nodup ∧ ∀ observable ∈ observables, observable ∈ vars ∧ observable ∉ seen := by
  induction observables generalizing seen with
  | nil => simp [checkObservables]
  | cons first rest ih =>
      rw [checkObservables, guard_eq_ok, guard_eq_ok, ih, List.nodup_cons, List.forall_mem_cons]
      simp only [Bool.not_eq_true', Bool.not_eq_false, List.contains_iff_mem, List.mem_cons, not_or]
      constructor
      · rintro ⟨generated, new, distinct, others⟩
        refine ⟨⟨fun member => (others first member).2.1 rfl, distinct⟩, ⟨generated, new⟩, ?_⟩
        exact fun other member => ⟨(others other member).1, (others other member).2.2⟩
      · rintro ⟨⟨single, distinct⟩, ⟨generated, new⟩, others⟩
        refine ⟨generated, new, distinct, fun other member => ⟨(others other member).1, ?_, (others other member).2⟩⟩
        rintro rfl
        exact single member

/-- What the check of a request asks for. -/
theorem checkRequest_eq_ok :
    checkRequest table name observables count config = .ok () ↔
      count ≠ 0 ∧ config.check = .ok () ∧ table.HasDensity name ∧
        ∃ vars, table.Generates name vars ∧ observables.Nodup ∧
          ∀ observable ∈ observables, observable ∈ vars := by
  simp only [checkRequest, bind_eq_ok, exists_unit, throw_bind, guard_eq_ok, checkObservables_eq_ok,
    List.not_mem_nil, not_false_eq_true, and_true, Table.hasDensity_iff]
  cases table.density name with
  | error e => simp [Except.toBool]
  | ok d => simp [Except.toBool, Table.Generates]

/-- A result, or a stop that no check of a model excludes. -/
def Settles {α : Type} (result : Except Stop α) (holds : α → Prop) : Prop :=
  match result with
  | .ok a => holds a
  | .error stop => stop.Expected

/-- One finite value for each observable. -/
def IsObservation (observables : List String) (row : List Float) : Prop :=
  row.length = observables.length ∧ ∀ value ∈ row, value.isFinite = true

theorem exists_rowOf {drawn : Overrides} (finite : ∀ entry ∈ drawn, entry.2.isFinite = true)
    (covered : ∀ observable ∈ observables, observable ∈ drawn.map Prod.fst) :
    ∃ row, rowOf name drawn observables = .ok row ∧ IsObservation observables row := by
  induction observables with
  | nil => exact ⟨[], rfl, rfl, by simp⟩
  | cons first rest ih =>
      rw [List.forall_mem_cons] at covered
      obtain ⟨value, found, member⟩ := Draw.exists_lookup covered.1
      obtain ⟨row, rowEq, width, rowFinite⟩ := ih covered.2
      refine ⟨value :: row, by rw [rowOf, found, rowEq], ?_, ?_⟩
      · rw [List.length_cons, List.length_cons, width]
      · exact List.forall_mem_cons.mpr ⟨finite (first, value) member, rowFinite⟩

theorem length_of_rowOf {drawn : Overrides} {row : List Float} (made : rowOf name drawn observables = .ok row) :
    row.length = observables.length := by
  induction observables generalizing row with
  | nil =>
      obtain rfl := Except.ok.inj made
      rfl
  | cons first rest ih =>
      rw [rowOf] at made
      split at made
      case h_1 => cases made
      case h_2 value found =>
        split at made
        case h_1 => cases made
        case h_2 values others =>
          obtain rfl := Except.ok.inj made
          rw [List.length_cons, List.length_cons, ih others]

theorem observation_eq_ok {row : List Float} {rest : Stream} :
    observation table attempts name observables stream = .ok (row, rest) ↔
      ∃ state, Draw.density table attempts name ⟨[], stream⟩ = .ok ((), state) ∧
        rowOf name state.drawn observables = .ok row ∧ rest = state.stream := by
  unfold observation StateT.run
  cases drawn : Draw.density table attempts name ⟨[], stream⟩ with
  | error stop => simp
  | ok result =>
      obtain ⟨_, state⟩ := result
      cases kept : rowOf name state.drawn observables with
      | error e => simp [kept]
      | ok values => simp [kept, eq_comm]

theorem observations_succ_eq_ok {before rows : List (List Float)} {rest : Stream} :
    observations table attempts name observables before (count + 1) stream = .ok (rows, rest) ↔
      ∃ row middle, observation table attempts name observables stream = .ok (row, middle) ∧
        observations table attempts name observables (row :: before) count middle = .ok (rows, rest) := by
  rw [observations]
  cases observation table attempts name observables stream with
  | error stop => simp
  | ok result =>
      constructor
      · exact fun others => ⟨result.1, result.2, rfl, others⟩
      · rintro ⟨row, middle, observed, others⟩
        obtain rfl := Except.ok.inj observed
        exact others

/-- The rows of some observations are as many as were asked for, behind those made
before, and as wide as there are observables. -/
theorem shape_of_observations {before rows : List (List Float)} {rest : Stream}
    (made : observations table attempts name observables before count stream = .ok (rows, rest)) :
    rows.length = before.length + count ∧
      ((∀ row ∈ before, row.length = observables.length) → ∀ row ∈ rows, row.length = observables.length) := by
  induction count generalizing before stream with
  | zero =>
      obtain ⟨rfl, _⟩ := Prod.mk.inj (Except.ok.inj made)
      exact ⟨List.length_reverse, fun earlier row member => earlier row (List.mem_reverse.mp member)⟩
  | succ count ih =>
      obtain ⟨row, middle, observed, others⟩ := observations_succ_eq_ok.1 made
      obtain ⟨state, _, kept, _⟩ := observation_eq_ok.1 observed
      obtain ⟨length, width⟩ := ih others
      rw [List.length_cons] at length
      refine ⟨by omega, fun earlier => width ?_⟩
      exact List.forall_mem_cons.mpr ⟨length_of_rowOf kept, earlier⟩

theorem settles_observation (coherent : table.Coherent) (generates : table.Generates name vars)
    (wanted : ∀ observable ∈ observables, observable ∈ vars) :
    Settles (observation table attempts name observables stream) fun result =>
      IsObservation observables result.1 := by
  have draws : Draw.Draws table (Draw.density table attempts name) vars := Draw.draws_density coherent generates
  have ends := draws ⟨[], stream⟩
  unfold Draw.Ends at ends
  unfold observation StateT.run
  cases ran : Draw.density table attempts name ⟨[], stream⟩ with
  | error stop =>
      rw [ran] at ends
      exact ends
  | ok result =>
      obtain ⟨_, state⟩ := result
      rw [ran] at ends
      obtain ⟨new, drawnEq, names, admits⟩ := ends
      have drawnNew : state.drawn = new := by simpa using drawnEq
      rw [← drawnNew] at names admits
      have covered : ∀ observable ∈ observables, observable ∈ state.drawn.map Prod.fst :=
        fun observable member => names.mem_iff.mpr (wanted observable member)
      have finite : ∀ entry ∈ state.drawn, entry.2.isFinite = true := fun entry member => (admits entry member).2
      obtain ⟨row, rowEq, isObservation⟩ : ∃ row, rowOf name state.drawn observables = .ok row ∧
          IsObservation observables row := exists_rowOf finite covered
      simp only [rowEq]
      exact isObservation

theorem settles_observations (coherent : table.Coherent) (generates : table.Generates name vars)
    (wanted : ∀ observable ∈ observables, observable ∈ vars) {before : List (List Float)}
    (earlier : ∀ row ∈ before, IsObservation observables row) :
    Settles (observations table attempts name observables before count stream) fun result =>
      ∀ row ∈ result.1, IsObservation observables row := by
  induction count generalizing before stream with
  | zero => exact fun row member => earlier row (List.mem_reverse.mp member)
  | succ count ih =>
      have first : Settles (observation table attempts name observables stream) fun result =>
          IsObservation observables result.1 := settles_observation coherent generates wanted
      unfold observations
      cases observed : observation table attempts name observables stream with
      | error stop =>
          rw [observed] at first
          exact first
      | ok result =>
          obtain ⟨row, rest⟩ := result
          rw [observed] at first
          exact ih (List.forall_mem_cons.mpr ⟨first, earlier⟩)

theorem generate_of_refused {e : ModelError} (refused : checkRequest table name observables count config = .error e) :
    generate table name observables count config stream = .error (.error e) := by
  rw [generate, refused]

/-- More rows than there can be room for break off the generation before anything is
drawn. -/
theorem generate_of_tooMany (checked : checkRequest table name observables count config = .ok ())
    (tooMany : maxRows < count) : generate table name observables count config stream = .error .rangeOverflow := by
  rw [generate, checked]
  exact if_pos tooMany

theorem generate_eq_observations (checked : checkRequest table name observables count config = .ok ())
    (room : count ≤ maxRows) : generate table name observables count config stream =
      observations table config.maxAttempts name observables [] count stream >>= fun made =>
        .ok (⟨datasetName name, observables, made.1⟩, made.2) := by
  rw [generate, checked]
  dsimp only
  rw [if_neg (Nat.not_lt.mpr room)]
  cases observations table config.maxAttempts name observables [] count stream <;> rfl

theorem generate_eq_ok {d : Dataset} {rest : Stream} :
    generate table name observables count config stream = .ok (d, rest) ↔
      checkRequest table name observables count config = .ok () ∧ count ≤ maxRows ∧ ∃ rows,
        observations table config.maxAttempts name observables [] count stream = .ok (rows, rest) ∧
          d = ⟨datasetName name, observables, rows⟩ := by
  cases checked : checkRequest table name observables count config with
  | error e => simp [generate_of_refused checked]
  | ok =>
      rcases Nat.lt_or_ge maxRows count with tooMany | room
      · simp [generate_of_tooMany checked tooMany, tooMany]
      · simp only [generate_eq_observations checked room, bind_eq_ok, Except.ok.injEq, Prod.mk.injEq, true_and, room]
        constructor
        · rintro ⟨⟨rows, last⟩, made, rfl, rfl⟩
          exact ⟨rows, made, rfl⟩
        · rintro ⟨rows, made, rfl⟩
          exact ⟨(rows, rest), made, rfl, rfl⟩

/-- Whatever the table, a generated data set has one column for each observable and
one row for each observation. -/
theorem shape_of_generate {d : Dataset} {rest : Stream}
    (generated : generate table name observables count config stream = .ok (d, rest)) :
    d.columns = observables ∧ observables.Nodup ∧ d.size = count ∧
      ∀ row ∈ d.rows, row.length = observables.length := by
  obtain ⟨checked, _, rows, made, rfl⟩ := generate_eq_ok.1 generated
  obtain ⟨_, _, _, _, _, distinct, _⟩ := checkRequest_eq_ok.1 checked
  obtain ⟨length, width⟩ := shape_of_observations made
  exact ⟨rfl, distinct, by simpa [Dataset.size] using length, width (List.forall_mem_nil _)⟩

/-- After the check of a request nothing but a draw can stop the generation, and
what is generated is a checked data set of the observables. -/
theorem settles_generate (coherent : table.Coherent)
    (checked : checkRequest table name observables count config = .ok ()) :
    Settles (generate table name observables count config stream) fun result =>
      result.1.columns = observables ∧ result.1.Rectangular := by
  obtain ⟨_, _, _, vars, generates, distinct, wanted⟩ := checkRequest_eq_ok.1 checked
  have settles : Settles (observations table config.maxAttempts name observables [] count stream) fun result =>
      ∀ row ∈ result.1, IsObservation observables row :=
    settles_observations coherent generates wanted (List.forall_mem_nil _)
  rcases Nat.lt_or_ge maxRows count with tooMany | room
  · rw [generate_of_tooMany checked tooMany]
    trivial
  · rw [generate_eq_observations checked room]
    cases made : observations table config.maxAttempts name observables [] count stream with
    | error stop =>
        rw [made] at settles
        exact settles
    | ok result =>
        obtain ⟨rows, rest⟩ := result
        rw [made] at settles
        exact ⟨rfl, distinct, fun row member => (settles row member).1, fun row member => (settles row member).2⟩

theorem rectangular_of_generate (coherent : table.Coherent) {d : Dataset} {rest : Stream}
    (generated : generate table name observables count config stream = .ok (d, rest)) : d.Rectangular := by
  obtain ⟨checked, _⟩ := generate_eq_ok.1 generated
  have settles : Settles (generate table name observables count config stream) fun result =>
      result.1.columns = observables ∧ result.1.Rectangular := settles_generate coherent checked
  rw [generated] at settles
  exact settles.2

end Sampling

end DensityGraph
