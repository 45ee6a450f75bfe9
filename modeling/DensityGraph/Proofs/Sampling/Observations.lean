import DensityGraph.Proofs.Sampling.Generate

/-!
# Observations in a row

A data set is made of observations that are drawn one after another from one
stream.  Nothing but the stream passes from one observation to the next, and the
observables only choose which of the drawn values are kept.
-/

namespace DensityGraph.Sampling

open DensityGraph.Random (Stream)

variable {table : Table} {attempts count : Nat} {config : Config} {name : String} {stream : Stream}
variable {vars observables : List String}

/-- The values of some draws of a density in a row, and the stream behind them. -/
def draws (table : Table) (attempts : Nat) (name : String) :
    (count : Nat) → Stream → Except Stop (List Overrides × Stream)
  | 0, stream => .ok ([], stream)
  | count + 1, stream => do
    let ((), state) ← Draw.density table attempts name ⟨[], stream⟩
    let (later, rest) ← draws table attempts name count state.stream
    return (state.drawn :: later, rest)

theorem draws_succ_eq_ok {list : List Overrides} {rest : Stream} :
    draws table attempts name (count + 1) stream = .ok (list, rest) ↔
      ∃ state later, Draw.density table attempts name ⟨[], stream⟩ = .ok ((), state) ∧
        draws table attempts name count state.stream = .ok (later, rest) ∧ list = state.drawn :: later := by
  simp only [draws, bind_eq_ok, pure_eq_ok, Prod.mk.injEq]
  constructor
  · rintro ⟨⟨_, state⟩, drawn, ⟨later, last⟩, others, rfl, rfl⟩
    exact ⟨state, later, drawn, others, rfl⟩
  · rintro ⟨state, later, drawn, others, rfl⟩
    exact ⟨((), state), drawn, (later, rest), others, rfl, rfl⟩

theorem length_of_draws {list : List Overrides} {rest : Stream}
    (ran : draws table attempts name count stream = .ok (list, rest)) : list.length = count := by
  induction count generalizing stream list with
  | zero =>
      obtain ⟨rfl, _⟩ := Prod.mk.inj (Except.ok.inj ran)
      rfl
  | succ count ih =>
      obtain ⟨state, later, _, others, rfl⟩ := draws_succ_eq_ok.1 ran
      rw [List.length_cons, ih others]

/-- What holds of every single draw holds of all draws in a row. -/
theorem forall_of_draws {holds : Overrides → Prop} {list : List Overrides} {rest : Stream}
    (each : ∀ stream state, Draw.density table attempts name ⟨[], stream⟩ = .ok ((), state) → holds state.drawn)
    (ran : draws table attempts name count stream = .ok (list, rest)) : ∀ drawn ∈ list, holds drawn := by
  induction count generalizing stream list with
  | zero =>
      obtain ⟨rfl, _⟩ := Prod.mk.inj (Except.ok.inj ran)
      exact List.forall_mem_nil _
  | succ count ih =>
      obtain ⟨state, later, drawn, others, rfl⟩ := draws_succ_eq_ok.1 ran
      exact List.forall_mem_cons.mpr ⟨each stream state drawn, ih others⟩

/-- Draws in a row are those of two calls, of which the second one goes on with
the stream that the first one leaves. -/
theorem draws_add (first second : Nat) :
    draws table attempts name (first + second) stream =
      draws table attempts name first stream >>= fun early =>
        draws table attempts name second early.2 >>= fun late => .ok (early.1 ++ late.1, late.2) := by
  induction first generalizing stream with
  | zero =>
      rw [Nat.zero_add, draws, ok_bind]
      cases draws table attempts name second stream <;> rfl
  | succ first ih =>
      rw [Nat.add_right_comm]
      simp only [draws, ih]
      cases Draw.density table attempts name ⟨[], stream⟩ with
      | error stop => rfl
      | ok result =>
          obtain ⟨_, state⟩ := result
          simp only [ok_bind]
          cases draws table attempts name first state.stream with
          | error stop => rfl
          | ok early =>
              change (draws table attempts name second early.2 >>= _) >>= _ =
                draws table attempts name second early.2 >>= _
              cases draws table attempts name second early.2 <;> rfl

/-- Each draw in a row begins where the draws before it have left the stream. -/
theorem exists_draw {list : List Overrides} {rest : Stream}
    (ran : draws table attempts name count stream = .ok (list, rest)) {number : Nat} (inside : number < count) :
    ∃ earlier start state, draws table attempts name number stream = .ok (earlier, start) ∧
      Draw.density table attempts name ⟨[], start⟩ = .ok ((), state) ∧ list[number]? = some state.drawn := by
  obtain ⟨more, rfl⟩ : ∃ more, count = number + (more + 1) := ⟨count - number - 1, by omega⟩
  rw [draws_add, bind_eq_ok] at ran
  obtain ⟨⟨earlier, start⟩, earlierRan, ran⟩ := ran
  obtain ⟨⟨others, last⟩, othersRan, same⟩ := bind_eq_ok.1 ran
  obtain ⟨state, later, drawn, _, rfl⟩ := draws_succ_eq_ok.1 othersRan
  obtain ⟨rfl, rfl⟩ := Prod.mk.inj (Except.ok.inj same)
  refine ⟨earlier, start, state, earlierRan, drawn, ?_⟩
  rw [← length_of_draws earlierRan, List.getElem?_append_right (Nat.le_refl _), Nat.sub_self]
  rfl

/-- A draw that stops ends all draws in a row. -/
theorem draws_error {number : Nat} {earlier : List Overrides} {start : Stream} {stop : Stop}
    (inside : number < count) (earlierRan : draws table attempts name number stream = .ok (earlier, start))
    (stopped : Draw.density table attempts name ⟨[], start⟩ = .error stop) :
    draws table attempts name count stream = .error stop := by
  obtain ⟨more, rfl⟩ : ∃ more, count = number + (more + 1) := ⟨count - number - 1, by omega⟩
  rw [draws_add, earlierRan, ok_bind, draws, stopped]
  rfl

/-- The values of the observables. -/
def kept (observables : List String) (drawn : Overrides) : List Float :=
  observables.map fun observable => (drawn.lookup observable).getD 0

theorem rowOf_eq_kept {drawn : Overrides} (covered : ∀ observable ∈ observables, observable ∈ drawn.map Prod.fst) :
    rowOf name drawn observables = .ok (kept observables drawn) := by
  induction observables with
  | nil => rfl
  | cons first rest ih =>
      rw [List.forall_mem_cons] at covered
      obtain ⟨value, found, _⟩ := Draw.exists_lookup covered.1
      rw [rowOf, found, ih covered.2, kept, kept, List.map_cons, found]
      rfl

theorem names_of_draw (coherent : table.Coherent) (generates : table.Generates name vars) {state : State}
    (ran : Draw.density table attempts name ⟨[], stream⟩ = .ok ((), state)) :
    (state.drawn.map Prod.fst).Perm vars := by
  have drawsAll : Draw.Draws table (Draw.density table attempts name) vars := Draw.draws_density coherent generates
  have ends := drawsAll ⟨[], stream⟩
  rw [Draw.Ends, ran] at ends
  obtain ⟨new, drawnEq, names, _⟩ := ends
  rw [List.append_nil] at drawnEq
  rw [drawnEq]
  exact names

/-- Every observation keeps the values of its own draw. -/
theorem observations_eq_draws (coherent : table.Coherent) (generates : table.Generates name vars)
    (wanted : ∀ observable ∈ observables, observable ∈ vars) {before : List (List Float)} :
    observations table attempts name observables before count stream =
      draws table attempts name count stream >>= fun drawn =>
        .ok (before.reverse ++ drawn.1.map (kept observables), drawn.2) := by
  induction count generalizing before stream with
  | zero =>
      rw [observations, draws, ok_bind, List.map_nil, List.append_nil]
  | succ count ih =>
      simp only [observations, observation, StateT.run, draws]
      cases ran : Draw.density table attempts name ⟨[], stream⟩ with
      | error stop => rfl
      | ok result =>
          obtain ⟨_, state⟩ := result
          have covered : ∀ observable ∈ observables, observable ∈ state.drawn.map Prod.fst :=
            fun observable member => (names_of_draw coherent generates ran).mem_iff.mpr (wanted observable member)
          simp only [rowOf_eq_kept covered, ih, ok_bind]
          cases draws table attempts name count state.stream with
          | error stop => rfl
          | ok others =>
              simp only [ok_bind, List.reverse_cons, List.append_assoc, List.singleton_append]
              rfl

/-- Different observables that a density draws. -/
def Requested (table : Table) (name : String) (observables : List String) : Prop :=
  ∃ vars, table.generatedVariables name = .ok vars ∧ observables.Nodup ∧
    ∀ observable ∈ observables, observable ∈ vars

theorem checkRequest_of_requested (requested : Requested table name observables) :
    checkRequest table name observables count config =
      if count = 0 then .error (.invalidSampleCount count) else config.check := by
  obtain ⟨vars, generates, distinct, wanted⟩ := requested
  have declared : table.HasDensity name := by
    obtain ⟨d, found, _⟩ := Table.variablesWithin_eq_ok.1 generates
    exact Table.hasDensity_iff.2 ⟨d, found⟩
  by_cases none : count = 0
  · simp [checkRequest, none, throw_bind]
  · rw [if_neg none]
    cases checked : config.check with
    | error e => simp [checkRequest, none, checked, bind, Except.bind]
    | ok => exact checkRequest_eq_ok.2 ⟨none, checked, declared, vars, generates, distinct, wanted⟩

/-- The check of a request looks at the count only to see whether it is zero. -/
theorem checkRequest_congr {other : Nat} (some : count ≠ 0) (someToo : other ≠ 0) :
    checkRequest table name observables count config = checkRequest table name observables other config := by
  simp only [checkRequest, if_neg some, if_neg someToo]

theorem requested_of_checkRequest
    (checked : checkRequest table name observables count config = .ok ()) : Requested table name observables := by
  obtain ⟨_, _, _, vars, generates, distinct, wanted⟩ := checkRequest_eq_ok.1 checked
  exact ⟨vars, generates, distinct, wanted⟩

/-- A data set holds what its observables keep of the draws. -/
theorem generate_eq_draws (coherent : table.Coherent)
    (checked : checkRequest table name observables count config = .ok ()) (room : count ≤ maxRows) :
    generate table name observables count config stream =
      draws table config.maxAttempts name count stream >>= fun drawn =>
        .ok (⟨datasetName name, observables, drawn.1.map (kept observables)⟩, drawn.2) := by
  obtain ⟨vars, generates, _, wanted⟩ := requested_of_checkRequest checked
  rw [generate_eq_observations checked room, observations_eq_draws coherent generates wanted]
  cases draws table config.maxAttempts name count stream <;> rfl

/-- A data set of two counts of observations is made by two calls. -/
theorem generate_add (coherent : table.Coherent) {first second : Nat} (some : first ≠ 0) (more : second ≠ 0)
    (room : first + second ≤ maxRows) :
    generate table name observables (first + second) config stream =
      generate table name observables first config stream >>= fun early =>
        generate table name observables second config early.2 >>= fun late =>
          .ok ({ early.1 with rows := early.1.rows ++ late.1.rows }, late.2) := by
  have sameFirst : checkRequest table name observables (first + second) config =
      checkRequest table name observables first config := checkRequest_congr (by omega) some
  have sameSecond : checkRequest table name observables second config =
      checkRequest table name observables first config := checkRequest_congr more some
  cases checked : checkRequest table name observables first config with
  | error e =>
      rw [generate_of_refused (sameFirst.trans checked), generate_of_refused checked]
      rfl
  | ok =>
      rw [generate_eq_draws coherent (sameFirst.trans checked) room,
        generate_eq_draws coherent checked (Nat.le_of_add_right_le room), draws_add]
      simp only [generate_eq_draws coherent (sameSecond.trans checked) (Nat.le_of_add_left_le room)]
      cases draws table config.maxAttempts name first stream with
      | error stop => rfl
      | ok early =>
          simp only [ok_bind]
          cases draws table config.maxAttempts name second early.2 with
          | error stop => rfl
          | ok late => simp only [ok_bind, List.map_append]

/-- The column of an observable holds its drawn values. -/
theorem get?_kept {own : String} {list : List Overrides} {number : Nat} {drawn : Overrides}
    (member : name ∈ observables) (found : list[number]? = some drawn) (covered : name ∈ drawn.map Prod.fst) :
    Dataset.get? ⟨own, observables, list.map (kept observables)⟩ number name = drawn.lookup name := by
  obtain ⟨place, placed⟩ := Option.isSome_iff_exists.mp (List.isSome_idxOf?.mpr member)
  obtain ⟨value, valueFound, _⟩ := Draw.exists_lookup covered
  obtain ⟨inside, same, _⟩ := List.idxOf?_eq_some_iff.mp placed
  have named : observables[place]? = some name := by rw [List.getElem?_eq_getElem inside, same]
  simp only [Dataset.get?, Dataset.row?, placed, List.getElem?_map, found, Option.map_some, kept, named, valueFound,
    Option.getD_some]

end DensityGraph.Sampling
