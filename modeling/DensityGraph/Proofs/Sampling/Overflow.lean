import DensityGraph.Proofs.Sampling.Observed

/-!
# Ranges that are too long

An even draw needs the length of a range, which is no finite number if the ends lie
far enough apart.  No other step of a draw depends on it, so that a draw breaks off
exactly when it comes to such a range.
-/

namespace DensityGraph.Sampling

open DensityGraph.Random (Stream)

variable {table : Table} {attempts count : Nat} {config : Config} {name x : String} {stream : Stream}
variable {vars observables : List String} {limits : Bounds}

/-- The length of a range is too large for a number. -/
def TooLong (limits : Bounds) : Prop :=
  limits.lower < limits.upper ∧ (limits.upper - limits.lower).isFinite = false

namespace Draw

variable {α β : Type} {state moment : State} {owner : String}

/-- A step that does not break off for the length of a range, wherever it begins. -/
def Sure (step : Draw α) : Prop := ∀ state, step state ≠ .error .rangeOverflow

namespace Sure

theorem bind {first : Draw α} {next : α → Draw β} (firstSure : Sure first) (nextSure : ∀ a, Sure (next a)) :
    Sure (first >>= next) := by
  intro state broken
  rw [run_bind] at broken
  rcases ran : first state with stop | ⟨a, middle⟩
  · rw [ran] at broken
    obtain rfl : stop = .rangeOverflow := Except.error.inj broken
    exact firstSure state ran
  · rw [ran] at broken
    exact nextSure a middle broken

theorem pure (a : α) : Sure (Pure.pure a) := by
  rintro state ⟨⟩

theorem throw (e : ModelError) : Sure (MonadExcept.throw (Stop.error e) : Draw α) := by
  rintro state ⟨⟩

theorem lift (result : Except ModelError α) : Sure (Draw.lift result) := by
  intro state broken
  cases result <;> cases broken

theorem number (take : Stream → Option (Float × Stream)) : Sure (Draw.number take) := by
  intro state broken
  unfold Draw.number at broken
  split at broken <;> cases broken

theorem keep (name : String) (value : Float) : Sure (Draw.keep name value) := by
  rintro state ⟨⟩

theorem value (table : Table) (name : String) : Sure (Draw.value table name) :=
  fun state => Sure.lift _ state

theorem truncated {mean width : Float} : Sure (Draw.truncated limits mean width attempts) := by
  induction attempts with
  | zero => exact Sure.pure none
  | succ attempts ih =>
      apply Sure.bind (Sure.number _)
      intro z
      dsimp only
      split
      · exact Sure.pure _
      · exact ih

theorem gaussian {mean sigma : String} : Sure (Draw.gaussian table attempts owner x mean sigma) := by
  apply Sure.bind (Sure.value table mean)
  intro m
  apply Sure.bind (Sure.value table sigma)
  intro width
  extract_lets continued
  have continuedSure (u : Unit) : Sure (continued u) := by
    apply Sure.bind (Sure.lift _)
    intro limits
    split
    · exact Sure.keep _ _
    · apply Sure.bind Sure.truncated
      rintro (_ | drawn)
      · exact Sure.throw _
      · exact Sure.keep _ _
  split
  · exact Sure.bind (Sure.throw _) continuedSure
  · exact continuedSure ()

end Sure

/-- An even draw breaks off exactly if the range of its parameter is too long. -/
theorem even_eq_rangeOverflow :
    even table x state = .error .rangeOverflow ↔ ∃ limits, bounds table x = .ok limits ∧ TooLong limits := by
  cases bounded : bounds table x with
  | error e =>
      have failed : even table x state = .error (.error e) := by
        rw [even, run_bind, bounded]
        rfl
      simp [failed]
  | ok limits =>
      rw [even, bounded, lift_ok_bind]
      simp only [Except.ok.injEq, exists_eq_left', TooLong]
      by_cases room : limits.lower < limits.upper
      · rw [if_pos room]
        cases long : (limits.upper - limits.lower).isFinite with
        | false => exact iff_of_true rfl ⟨room, rfl⟩
        | true =>
            simp only [Bool.not_true, Bool.false_eq_true, if_false, Bool.true_eq_false, and_false, iff_false]
            exact Sure.bind (Sure.number _) (fun _ => Sure.keep _ _) state
      · rw [if_neg room]
        simp only [room, false_and, iff_false]
        exact Sure.keep _ _ state

/-- Steps in a row stop where the first of them stops. -/
theorem forM_eq_error {step : α → Draw Unit} {list : List α} {stop : Stop} :
    list.forM step state = .error stop ↔ ∃ before a after middle, list = before ++ a :: after ∧
      before.forM step state = .ok ((), middle) ∧ step a middle = .error stop := by
  constructor
  · intro stopped
    induction list generalizing state with
    | nil => cases stopped
    | cons first rest ih =>
        rw [List.forM, run_bind] at stopped
        rcases ran : step first state with cause | ⟨_, middle⟩
        · rw [ran] at stopped
          obtain rfl : cause = stop := Except.error.inj stopped
          exact ⟨[], first, rest, state, rfl, rfl, ran⟩
        · rw [ran] at stopped
          obtain ⟨before, a, after, last, rfl, beforeRan, failed⟩ := ih stopped
          exact ⟨first :: before, a, after, last, rfl, run_bind_eq_ok.2 ⟨(), middle, ran, beforeRan⟩, failed⟩
  · rintro ⟨before, a, after, middle, rfl, beforeRan, failed⟩
    induction before generalizing state with
    | nil =>
        obtain ⟨_, rfl⟩ := Prod.mk.inj (Except.ok.inj beforeRan)
        rw [List.nil_append, List.forM, run_bind, failed]
    | cons first rest ih =>
        rw [List.forM, run_bind_eq_ok] at beforeRan
        obtain ⟨_, next, firstRan, restRan⟩ := beforeRan
        rw [List.cons_append, List.forM, run_bind, firstRan]
        exact ih restRan

end Draw

/-- An observation that begins at a place of the stream comes to an even density
with a range that is too long, and to nothing before it that stops. -/
def Overflows (table : Table) (attempts : Nat) (name : String) (start : Stream) : Prop :=
  ∃ owner own moment before x after middle limits,
    Draw.Comes table attempts owner moment name ⟨[], start⟩ ∧
      table.density owner = .ok ⟨own, .uniform (before ++ x :: after)⟩ ∧
      before.forM (Draw.even table) moment = .ok ((), middle) ∧
      Draw.bounds table x = .ok limits ∧ TooLong limits

namespace Draw

variable {state : State}

/-- A draw that breaks off comes to an even density that does so. -/
theorem exists_of_rangeOverflow (structured : table.Structured) (declared : table.HasDensity name)
    (broken : density table attempts name state = .error .rangeOverflow) :
    ∃ owner own moment parameters, Comes table attempts owner moment name state ∧
      table.density owner = .ok ⟨own, .uniform parameters⟩ ∧
      parameters.forM (even table) moment = .error .rangeOverflow := by
  revert state
  apply structured.density_induction _ declared
  intro name d found parts state broken
  have rows (rowBroken : (inRow d).forM (density table attempts) state = .error .rangeOverflow) :
      ∃ owner own moment parameters, Comes table attempts owner moment name state ∧
        table.density owner = .ok ⟨own, .uniform parameters⟩ ∧
        parameters.forM (even table) moment = .error .rangeOverflow := by
    obtain ⟨before, part, later, middle, split, beforeRan, partBroken⟩ := forM_eq_error.1 rowBroken
    have member : part ∈ d.densityRefs := inRow_subset (split ▸ List.mem_append_right _ List.mem_cons_self)
    obtain ⟨owner, own, moment, parameters, comes, uniform, evenBroken⟩ := parts part member partBroken
    exact ⟨owner, own, moment, parameters, .inRow found split beforeRan comes, uniform, evenBroken⟩
  rw [density_eq structured found] at broken
  obtain ⟨own, kind⟩ := d
  cases kind with
  | gaussian x mean sigma => exact absurd broken (Sure.gaussian state)
  | uniform parameters => exact ⟨name, own, state, parameters, .here, found, broken⟩
  | mixture branches remainder =>
      rw [run_mixture] at broken
      cases weighed : Scope.mixtureWeights ⟨table, state.drawn⟩ branches with
      | error e =>
          rw [weighed] at broken
          cases broken
      | ok weights =>
          rw [weighed, lift_ok_bind, run_bind] at broken
          cases taken : state.stream.unit? with
          | none =>
              simp [number, taken] at broken
          | some result =>
              obtain ⟨u, rest⟩ := result
              have numbered : number Stream.unit? state = .ok (u, { state with stream := rest }) :=
                number_eq_ok.2 ⟨rest, taken, rfl⟩
              rw [numbered] at broken
              obtain ⟨owner, own, moment, parameters, comes, uniform, evenBroken⟩ := parts _ choose_mem broken
              exact ⟨owner, own, moment, parameters, .branch found weighed taken comes, uniform, evenBroken⟩
  | product factors => exact rows broken
  | conditionalJoint shared marginal conditionals => exact rows broken

theorem density_eq_rangeOverflow (structured : table.Structured) (declared : table.HasDensity name) {start : Stream} :
    density table attempts name ⟨[], start⟩ = .error .rangeOverflow ↔ Overflows table attempts name start := by
  constructor
  · intro broken
    obtain ⟨owner, own, moment, parameters, comes, uniform, evenBroken⟩ :=
      exists_of_rangeOverflow structured declared broken
    obtain ⟨before, x, after, middle, rfl, beforeRan, failed⟩ := forM_eq_error.1 evenBroken
    obtain ⟨limits, bounded, long⟩ := even_eq_rangeOverflow.1 failed
    exact ⟨owner, own, moment, before, x, after, middle, limits, comes, uniform, beforeRan, bounded, long⟩
  · rintro ⟨owner, own, moment, before, x, after, middle, limits, comes, uniform, beforeRan, bounded, long⟩
    apply comes.error structured
    rw [density_eq structured uniform]
    exact forM_eq_error.2 ⟨before, x, after, middle, rfl, beforeRan, even_eq_rangeOverflow.2 ⟨limits, bounded, long⟩⟩

/-- What a density draws is drawn by every density that comes to it. -/
theorem Comes.draws (structured : table.Structured) {owner : String} {moment : State}
    (comes : Comes table attempts owner moment name state) (drawn : table.Draws owner x) : table.Draws name x := by
  induction comes with
  | here => exact drawn
  | @inRow name part d before later state middle found split _ _ ih =>
      have member : part ∈ Draw.inRow d := split ▸ List.mem_append_right _ List.mem_cons_self
      have composite : d.IsComposite := by
        obtain ⟨own, kind⟩ := d
        cases kind with
        | gaussian | uniform | mixture => cases member
        | product | conditionalJoint => trivial
      exact (structured.draws_composite found composite).2 ⟨part, inRow_subset member, ih⟩
  | branch found _ _ _ ih => exact (structured.draws_composite found trivial).2 ⟨_, choose_mem, ih⟩

end Draw

/-- A range that is too long is that of a parameter that the density draws. -/
theorem Overflows.exists_drawn (structured : table.Structured) {start : Stream}
    (overflows : Overflows table attempts name start) :
    ∃ x limits, table.Draws name x ∧ Draw.bounds table x = .ok limits ∧ TooLong limits := by
  obtain ⟨owner, own, moment, before, x, after, middle, limits, comes, uniform, _, bounded, long⟩ := overflows
  obtain ⟨vars, generates⟩ := structured.exists_generatedVariables (Table.hasDensity_iff.2 ⟨_, uniform⟩)
  have kinds : vars = Table.unique (before ++ x :: after) := Table.generated_by_kind uniform generates
  have drawn : table.Draws owner x :=
    ⟨vars, generates, kinds ▸ Table.mem_unique.2 (List.mem_append_right _ List.mem_cons_self)⟩
  exact ⟨x, limits, comes.draws structured drawn, bounded, long⟩

/-- Draws in a row stop where the first of them stops. -/
theorem draws_eq_error {stop : Stop} : draws table attempts name count stream = .error stop ↔
    ∃ number < count, ∃ earlier start, draws table attempts name number stream = .ok (earlier, start) ∧
      Draw.density table attempts name ⟨[], start⟩ = .error stop := by
  constructor
  · intro stopped
    induction count generalizing stream with
    | zero => cases stopped
    | succ count ih =>
        rw [draws, bind_eq_error] at stopped
        obtain failed | ⟨⟨_, state⟩, drawn, laterStopped⟩ := stopped
        · exact ⟨0, Nat.succ_pos _, [], stream, rfl, failed⟩
        · obtain laterStopped | ⟨_, _, ended⟩ := bind_eq_error.1 laterStopped
          · obtain ⟨number, inside, earlier, start, earlierRan, failed⟩ := ih laterStopped
            exact ⟨number + 1, Nat.succ_lt_succ inside, state.drawn :: earlier, start,
              draws_succ_eq_ok.2 ⟨state, earlier, drawn, earlierRan, rfl⟩, failed⟩
          · cases ended
  · rintro ⟨number, inside, earlier, start, earlierRan, failed⟩
    exact draws_error inside earlierRan failed

theorem generate_eq_rangeOverflow (coherent : table.Coherent) :
    generate table name observables count config stream = .error .rangeOverflow ↔
      checkRequest table name observables count config = .ok () ∧
        (maxRows < count ∨ ∃ number < count, ∃ earlier start,
          draws table config.maxAttempts name number stream = .ok (earlier, start) ∧
            Overflows table config.maxAttempts name start) := by
  cases checked : checkRequest table name observables count config with
  | error e => simp [generate_of_refused checked]
  | ok =>
      obtain ⟨_, _, declared, _⟩ := checkRequest_eq_ok.1 checked
      simp only [← Draw.density_eq_rangeOverflow coherent.toStructured declared, ← draws_eq_error, true_and]
      rcases Nat.lt_or_ge maxRows count with tooMany | room
      · simp [generate_of_tooMany checked tooMany, tooMany]
      · rw [generate_eq_draws coherent checked room, bind_eq_error]
        simp [Nat.not_lt.mpr room]

end DensityGraph.Sampling
