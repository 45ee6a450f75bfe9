import DensityGraph.Proofs.Sampling.Variables

/-!
# Values of single parameters

An even draw and a normal draw give values within the bounds of their parameter.
A normal draw takes standard normal numbers from the stream one after another;
its value is the first one that lies within the bounds once it has been moved and
scaled, and the draw stops if there is none among the numbers that it may try.
-/

namespace DensityGraph.Sampling

open DensityGraph.Random (Stream)

namespace Draw

variable {table : Table} {attempts : Nat} {state after : State} {stream rest : Stream}
variable {limits : Bounds} {mean width drawn : Float}

/-- A stream gives some standard normal numbers in a row. -/
inductive Gives : Stream → List Float → Stream → Prop where
  | nil (stream : Stream) : Gives stream [] stream
  | cons {stream next rest : Stream} {z : Float} {later : List Float} (taken : stream.normal? = some (z, next))
      (others : Gives next later rest) : Gives stream (z :: later) rest

/-- A standard normal number, moved and scaled, lies outside the bounds. -/
def Outside (limits : Bounds) (mean width z : Float) : Prop := limits.contains (mean + width * z) = false

/-- The first of some candidates that lies within the bounds; those before it are
fewer than the attempts. -/
def FirstWithin (limits : Bounds) (mean width : Float) (attempts : Nat) (stream rest : Stream) (drawn : Float) :
    Prop :=
  ∃ earlier z, earlier.length < attempts ∧ Gives stream (earlier ++ [z]) rest ∧
    (∀ other ∈ earlier, Outside limits mean width other) ∧ drawn = mean + width * z ∧
      limits.contains drawn = true

/-- No attempt gives a candidate within the bounds. -/
def NoneWithin (limits : Bounds) (mean width : Float) (attempts : Nat) (stream rest : Stream) : Prop :=
  ∃ tried, tried.length = attempts ∧ Gives stream tried rest ∧ ∀ z ∈ tried, Outside limits mean width z

theorem firstWithin_zero : ¬ FirstWithin limits mean width 0 stream rest drawn := by
  rintro ⟨earlier, z, few, _⟩
  cases few

theorem firstWithin_succ : FirstWithin limits mean width (attempts + 1) stream rest drawn ↔
    ∃ z next, stream.normal? = some (z, next) ∧
      if limits.contains (mean + width * z) then drawn = mean + width * z ∧ rest = next
      else FirstWithin limits mean width attempts next rest drawn := by
  constructor
  · rintro ⟨_ | ⟨first, earlier⟩, z, few, given, outside, rfl, within⟩
    · obtain _ | ⟨taken, ⟨⟩⟩ := given
      exact ⟨z, rest, taken, by rw [if_pos within]; exact ⟨rfl, rfl⟩⟩
    · obtain _ | @⟨_, next, _, _, _, taken, others⟩ := given
      rw [List.forall_mem_cons] at outside
      have firstOutside : ¬ limits.contains (mean + width * first) = true := Bool.eq_false_iff.mp outside.1
      exact ⟨first, next, taken, by
        rw [if_neg firstOutside]
        exact ⟨earlier, z, Nat.lt_of_succ_lt_succ few, others, outside.2, rfl, within⟩⟩
  · rintro ⟨z, next, taken, decided⟩
    by_cases within : limits.contains (mean + width * z) = true
    · rw [if_pos within] at decided
      obtain ⟨rfl, rfl⟩ := decided
      exact ⟨[], z, Nat.succ_pos _, .cons taken (.nil _), List.forall_mem_nil _, rfl, within⟩
    · rw [if_neg within] at decided
      obtain ⟨earlier, last, few, others, outside, drawnEq, lastWithin⟩ := decided
      exact ⟨z :: earlier, last, Nat.succ_lt_succ few, .cons taken others,
        List.forall_mem_cons.mpr ⟨Bool.eq_false_iff.mpr within, outside⟩, drawnEq, lastWithin⟩

theorem noneWithin_zero : NoneWithin limits mean width 0 stream rest ↔ rest = stream := by
  constructor
  · rintro ⟨tried, count, given, _⟩
    obtain rfl := List.length_eq_zero_iff.mp count
    cases given
    rfl
  · rintro rfl
    exact ⟨[], rfl, .nil _, List.forall_mem_nil _⟩

theorem noneWithin_succ : NoneWithin limits mean width (attempts + 1) stream rest ↔
    ∃ z next, stream.normal? = some (z, next) ∧ Outside limits mean width z ∧
      NoneWithin limits mean width attempts next rest := by
  constructor
  · rintro ⟨_ | ⟨z, tried⟩, count, given, outside⟩
    · cases count
    · obtain _ | @⟨_, next, _, _, _, taken, others⟩ := given
      rw [List.forall_mem_cons] at outside
      exact ⟨z, next, taken, outside.1, tried, Nat.succ.inj count, others, outside.2⟩
  · rintro ⟨z, next, taken, zOutside, tried, count, others, outside⟩
    exact ⟨z :: tried, congrArg Nat.succ count, .cons taken others, List.forall_mem_cons.mpr ⟨zOutside, outside⟩⟩

theorem truncated_succ {z : Float} {next : Stream} (taken : state.stream.normal? = some (z, next)) :
    truncated limits mean width (attempts + 1) state =
      if limits.contains (mean + width * z) then .ok (some (mean + width * z), { state with stream := next })
      else truncated limits mean width attempts { state with stream := next } := by
  have first : number Stream.normal? state = .ok (z, { state with stream := next }) := by
    rw [number, taken]
  rw [truncated, run_bind, first]
  dsimp only
  split <;> rfl

theorem truncated_exhausted (empty : state.stream.normal? = none) :
    truncated limits mean width (attempts + 1) state = .error .exhausted := by
  have first : number Stream.normal? state = .error .exhausted := by
    rw [number, empty]
  rw [truncated, run_bind, first]

/-- The truncation gives the first candidate within the bounds. -/
theorem truncated_eq_some : truncated limits mean width attempts state = .ok (some drawn, after) ↔
    FirstWithin limits mean width attempts state.stream after.stream drawn ∧ after.drawn = state.drawn := by
  induction attempts generalizing state with
  | zero =>
      constructor
      · intro ended
        cases ended
      · exact fun first => absurd first.1 firstWithin_zero
  | succ attempts ih =>
      rw [firstWithin_succ]
      cases taken : state.stream.normal? with
      | none =>
          rw [truncated_exhausted taken]
          simp
      | some result =>
          obtain ⟨z, next⟩ := result
          rw [truncated_succ taken]
          by_cases within : limits.contains (mean + width * z) = true
          · rw [if_pos within]
            constructor
            · intro ended
              obtain ⟨sameValue, rfl⟩ := Prod.mk.inj (Except.ok.inj ended)
              obtain rfl := Option.some.inj sameValue
              exact ⟨⟨z, next, rfl, by rw [if_pos within]; exact ⟨rfl, rfl⟩⟩, rfl⟩
            · rintro ⟨⟨_, _, same, decided⟩, sameDrawn⟩
              obtain ⟨rfl, rfl⟩ := Prod.mk.inj (Option.some.inj same)
              rw [if_pos within] at decided
              obtain ⟨rfl, sameStream⟩ := decided
              rw [← sameDrawn, ← sameStream]
          · simp [within, ih]

/-- The truncation gives up after all its attempts. -/
theorem truncated_eq_none : truncated limits mean width attempts state = .ok (none, after) ↔
    NoneWithin limits mean width attempts state.stream after.stream ∧ after.drawn = state.drawn := by
  induction attempts generalizing state with
  | zero =>
      rw [noneWithin_zero]
      constructor
      · intro ended
        obtain ⟨_, rfl⟩ := Prod.mk.inj (Except.ok.inj ended)
        exact ⟨rfl, rfl⟩
      · rintro ⟨sameStream, sameDrawn⟩
        have same : after = state := by
          cases after
          cases state
          simp_all
        rw [same]
        rfl
  | succ attempts ih =>
      rw [noneWithin_succ]
      cases taken : state.stream.normal? with
      | none =>
          rw [truncated_exhausted taken]
          simp
      | some result =>
          obtain ⟨z, next⟩ := result
          rw [truncated_succ taken]
          by_cases within : limits.contains (mean + width * z) = true
          · simp [within, Outside]
          · simp [within, ih, Outside]

/-- What a normal draw keeps: the bounds themselves if they leave room for one
value only, and otherwise the first candidate within them. -/
def NormalValue (table : Table) (attempts : Nat) (mean sigma : String) (limits : Bounds) (state : State)
    (rest : Stream) (drawn : Float) : Prop :=
  ∃ m width, Scope.value ⟨table, state.drawn⟩ mean = .ok m ∧ Scope.value ⟨table, state.drawn⟩ sigma = .ok width ∧
    ¬ width ≤ 0 ∧
    if limits.isDegenerate then drawn = limits.lower ∧ rest = state.stream
    else FirstWithin limits m width attempts state.stream rest drawn

section Normal

variable {owner x mean sigma : String} {m w : Float}

theorem value_bind {α : Type} {next : Float → Draw α} (valued : Scope.value ⟨table, state.drawn⟩ mean = .ok m) :
    (value table mean >>= next) state = next m state := by
  rw [run_bind, value, valued]
  rfl

/-- A normal draw whose width is positive, before it looks for a candidate. -/
theorem gaussian_eq (meanValued : Scope.value ⟨table, state.drawn⟩ mean = .ok m)
    (sigmaValued : Scope.value ⟨table, state.drawn⟩ sigma = .ok w) (positive : ¬ w ≤ 0)
    (bounded : bounds table x = .ok limits) :
    gaussian table attempts owner x mean sigma state =
      if limits.isDegenerate then .ok ((), { state with drawn := (x, limits.lower) :: state.drawn })
      else
        match truncated limits m w attempts state with
        | .error stop => .error stop
        | .ok (some drawn, after) => .ok ((), { after with drawn := (x, drawn) :: after.drawn })
        | .ok (none, _) =>
          .error (.error (.sampling (.truncated owner x limits.lower limits.upper attempts m w))) := by
  rw [gaussian, value_bind meanValued, value_bind sigmaValued]
  simp only [if_neg positive]
  rw [bounded, lift_ok_bind]
  split
  · rfl
  · rw [run_bind]
    rcases truncated limits m w attempts state with stop | ⟨_ | drawn, after⟩ <;> rfl

/-- A normal draw succeeds exactly when there is a value that it may keep. -/
theorem gaussian_eq_ok : gaussian table attempts owner x mean sigma state = .ok ((), after) ↔
    ∃ limits drawn, bounds table x = .ok limits ∧
      NormalValue table attempts mean sigma limits state after.stream drawn ∧
        after.drawn = (x, drawn) :: state.drawn := by
  constructor
  · intro ended
    have valued := ended
    rw [gaussian, run_bind_eq_ok] at valued
    obtain ⟨m, _, meanRan, valued⟩ := valued
    obtain ⟨meanValued, rfl⟩ := lift_eq_ok.1 meanRan
    rw [run_bind_eq_ok] at valued
    obtain ⟨w, _, sigmaRan, valued⟩ := valued
    obtain ⟨sigmaValued, rfl⟩ := lift_eq_ok.1 sigmaRan
    by_cases positive : w ≤ 0
    · rw [if_pos positive] at valued
      cases valued
    rw [if_neg positive] at valued
    obtain ⟨limits, _, boundsRan, _⟩ := run_bind_eq_ok.1 valued
    obtain ⟨bounded, _⟩ := lift_eq_ok.1 boundsRan
    rw [gaussian_eq meanValued sigmaValued positive bounded] at ended
    by_cases single : limits.isDegenerate = true
    · rw [if_pos single] at ended
      obtain ⟨_, rfl⟩ := Prod.mk.inj (Except.ok.inj ended)
      refine ⟨limits, limits.lower, bounded, ⟨m, w, meanValued, sigmaValued, positive, ?_⟩, rfl⟩
      rw [if_pos single]
      exact ⟨rfl, rfl⟩
    · rw [if_neg single] at ended
      split at ended
      · cases ended
      · rename_i drawn middle truncatedEq
        obtain ⟨first, sameDrawn⟩ := truncated_eq_some.1 truncatedEq
        obtain ⟨_, rfl⟩ := Prod.mk.inj (Except.ok.inj ended)
        refine ⟨limits, drawn, bounded, ⟨m, w, meanValued, sigmaValued, positive, ?_⟩, by rw [← sameDrawn]⟩
        rw [if_neg single]
        exact first
      · cases ended
  · rintro ⟨limits, drawn, bounded, ⟨m, w, meanValued, sigmaValued, positive, kept⟩, drawnEq⟩
    rw [gaussian_eq meanValued sigmaValued positive bounded]
    by_cases single : limits.isDegenerate = true
    · rw [if_pos single] at kept ⊢
      obtain ⟨rfl, sameStream⟩ := kept
      rw [← drawnEq, ← sameStream]
    · rw [if_neg single] at kept ⊢
      have found : truncated limits m w attempts state = .ok (some drawn, ⟨state.drawn, after.stream⟩) :=
        truncated_eq_some.2 ⟨kept, rfl⟩
      rw [found]
      dsimp only
      rw [← drawnEq]

/-- A normal draw fails if none of its candidates lies within the bounds. -/
theorem gaussian_eq_error (meanValued : Scope.value ⟨table, state.drawn⟩ mean = .ok m)
    (sigmaValued : Scope.value ⟨table, state.drawn⟩ sigma = .ok w) (positive : ¬ w ≤ 0)
    (bounded : bounds table x = .ok limits) (room : limits.isDegenerate = false)
    (none : NoneWithin limits m w attempts state.stream rest) :
    gaussian table attempts owner x mean sigma state =
      .error (.error (.sampling (.truncated owner x limits.lower limits.upper attempts m w))) := by
  have nothing : truncated limits m w attempts state = .ok (Option.none, ⟨state.drawn, rest⟩) :=
    truncated_eq_none.2 ⟨none, rfl⟩
  rw [gaussian_eq meanValued sigmaValued positive bounded, room, nothing]
  rfl

end Normal

theorem valid_of_bounds (wellFormed : table.WellFormed) {name : String} (bounded : bounds table name = .ok limits) :
    limits.valid = true := by
  unfold bounds at bounded
  split at bounded
  · cases bounded
  · rename_i p found
    obtain ⟨own, kind⟩ := p
    cases kind with
    | derived formula => cases bounded
    | free value own =>
        obtain rfl := Except.ok.inj bounded
        obtain ⟨member, _⟩ := Table.mem_of_find? (Table.parameter_eq_ok.1 found)
        exact (wellFormed.sound _ member value _ rfl).1

theorem contains_lower (valid : limits.valid = true) : limits.contains limits.lower = true := by
  obtain ⟨lowerFinite, _, ordered⟩ := Bounds.valid_iff.1 valid
  exact Bounds.contains_iff.2 ⟨Number.le_refl_of_finite lowerFinite, ordered⟩

theorem NormalValue.contains {mean sigma : String} (valid : limits.valid = true)
    (value : NormalValue table attempts mean sigma limits state rest drawn) : limits.contains drawn = true := by
  obtain ⟨m, w, _, _, _, kept⟩ := value
  split at kept
  · obtain ⟨rfl, _⟩ := kept
    exact contains_lower valid
  · obtain ⟨_, _, _, _, _, _, within⟩ := kept
    exact within

/-- An even draw adds a value within the bounds of its parameter. -/
theorem exists_of_even (wellFormed : table.WellFormed) {name : String}
    (ran : even table name state = .ok ((), after)) :
    ∃ limits drawn, bounds table name = .ok limits ∧ limits.contains drawn = true ∧
      after.drawn = (name, drawn) :: state.drawn := by
  rw [even, run_bind_eq_ok] at ran
  obtain ⟨limits, _, boundsRan, ran⟩ := ran
  obtain ⟨bounded, rfl⟩ := lift_eq_ok.1 boundsRan
  have valid := valid_of_bounds wellFormed bounded
  obtain ⟨lowerFinite, upperFinite, ordered⟩ := Bounds.valid_iff.1 valid
  split at ran
  · dsimp only at ran
    split at ran
    · cases ran
    · obtain ⟨drawn, _, numberRan, kept⟩ := run_bind_eq_ok.1 ran
      obtain ⟨rest, taken, rfl⟩ := number_eq_ok.1 numberRan
      obtain ⟨word, rfl, below⟩ := range?_eq_some taken
      obtain ⟨_, rfl⟩ := Prod.mk.inj (Except.ok.inj kept)
      have above := Number.lower_le_rangeValue lowerFinite upperFinite ordered below
      exact ⟨limits, _, bounded, Bounds.contains_iff.2 ⟨above, Number.le_of_lt below⟩, rfl⟩
  · obtain ⟨_, rfl⟩ := Prod.mk.inj (Except.ok.inj ran)
    exact ⟨limits, limits.lower, bounded, contains_lower valid, rfl⟩

end Draw

end DensityGraph.Sampling
