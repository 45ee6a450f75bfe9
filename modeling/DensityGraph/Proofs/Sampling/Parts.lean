import DensityGraph.Proofs.Sampling.Candidates

/-!
# The parts that a draw comes to

A draw follows the structure of its density: the parts of a product and of a
conditional joint are drawn in a row, and of a mixture the chosen branch.  Every
value that is drawn was made by a normal or an even density that the draw came to,
and a draw that comes to one that stops has to stop as well.
-/

namespace DensityGraph.Sampling

open DensityGraph.Random (Stream)

namespace Draw

variable {table : Table} {attempts : Nat} {name owner x : String} {state moment after : State} {drawn : Float}

/-- The parts of a density that are drawn one after another. -/
def inRow (d : Density) : List String :=
  match d.kind with
  | .product factors => factors
  | .conditionalJoint _ marginal conditionals => marginal :: conditionals
  | _ => []

theorem inRow_subset {d : Density} : inRow d ⊆ d.densityRefs := by
  obtain ⟨own, kind⟩ := d
  cases kind with
  | gaussian | uniform | mixture => exact List.nil_subset _
  | product | conditionalJoint => exact List.Subset.refl _

/-- The draw of a density from a state comes to the draw of another one, the
owner, at some moment. -/
inductive Comes (table : Table) (attempts : Nat) (owner : String) (moment : State) : String → State → Prop where
  | here : Comes table attempts owner moment owner moment
  | inRow {name part : String} {d : Density} {before later : List String} {state middle : State}
      (found : table.density name = .ok d) (split : inRow d = before ++ part :: later)
      (ran : before.forM (density table attempts) state = .ok ((), middle))
      (comes : Comes table attempts owner moment part middle) : Comes table attempts owner moment name state
  | branch {name own remainder : String} {branches : List Branch} {weights : List Float} {u : Float}
      {state : State} {rest : Stream} (found : table.density name = .ok ⟨own, .mixture branches remainder⟩)
      (weighed : Scope.mixtureWeights ⟨table, state.drawn⟩ branches = .ok weights)
      (taken : state.stream.unit? = some (u, rest))
      (comes : Comes table attempts owner moment (choose u 0 remainder (branches.zip weights))
        { state with stream := rest }) : Comes table attempts owner moment name state

/-- A density makes a value of one of its own parameters. -/
inductive Made (table : Table) (attempts : Nat) (owner : String) (moment : State) : String → Float → Prop where
  | normal {own x mean sigma : String} {limits : Bounds} {rest : Stream} {drawn : Float}
      (found : table.density owner = .ok ⟨own, .gaussian x mean sigma⟩)
      (bounded : bounds table x = .ok limits)
      (value : NormalValue table attempts mean sigma limits moment rest drawn) : Made table attempts owner moment x drawn
  | even {own x : String} {parameters : List String} {limits : Bounds} {drawn : Float}
      (found : table.density owner = .ok ⟨own, .uniform parameters⟩) (member : x ∈ parameters)
      (bounded : bounds table x = .ok limits) (within : limits.contains drawn = true) :
      Made table attempts owner moment x drawn

/-- What is made lies within the bounds of its parameter. -/
theorem Made.within (wellFormed : table.WellFormed) (made : Made table attempts owner moment x drawn) :
    ∃ limits, bounds table x = .ok limits ∧ limits.contains drawn = true := by
  cases made with
  | normal _ bounded value => exact ⟨_, bounded, value.contains (valid_of_bounds wellFormed bounded)⟩
  | even _ _ bounded within => exact ⟨_, bounded, within⟩

theorem run_forM_append {step : String → Draw Unit} {before rest : List String} :
    (before ++ rest).forM step state = (before.forM step >>= fun _ => rest.forM step) state := by
  induction before generalizing state with
  | nil => rfl
  | cons first others ih =>
      rw [List.cons_append, List.forM, List.forM, run_bind, run_bind, run_bind]
      rcases step first state with stop | ⟨_, middle⟩
      · rfl
      · dsimp only
        rw [ih, run_bind]

theorem density_eq_forM (structured : table.Structured) {d : Density} (found : table.density name = .ok d)
    (some : inRow d ≠ []) :
    density table attempts name = (inRow d).forM (density table attempts) := by
  rw [density_eq structured found]
  obtain ⟨own, kind⟩ := d
  cases kind with
  | gaussian | uniform | mixture => exact absurd rfl some
  | product | conditionalJoint => rfl

/-- The weights of a mixture are computed from what has been drawn before it. -/
theorem run_mixture {part : String → Draw Unit} {branches : List Branch} {remainder : String} :
    byKind table attempts part name (.mixture branches remainder) state =
      (lift (Scope.mixtureWeights ⟨table, state.drawn⟩ branches) >>= fun weights =>
        number Stream.unit? >>= fun u => part (choose u 0 remainder (branches.zip weights))) state :=
  rfl

theorem density_eq_branch (structured : table.Structured) {own remainder : String} {branches : List Branch}
    {weights : List Float} {u : Float} {rest : Stream}
    (found : table.density name = .ok ⟨own, .mixture branches remainder⟩)
    (weighed : Scope.mixtureWeights ⟨table, state.drawn⟩ branches = .ok weights)
    (taken : state.stream.unit? = some (u, rest)) :
    density table attempts name state =
      density table attempts (choose u 0 remainder (branches.zip weights)) { state with stream := rest } := by
  have numbered : number Stream.unit? state = .ok (u, { state with stream := rest }) :=
    number_eq_ok.2 ⟨rest, taken, rfl⟩
  rw [density_eq structured found, run_mixture, weighed, lift_ok_bind, run_bind, numbered]

theorem Comes.error (structured : table.Structured) {stop : Stop}
    (failed : density table attempts owner moment = .error stop)
    (comes : Comes table attempts owner moment name state) :
    density table attempts name state = .error stop := by
  induction comes with
  | here => exact failed
  | inRow found split ran _ ih =>
      rw [density_eq_forM structured found (by simp [split]), split, run_forM_append, run_bind, ran]
      dsimp only
      rw [List.forM, run_bind, ih]
  | branch found weighed taken _ ih =>
      rw [density_eq_branch structured found weighed taken]
      exact ih

/-- What is drawn in a row was made by the parts of the row. -/
theorem exists_new_of_forM {made : String → State → String × Float → Prop} {list : List String}
    (each : ∀ part ∈ list, ∀ state after, density table attempts part state = .ok ((), after) →
      ∃ new, after.drawn = new ++ state.drawn ∧ ∀ entry ∈ new, made part state entry)
    (ran : list.forM (density table attempts) state = .ok ((), after)) :
    ∃ new, after.drawn = new ++ state.drawn ∧ ∀ entry ∈ new, ∃ before part later middle,
      list = before ++ part :: later ∧ before.forM (density table attempts) state = .ok ((), middle) ∧
        made part middle entry := by
  induction list generalizing state with
  | nil =>
      obtain ⟨_, rfl⟩ := Prod.mk.inj (Except.ok.inj ran)
      exact ⟨[], rfl, List.forall_mem_nil _⟩
  | cons first rest ih =>
      rw [List.forall_mem_cons] at each
      rw [List.forM, run_bind_eq_ok] at ran
      obtain ⟨_, middle, firstRan, restRan⟩ := ran
      obtain ⟨early, earlyEq, earlyMade⟩ := each.1 state middle firstRan
      obtain ⟨late, lateEq, lateMade⟩ := ih each.2 restRan
      refine ⟨late ++ early, by rw [lateEq, earlyEq, List.append_assoc], ?_⟩
      intro entry member
      rcases List.mem_append.mp member with isLate | isEarly
      · obtain ⟨before, part, later, moment, rfl, beforeRan, entryMade⟩ := lateMade entry isLate
        refine ⟨first :: before, part, later, moment, rfl, ?_, entryMade⟩
        exact run_bind_eq_ok.2 ⟨(), middle, firstRan, beforeRan⟩
      · exact ⟨[], first, rest, state, rfl, rfl, earlyMade entry isEarly⟩

/-- Even draws in a row. -/
theorem exists_new_of_even (wellFormed : table.WellFormed) {parameters : List String}
    (ran : parameters.forM (even table) state = .ok ((), after)) :
    ∃ new, after.drawn = new ++ state.drawn ∧ ∀ entry ∈ new, entry.1 ∈ parameters ∧
      ∃ limits, bounds table entry.1 = .ok limits ∧ limits.contains entry.2 = true := by
  induction parameters generalizing state with
  | nil =>
      obtain ⟨_, rfl⟩ := Prod.mk.inj (Except.ok.inj ran)
      exact ⟨[], rfl, List.forall_mem_nil _⟩
  | cons first rest ih =>
      rw [List.forM, run_bind_eq_ok] at ran
      obtain ⟨_, middle, firstRan, restRan⟩ := ran
      obtain ⟨limits, drawn, bounded, within, middleEq⟩ := exists_of_even wellFormed firstRan
      obtain ⟨new, newEq, each⟩ := ih restRan
      refine ⟨new ++ [(first, drawn)], by rw [newEq, middleEq, List.append_assoc]; rfl, ?_⟩
      rw [List.forall_mem_append, List.forall_mem_singleton]
      exact ⟨fun entry member => ⟨List.mem_cons_of_mem _ (each entry member).1, (each entry member).2⟩,
        List.mem_cons_self, limits, bounded, within⟩

/-- Every value that a draw adds was made by a density that it came to. -/
theorem exists_new_of_density (wellFormed : table.WellFormed) (declared : table.HasDensity name)
    (ran : density table attempts name state = .ok ((), after)) :
    ∃ new, after.drawn = new ++ state.drawn ∧ ∀ entry ∈ new, ∃ owner moment,
      Comes table attempts owner moment name state ∧ Made table attempts owner moment entry.1 entry.2 := by
  have structured := wellFormed.toStructured
  revert state after
  apply structured.density_induction _ declared
  intro name d found parts state after ran
  have rows : (inRow d).forM (density table attempts) state = .ok ((), after) →
      ∃ new, after.drawn = new ++ state.drawn ∧ ∀ entry ∈ new, ∃ owner moment,
        Comes table attempts owner moment name state ∧ Made table attempts owner moment entry.1 entry.2 := by
    intro rowRan
    have partsInRow : ∀ part ∈ inRow d, ∀ state after, density table attempts part state = .ok ((), after) →
        ∃ new, after.drawn = new ++ state.drawn ∧ ∀ entry ∈ new, ∃ owner moment,
          Comes table attempts owner moment part state ∧ Made table attempts owner moment entry.1 entry.2 :=
      fun part member state after => parts part (inRow_subset member)
    obtain ⟨new, newEq, each⟩ := exists_new_of_forM partsInRow rowRan
    refine ⟨new, newEq, ?_⟩
    intro entry member
    obtain ⟨before, part, later, middle, split, beforeRan, owner, moment, comes, made⟩ := each entry member
    exact ⟨owner, moment, .inRow found split beforeRan comes, made⟩
  rw [density_eq structured found] at ran
  obtain ⟨own, kind⟩ := d
  cases kind with
  | gaussian x mean sigma =>
      obtain ⟨limits, drawn, bounded, value, afterEq⟩ := gaussian_eq_ok.1 ran
      refine ⟨[(x, drawn)], afterEq, List.forall_mem_singleton.mpr ?_⟩
      exact ⟨name, state, .here, .normal found bounded value⟩
  | uniform parameters =>
      obtain ⟨new, newEq, each⟩ := exists_new_of_even wellFormed ran
      refine ⟨new, newEq, ?_⟩
      intro entry member
      obtain ⟨inside, limits, bounded, within⟩ := each entry member
      exact ⟨name, state, .here, .even found inside bounded within⟩
  | mixture branches remainder =>
      rw [run_mixture, run_bind_eq_ok] at ran
      obtain ⟨weights, _, weightsRan, chosenRan⟩ := ran
      obtain ⟨weighed, rfl⟩ := lift_eq_ok.1 weightsRan
      obtain ⟨u, _, numberRan, partRan⟩ := run_bind_eq_ok.1 chosenRan
      obtain ⟨rest, taken, rfl⟩ := number_eq_ok.1 numberRan
      obtain ⟨new, newEq, each⟩ := parts _ choose_mem partRan
      refine ⟨new, newEq, ?_⟩
      intro entry member
      obtain ⟨owner, moment, comes, made⟩ := each entry member
      exact ⟨owner, moment, .branch found weighed taken comes, made⟩
  | product factors => exact rows ran
  | conditionalJoint shared marginal conditionals => exact rows ran

/-- A part that a successful draw came to was drawn, and what it drew is kept. -/
theorem Comes.exists_ok (wellFormed : table.WellFormed) (comes : Comes table attempts owner moment name state)
    (ran : density table attempts name state = .ok ((), after)) :
    ∃ middle, density table attempts owner moment = .ok ((), middle) ∧ middle.drawn ⊆ after.drawn := by
  have structured := wellFormed.toStructured
  induction comes generalizing after with
  | here => exact ⟨after, ran, List.Subset.refl _⟩
  | @inRow name part d before later state first found split beforeRan _ ih =>
      rw [density_eq_forM structured found (by simp [split]), split, run_forM_append, run_bind, beforeRan] at ran
      dsimp only at ran
      rw [List.forM, run_bind_eq_ok] at ran
      obtain ⟨_, second, partRan, laterRan⟩ := ran
      obtain ⟨middle, ownerRan, keeps⟩ := ih partRan
      have laterAdd : ∀ other ∈ later, ∀ state after, density table attempts other state = .ok ((), after) →
          ∃ new, after.drawn = new ++ state.drawn ∧ ∀ entry ∈ new, ∃ owner moment,
            Comes table attempts owner moment other state ∧ Made table attempts owner moment entry.1 entry.2 := by
        intro other member state after otherRan
        have declared : table.HasDensity other := by
          apply structured.hasDensity_part found
          exact inRow_subset (split ▸ List.mem_append_right _ (List.mem_cons_of_mem _ member))
        exact exists_new_of_density wellFormed declared otherRan
      obtain ⟨new, newEq, _⟩ := exists_new_of_forM laterAdd laterRan
      refine ⟨middle, ownerRan, fun entry member => ?_⟩
      rw [newEq]
      exact List.mem_append_right _ (keeps member)
  | branch found weighed taken _ ih =>
      rw [density_eq_branch structured found weighed taken] at ran
      exact ih ran

end Draw

end DensityGraph.Sampling
