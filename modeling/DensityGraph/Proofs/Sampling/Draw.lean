import DensityGraph.Proofs.Composition.Coherent
import DensityGraph.Proofs.Scope
import DensityGraph.Sampling.Draw

/-!
# Steps of a draw

A draw is a chain of steps that may stop.  Every step is described by what holds
of its result if it goes on; if it stops, then for one of the reasons that no
check of the model can exclude.  The depth bound of the recursion over the
parts of a density never matters on a structured table.
-/

namespace DensityGraph

/-- The errors of a draw that no check of a model excludes. -/
def ModelError.IsDrawFault (e : ModelError) : Prop :=
  (∃ owner sigma width, e = .sampling (.width owner sigma width)) ∨
    (∃ owner x lower upper attempts mean width,
      e = .sampling (.truncated owner x lower upper attempts mean width)) ∨
    e.IsWeightFault ∨ e.IsNonFinite

namespace Sampling

open DensityGraph.Random (Stream)

/-- The stops of a draw that no check of a model excludes. -/
def Stop.Expected : Stop → Prop
  | .error e => e.IsDrawFault
  | .exhausted | .rangeOverflow => True

namespace Draw

variable {α β : Type} {table : Table} {attempts : Nat} {state : State}

/-- A step either ends in a state of which a condition holds, or stops as
expected. -/
def Ends (step : Draw α) (state : State) (holds : α → State → Prop) : Prop :=
  match step state with
  | .ok (a, after) => holds a after
  | .error stop => stop.Expected

theorem run_bind (first : Draw α) (next : α → Draw β) :
    (first >>= next) state =
      match first state with
      | .ok (a, middle) => next a middle
      | .error stop => .error stop := by
  change (first state >>= fun result => next result.1 result.2) = _
  cases first state <;> rfl

theorem run_bind_eq_ok {first : Draw α} {next : α → Draw β} {b : β} {after : State} :
    (first >>= next) state = .ok (b, after) ↔
      ∃ a middle, first state = .ok (a, middle) ∧ next a middle = .ok (b, after) := by
  rw [run_bind]
  rcases first state with stop | ⟨a, middle⟩
  · simp
  · simp

theorem lift_eq_ok {result : Except ModelError α} {a : α} {after : State} :
    lift result state = .ok (a, after) ↔ result = .ok a ∧ after = state := by
  cases result with
  | error e => simp [lift]
  | ok b => simp [lift, eq_comm]

theorem number_eq_ok {take : Stream → Option (Float × Stream)} {drawn : Float} {after : State} :
    number take state = .ok (drawn, after) ↔
      ∃ rest, take state.stream = some (drawn, rest) ∧ after = { state with stream := rest } := by
  cases taken : take state.stream with
  | none => simp [number, taken]
  | some result => simp [number, taken, Prod.ext_iff, eq_comm]

namespace Ends

variable {first : Draw α} {next : α → Draw β} {holds : α → State → Prop} {after : β → State → Prop}

theorem bind (firstEnds : Ends first state holds)
    (nextEnds : ∀ a middle, holds a middle → Ends (next a) middle after) :
    Ends (first >>= next) state after := by
  unfold Ends at firstEnds ⊢
  rw [run_bind]
  cases ran : first state with
  | error stop => simpa [ran] using firstEnds
  | ok result =>
      obtain ⟨a, middle⟩ := result
      rw [ran] at firstEnds
      exact nextEnds a middle firstEnds

theorem imp {weaker : α → State → Prop} (ends : Ends first state holds)
    (weaken : ∀ a middle, holds a middle → weaker a middle) : Ends first state weaker := by
  unfold Ends at ends ⊢
  split
  · simp_all
  · simp_all

theorem get : Ends get state fun seen after => seen = state ∧ after = state :=
  ⟨rfl, rfl⟩

end Ends

theorem ends_lift {result : Except ModelError α} (faults : ∀ e, result = .error e → e.IsDrawFault) :
    Ends (lift result) state fun a after => result = .ok a ∧ after = state := by
  unfold Ends lift
  cases result with
  | ok a => exact ⟨rfl, rfl⟩
  | error e => exact faults e rfl

theorem ends_number {take : Stream → Option (Float × Stream)} :
    Ends (number take) state fun value after =>
      take state.stream = some (value, after.stream) ∧ after.drawn = state.drawn := by
  unfold Ends number
  cases take state.stream with
  | none => exact trivial
  | some taken => exact ⟨rfl, rfl⟩

theorem ends_keep {name : String} {value : Float} :
    Ends (keep name value) state fun _ after => after.drawn = (name, value) :: state.drawn :=
  rfl

theorem ends_value (structured : table.Structured) {name : String} (declared : table.HasParameter name) :
    Ends (value table name) state fun _ after => after = state := by
  have faults : ∀ e, Scope.value ⟨table, state.drawn⟩ name = .error e → e.IsDrawFault :=
    fun e failed => .inr (.inr (.inr (Scope.isNonFinite_of_value structured declared failed)))
  exact (ends_lift faults).imp fun _ _ ended => ended.2

theorem forM_congr {step other : α → Draw Unit} {list : List α} (agree : ∀ a ∈ list, step a = other a) :
    list.forM step = list.forM other := by
  induction list with
  | nil => rfl
  | cons first rest ih =>
      rw [List.forall_mem_cons] at agree
      rw [List.forM, List.forM, agree.1, ih agree.2]

/-- The chosen branch is one of the branches or the remainder. -/
theorem choose_mem {u start : Float} {remainder : String} {branches : List Branch} {weights : List Float} :
    choose u start remainder (branches.zip weights) ∈ branches.map (·.density) ++ [remainder] := by
  induction branches generalizing start weights with
  | nil => simp [choose]
  | cons first rest ih =>
      cases weights with
      | nil => simp [choose]
      | cons weight weights =>
          rw [List.zip_cons_cons, choose]
          split
          · simp
          · exact List.mem_cons_of_mem _ ih

theorem byKind_congr {part other : String → Draw Unit} {name : String} {d : Density}
    (agree : ∀ name ∈ d.densityRefs, part name = other name) :
    byKind table attempts part name d.kind = byKind table attempts other name d.kind := by
  obtain ⟨own, kind⟩ := d
  cases kind with
  | gaussian x mean sigma => rfl
  | uniform parameters => rfl
  | product factors => exact forM_congr agree
  | mixture branches remainder =>
      have same : ∀ weights u, part (choose u 0 remainder (branches.zip weights)) =
          other (choose u 0 remainder (branches.zip weights)) := fun weights u => agree _ choose_mem
      simp only [byKind, same]
  | conditionalJoint shared marginal conditionals =>
      simp only [byKind]
      rw [agree marginal List.mem_cons_self,
        forM_congr fun name member => agree name (List.mem_cons_of_mem _ member)]

theorem lift_ok_bind {a : α} {next : α → Draw β} : (lift (.ok a) >>= next) = next a :=
  rfl

theorem densityWithin_succ {depth : Nat} {name : String} {d : Density} (found : table.density name = .ok d) :
    densityWithin table attempts (depth + 1) name =
      byKind table attempts (densityWithin table attempts depth) name d.kind := by
  rw [densityWithin, found, lift_ok_bind]

theorem densityWithin_congr {rank : String → Nat} (ranked : table.Ranked rank) {depth deeper : Nat}
    {name : String} (enough : rank name < depth) (enoughToo : rank name < deeper) :
    densityWithin table attempts depth name = densityWithin table attempts deeper name := by
  induction depth generalizing name deeper with
  | zero => omega
  | succ depth ih =>
      obtain ⟨deeper, rfl⟩ : ∃ more, deeper = more + 1 := ⟨deeper - 1, by omega⟩
      cases found : table.density name with
      | error e =>
          rw [densityWithin, densityWithin, found]
          rfl
      | ok d =>
          rw [densityWithin_succ found, densityWithin_succ found]
          apply byKind_congr
          intro part needed
          have lower := ranked.part_lt found needed
          exact ih (by omega) (by omega)

/-- A density is drawn by its kind, and its parts in the same way. -/
theorem density_eq (structured : table.Structured) {name : String} {d : Density}
    (found : table.density name = .ok d) :
    density table attempts name = byKind table attempts (density table attempts) name d.kind := by
  obtain ⟨rank, ranked⟩ := structured.ranked
  have bounded := ranked.lt_size (Table.hasDensity_iff.2 ⟨d, found⟩).mem_names
  obtain ⟨less, sizeEq⟩ : ∃ less, table.size = less + 1 := ⟨table.size - 1, by omega⟩
  unfold density
  rw [sizeEq, densityWithin_succ found]
  apply byKind_congr
  intro part needed
  have lower := ranked.part_lt found needed
  exact densityWithin_congr ranked (by omega) (by omega)

end Draw

end Sampling

end DensityGraph
