import DensityGraph.Proofs.Number.Arithmetic
import DensityGraph.Proofs.Sampling.Draw

/-!
# What a draw adds

In a coherent model a draw of a density adds one finite value for each of the
parameters that the density draws, and no other value.  The list of these
parameters is computed from the structure of the density, and the draw follows
the random choices; that they agree rests on the checks of the densities: the
parts of a product and of a conditional joint draw different parameters, and the
branches of a mixture draw the same ones.
-/

namespace DensityGraph

namespace Sampling

open DensityGraph.Random (Stream)

namespace Draw

variable {table : Table} {attempts : Nat} {state : State} {name : String} {vars : List String}

/-- Between two states one value has been drawn for each of some parameters. -/
def Adds (table : Table) (vars : List String) (before after : State) : Prop :=
  ∃ new, after.drawn = new ++ before.drawn ∧ (new.map Prod.fst).Perm vars ∧
    ∀ entry ∈ new, table.Admits entry.1 entry.2

theorem Adds.nil {before after : State} (same : after.drawn = before.drawn) : Adds table [] before after :=
  ⟨[], same, .nil, by simp⟩

theorem Adds.single {before after : State} {value : Float} (free : table.IsFree name)
    (finite : value.isFinite = true) (kept : after.drawn = (name, value) :: before.drawn) :
    Adds table [name] before after := by
  refine ⟨[(name, value)], kept, .refl _, ?_⟩
  rintro entry member
  obtain rfl := List.mem_singleton.mp member
  exact ⟨free, finite⟩

theorem Adds.trans {first second : List String} {before middle after : State}
    (early : Adds table first before middle) (late : Adds table second middle after) :
    Adds table (first ++ second) before after := by
  obtain ⟨earlyNew, earlyEq, earlyNames, earlyAdmits⟩ := early
  obtain ⟨lateNew, lateEq, lateNames, lateAdmits⟩ := late
  refine ⟨lateNew ++ earlyNew, ?_, ?_, ?_⟩
  · rw [lateEq, earlyEq, List.append_assoc]
  · rw [List.map_append]
    exact (lateNames.append earlyNames).trans List.perm_append_comm
  · exact List.forall_mem_append.mpr ⟨lateAdmits, earlyAdmits⟩

theorem Adds.perm {other : List String} {before after : State} (adds : Adds table vars before after)
    (same : vars.Perm other) : Adds table other before after := by
  obtain ⟨new, drawnEq, names, admits⟩ := adds
  exact ⟨new, drawnEq, names.trans same, admits⟩

theorem Adds.congr_left {before same after : State} (drawnEq : same.drawn = before.drawn)
    (adds : Adds table vars same after) : Adds table vars before after := by
  obtain ⟨new, newEq, names, admits⟩ := adds
  exact ⟨new, by rw [newEq, drawnEq], names, admits⟩

/-- A value is found under every name of a list of entries. -/
theorem exists_lookup {entries : List (String × Float)} (drawn : name ∈ entries.map Prod.fst) :
    ∃ value, entries.lookup name = some value ∧ (name, value) ∈ entries := by
  obtain ⟨entry, member, rfl⟩ := List.mem_map.mp drawn
  obtain ⟨value, found⟩ := Option.isSome_iff_exists.mp
    (List.lookup_isSome_iff.mpr ⟨entry, member, beq_self_eq_true entry.1⟩)
  obtain ⟨earlier, later, split, _⟩ := List.lookup_eq_some_iff.mp found
  exact ⟨value, found, split ▸ List.mem_append_right _ List.mem_cons_self⟩

theorem lookup_eq_none {entries : List (String × Float)} (notDrawn : name ∉ entries.map Prod.fst) :
    entries.lookup name = none := by
  rw [List.lookup_eq_none_iff]
  intro entry member
  rw [bne_iff_ne]
  rintro rfl
  exact notDrawn (List.mem_map_of_mem member)

/-- What has been drawn is there. -/
theorem Adds.exists_lookup {before after : State} (adds : Adds table vars before after) (drawn : name ∈ vars) :
    ∃ value, after.drawn.lookup name = some value := by
  obtain ⟨new, drawnEq, names, _⟩ := adds
  obtain ⟨value, found, _⟩ := Draw.exists_lookup (names.mem_iff.mpr drawn)
  exact ⟨value, by rw [drawnEq, List.lookup_append, found, Option.some_or]⟩

/-- What is not drawn again keeps its value. -/
theorem Adds.lookup_eq {before after : State} (adds : Adds table vars before after) (notDrawn : name ∉ vars) :
    after.drawn.lookup name = before.drawn.lookup name := by
  obtain ⟨new, drawnEq, names, _⟩ := adds
  have absent := lookup_eq_none (mt names.mem_iff.mp notDrawn)
  rw [drawnEq, List.lookup_append, absent, Option.none_or]

theorem exists_bounds (wellFormed : table.WellFormed) (free : table.IsFree name) :
    ∃ limits, bounds table name = .ok limits ∧ limits.valid = true := by
  obtain ⟨⟨own, kind⟩, found, isFree⟩ := free
  cases kind with
  | derived formula => cases isFree
  | free value limits =>
      obtain ⟨member, _⟩ := Table.mem_of_find? (Table.parameter_eq_ok.1 found)
      refine ⟨limits, ?_, (wellFormed.sound _ member value limits rfl).1⟩
      rw [bounds, found]
      rfl

theorem ends_bounds (wellFormed : table.WellFormed) (free : table.IsFree name) :
    Ends (lift (bounds table name)) state fun limits after => limits.valid = true ∧ after = state := by
  obtain ⟨limits, boundsEq, valid⟩ := exists_bounds wellFormed free
  rw [boundsEq]
  exact ⟨valid, rfl⟩

theorem ends_truncated {limits : Bounds} {mean width : Float} :
    Ends (truncated limits mean width attempts) state fun drawn after =>
      after.drawn = state.drawn ∧ ∀ value, drawn = some value → limits.contains value = true := by
  induction attempts generalizing state with
  | zero => exact ⟨rfl, by simp⟩
  | succ attempts ih =>
      unfold truncated
      apply ends_number.bind
      rintro z middle ⟨_, same⟩
      dsimp only
      split
      · rename_i within
        refine ⟨same, ?_⟩
        intro value drawn
        obtain rfl := Option.some.inj drawn
        exact within
      · apply ih.imp
        rintro drawn after ⟨sameAfter, within⟩
        exact ⟨sameAfter.trans same, within⟩

theorem ends_gaussian (wellFormed : table.WellFormed) {owner x mean sigma : String} (free : table.IsFree x)
    (meanDeclared : table.HasParameter mean) (sigmaDeclared : table.HasParameter sigma) :
    Ends (gaussian table attempts owner x mean sigma) state fun _ after => Adds table [x] state after := by
  have structured := wellFormed.toStructured
  unfold gaussian
  apply (ends_value structured meanDeclared).bind
  rintro m _ rfl
  apply (ends_value structured sigmaDeclared).bind
  rintro width after rfl
  dsimp only
  split
  · exact .inl ⟨owner, sigma, width, rfl⟩
  · apply (ends_bounds wellFormed free).bind
    rintro limits same ⟨valid, rfl⟩
    obtain ⟨lowerFinite, upperFinite, _⟩ := Bounds.valid_iff.1 valid
    split
    · apply ends_keep.imp
      intro _ after kept
      exact Adds.single free lowerFinite kept
    · apply ends_truncated.bind
      rintro drawn middle ⟨same, within⟩
      split
      · rename_i value
        apply ends_keep.imp
        intro _ after kept
        rw [same] at kept
        exact Adds.single free (Bounds.isFinite_of_contains valid (within value rfl)) kept
      · exact .inr (.inl ⟨owner, x, limits.lower, limits.upper, attempts, m, width, rfl⟩)

theorem range?_eq_some {lower upper scale value : Float} {stream rest : Stream}
    (taken : Stream.range? lower upper scale stream = some (value, rest)) :
    ∃ word, value = Stream.rangeValue lower scale word ∧ value < upper := by
  fun_induction Stream.range? lower upper scale stream with
  | case1 => cases taken
  | case2 stream word next _ candidate below =>
      obtain ⟨rfl, _⟩ := Prod.mk.inj (Option.some.inj taken)
      exact ⟨word, rfl, below⟩
  | case3 stream word next _ candidate notBelow ih => exact ih taken

theorem ends_even (wellFormed : table.WellFormed) (free : table.IsFree name) :
    Ends (even table name) state fun _ after => Adds table [name] state after := by
  unfold even
  apply (ends_bounds wellFormed free).bind
  rintro limits after ⟨valid, rfl⟩
  obtain ⟨lowerFinite, upperFinite, ordered⟩ := Bounds.valid_iff.1 valid
  split
  · dsimp only
    split
    · exact trivial
    · apply ends_number.bind
      rintro value middle ⟨taken, same⟩
      obtain ⟨word, rfl, below⟩ := range?_eq_some taken
      apply ends_keep.imp
      intro _ after kept
      rw [same] at kept
      have above := Number.lower_le_rangeValue lowerFinite upperFinite ordered below
      exact Adds.single free (Number.isFinite_of_between lowerFinite upperFinite above (Number.le_of_lt below)) kept
  · apply ends_keep.imp
    intro _ after kept
    exact Adds.single free lowerFinite kept

/-- A step draws the given parameters from every state. -/
def Draws (table : Table) (step : Draw Unit) (vars : List String) : Prop :=
  ∀ state, Ends step state fun _ after => Adds table vars state after

theorem draws_forM {α : Type} {step : α → Draw Unit} {list : List α} {lists : List (List String)}
    (each : List.Forall₂ (fun a vars => Draws table (step a) vars) list lists) :
    Draws table (list.forM step) lists.flatten := by
  induction each with
  | nil => exact fun state => Adds.nil rfl
  | cons head _ ih =>
      intro state
      rw [List.forM]
      apply (head state).bind
      intro _ middle early
      apply (ih middle).imp
      intro _ after late
      exact early.trans late

theorem unique_perm {names : List String} (distinct : names.Nodup) : (Table.unique names).Perm names := by
  rw [List.perm_ext_iff_of_nodup (Table.nodup_unique names) distinct]
  exact fun name => Table.mem_unique

theorem forall₂_generates_unique {parts : List String} {first second : List (List String)}
    (one : List.Forall₂ table.Generates parts first) (other : List.Forall₂ table.Generates parts second) :
    first = second := by
  induction one generalizing second with
  | nil =>
      cases other
      rfl
  | cons head _ ih =>
      cases other with
      | cons head' tail' =>
          obtain rfl := Except.ok.inj (head.symm.trans head')
          rw [ih tail']

/-- The parts of a list of densities that draw different parameters. -/
theorem draws_disjoint {parts : List String} {lists : List (List String)}
    (generate : List.Forall₂ table.Generates parts lists) (disjoint : table.Disjoint parts)
    {step : Draw Unit} (draws : Draws table step lists.flatten) :
    Draws table step (Table.unique lists.flatten) := by
  obtain ⟨lists', generate', distinct⟩ := disjoint
  obtain rfl := forall₂_generates_unique generate generate'
  intro state
  apply (draws state).imp
  intro _ after adds
  exact adds.perm (unique_perm distinct).symm

theorem forall₂_draws {parts : List String} {lists : List (List String)}
    (generate : List.Forall₂ table.Generates parts lists)
    (draw : ∀ part ∈ parts, ∀ vars, table.Generates part vars →
      Draws table (density table attempts part) vars) :
    List.Forall₂ (fun part vars => Draws table (density table attempts part) vars) parts lists := by
  induction generate with
  | nil => exact .nil
  | cons head _ ih =>
      rw [List.forall_mem_cons] at draw
      exact .cons (draw.1 _ head) (ih draw.2)

/-- Whichever branch of a mixture is drawn, it draws the parameters of the
mixture. -/
theorem generates_branch {branches : List Branch} {remainder : String} {lists : List (List String)}
    {expected : List String} (generatesRemainder : table.Generates remainder expected)
    (same : ∀ branch ∈ branches, table.DrawsSame expected branch.density)
    (generate : List.Forall₂ table.Generates (branches.map (·.density) ++ [remainder]) lists)
    {part : String} (chosen : part ∈ branches.map (·.density) ++ [remainder]) :
    ∃ vars, table.Generates part vars ∧ vars.Perm (Table.unique lists.flatten) := by
  have each : ∀ part ∈ branches.map (·.density) ++ [remainder], table.DrawsSame expected part := by
    rw [List.forall_mem_append, List.forall_mem_map, List.forall_mem_singleton]
    exact ⟨same, expected, generatesRemainder, fun _ => Iff.rfl⟩
  obtain ⟨vars, generates, sameVars⟩ := each part chosen
  refine ⟨vars, generates, ?_⟩
  rw [List.perm_ext_iff_of_nodup (Table.nodup_of_generatedVariables generates) (Table.nodup_unique _)]
  intro name
  rw [Table.mem_unique, List.mem_flatten, sameVars]
  constructor
  · intro wanted
    obtain ⟨list, member, generatesList⟩ := exists_right_of_forall₂ generate chosen
    obtain rfl := Except.ok.inj (generates.symm.trans generatesList)
    exact ⟨vars, member, (sameVars name).mpr wanted⟩
  · rintro ⟨list, member, drawn⟩
    obtain ⟨other, memberOther, generatesList⟩ := exists_left_of_forall₂ generate member
    obtain ⟨varsOther, generatesOther, sameOther⟩ := each other memberOther
    obtain rfl := Except.ok.inj (generatesOther.symm.trans generatesList)
    exact (sameOther name).mp drawn

/-- A draw of a density adds the parameters that the density draws. -/
theorem draws_density (coherent : table.Coherent) (generates : table.Generates name vars) :
    Draws table (density table attempts name) vars := by
  have structured := coherent.toStructured
  have declared : table.HasDensity name := by
    obtain ⟨d, found, _⟩ := Table.variablesWithin_eq_ok.1 generates
    exact Table.hasDensity_iff.2 ⟨d, found⟩
  revert vars
  apply structured.density_induction _ declared
  intro name d found parts vars generates
  have sensible := coherent.sensible_of_density found
  have kinds := Table.generated_by_kind found generates
  rw [density_eq structured found]
  obtain ⟨own, kind⟩ := d
  cases kind with
  | gaussian x mean sigma =>
      obtain rfl : vars = [x] := kinds
      have meanDeclared : table.HasParameter mean :=
        structured.hasParameter_ref found (by simp [Density.parameterRefs])
      have sigmaDeclared : table.HasParameter sigma :=
        structured.hasParameter_ref found (by simp [Density.parameterRefs])
      exact fun state => ends_gaussian coherent.toWellFormed sensible meanDeclared sigmaDeclared
  | uniform parameters =>
      obtain rfl : vars = Table.unique parameters := kinds
      obtain ⟨_, free, distinct⟩ := sensible
      have each : List.Forall₂ (fun x vars => Draws table (even table x) vars) parameters
          (parameters.map fun x => [x]) := by
        rw [List.forall₂_map_right_iff, List.forall₂_same]
        exact fun x member state => ends_even coherent.toWellFormed (free x member)
      intro state
      apply (draws_forM each state).imp
      intro _ after adds
      apply adds.perm
      rw [← List.flatMap_def, List.flatMap_singleton']
      exact (unique_perm distinct).symm
  | product factors =>
      obtain ⟨lists, generate, rfl⟩ := kinds
      exact draws_disjoint generate sensible.2 (draws_forM (forall₂_draws generate parts))
  | mixture branches remainder =>
      obtain ⟨lists, generate, rfl⟩ := kinds
      obtain ⟨_, expected, generatesRemainder, same⟩ := sensible
      intro state
      apply Ends.get.bind
      rintro _ _ ⟨rfl, rfl⟩
      have weightsDeclared : ∀ branch ∈ branches, table.HasParameter branch.weight :=
        fun branch member => structured.hasParameter_ref found (List.mem_map_of_mem member)
      have faults : ∀ {overrides e}, Scope.mixtureWeights ⟨table, overrides⟩ branches = .error e →
          e.IsDrawFault := by
        intro overrides e failed
        rcases Scope.mixtureWeights_error structured weightsDeclared failed with nonFinite | fault
        · exact .inr (.inr (.inr nonFinite))
        · exact .inr (.inr (.inl fault))
      apply (ends_lift fun e => faults).bind
      rintro weights _ ⟨_, rfl⟩
      apply ends_number.bind
      rintro u middle ⟨_, sameDrawn⟩
      have chosen : choose u 0 remainder (branches.zip weights) ∈ branches.map (·.density) ++ [remainder] :=
        choose_mem
      obtain ⟨vars, generatesPart, sameVars⟩ := generates_branch generatesRemainder same generate chosen
      apply (parts _ chosen generatesPart middle).imp
      intro _ after adds
      exact (adds.perm sameVars).congr_left sameDrawn
  | conditionalJoint shared marginal conditionals =>
      obtain ⟨lists, generate, rfl⟩ := kinds
      apply draws_disjoint generate sensible.2.2.2.2
      exact draws_forM (forall₂_draws generate parts)

/-- The value that a marginal has drawn for the shared parameter stays while the
conditionals are drawn. -/
theorem lookup_shared (coherent : table.Coherent) {shared marginal : String} {before after : List String}
    {own : String} (found : table.density name = .ok ⟨own, .conditionalJoint shared marginal (before ++ after)⟩)
    {start middle later : State} (marginalDrawn : density table attempts marginal start = .ok ((), middle))
    (conditionalsDrawn : before.forM (density table attempts) middle = .ok ((), later)) :
    ∃ value, middle.drawn.lookup shared = some value ∧ later.drawn.lookup shared = some value := by
  obtain ⟨_, _, ⟨vars, generates, drawsShared⟩, conditioned, _⟩ := coherent.sensible_of_density found
  have marginalDraws : Draws table (density table attempts marginal) vars := draws_density coherent generates
  have marginalEnds := marginalDraws start
  rw [Ends, marginalDrawn] at marginalEnds
  obtain ⟨value, drawn⟩ := marginalEnds.exists_lookup drawsShared
  have generate : ∀ part ∈ before, ∃ vars, table.Generates part vars ∧ shared ∉ vars := by
    intro part member
    obtain ⟨vars, generates, apart, _⟩ := conditioned part (List.mem_append_left _ member)
    exact ⟨vars, generates, apart⟩
  obtain ⟨lists, each⟩ := exists_forall₂ generate
  have draws : Draws table (before.forM (density table attempts)) lists.flatten :=
    draws_forM (each.imp fun _ _ both => draws_density coherent both.1)
  have conditionalsEnd := draws middle
  rw [Ends, conditionalsDrawn] at conditionalsEnd
  refine ⟨value, drawn, ?_⟩
  rw [conditionalsEnd.lookup_eq, drawn]
  rw [List.mem_flatten]
  rintro ⟨list, member, inside⟩
  obtain ⟨part, _, _, apart⟩ := exists_left_of_forall₂ each member
  exact apart inside

end Draw

end Sampling

end DensityGraph
