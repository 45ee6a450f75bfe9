import DensityGraph.Proofs.Sampling.Variables
import DensityGraph.Proofs.Table.Value

/-!
# What a draw depends on

A draw of a density depends on the stream, the bounds of the table and what
stands for those parameters that the density reads, and on nothing else.  So the
draws of the siblings before it matter exactly as far as it reads what they have
drawn.
-/

namespace DensityGraph.Sampling

open DensityGraph.Random (Stream)

namespace Draw

variable {α β : Type} {table changed : Table} {attempts : Nat} {first second : State} {name : String}

/-- Two steps do the same from two states: both stop for the same reason, or both
add the same values to those drawn before and leave the same stream. -/
def Alike (step other : Draw α) (first second : State) : Prop :=
  (∃ stop, step first = .error stop ∧ other second = .error stop) ∨
    ∃ a new rest, step first = .ok (a, ⟨new ++ first.drawn, rest⟩) ∧
      other second = .ok (a, ⟨new ++ second.drawn, rest⟩)

namespace Alike

variable {step other : Draw α} {next nextOther : α → Draw β}

theorem bind (alike : Alike step other first second)
    (nextAlike : ∀ a new rest, step first = .ok (a, ⟨new ++ first.drawn, rest⟩) →
      Alike (next a) (nextOther a) ⟨new ++ first.drawn, rest⟩ ⟨new ++ second.drawn, rest⟩) :
    Alike (step >>= next) (other >>= nextOther) first second := by
  unfold Alike
  simp only [run_bind]
  rcases alike with ⟨stop, stopped, stoppedToo⟩ | ⟨a, new, rest, ran, ranToo⟩
  · exact .inl ⟨stop, by rw [stopped], by rw [stoppedToo]⟩
  · rw [ran, ranToo]
    rcases nextAlike a new rest ran with ⟨stop, stopped, stoppedToo⟩ | ⟨b, more, last, ended, endedToo⟩
    · exact .inl ⟨stop, stopped, stoppedToo⟩
    · refine .inr ⟨b, more ++ new, last, ?_, ?_⟩
      · rw [List.append_assoc]
        exact ended
      · rw [List.append_assoc]
        exact endedToo

theorem pure {a : α} (sameStream : first.stream = second.stream) : Alike (pure a) (pure a) first second := by
  obtain ⟨drawn, stream⟩ := first
  obtain rfl : stream = second.stream := sameStream
  exact .inr ⟨a, [], second.stream, rfl, rfl⟩

theorem throw {stop : Stop} : Alike (throw stop : Draw α) (throw stop) first second :=
  .inl ⟨stop, rfl, rfl⟩

theorem lift {result : Except ModelError α} (sameStream : first.stream = second.stream) :
    Alike (lift result) (lift result) first second := by
  cases result with
  | error e => exact .inl ⟨.error e, rfl, rfl⟩
  | ok a => exact pure sameStream

theorem number {take : Stream → Option (Float × Stream)} (sameStream : first.stream = second.stream) :
    Alike (number take) (number take) first second := by
  unfold Alike Draw.number
  rw [sameStream]
  cases take second.stream with
  | none => exact .inl ⟨.exhausted, rfl, rfl⟩
  | some taken => exact .inr ⟨taken.1, [], taken.2, rfl, rfl⟩

theorem keep {value : Float} (sameStream : first.stream = second.stream) :
    Alike (keep name value) (keep name value) first second := by
  obtain ⟨drawn, stream⟩ := first
  obtain rfl : stream = second.stream := sameStream
  exact .inr ⟨(), [(name, value)], second.stream, rfl, rfl⟩

/-- Steps that look at the drawn values. -/
theorem get {look lookOther : State → Draw β} (alike : Alike (look first) (lookOther second) first second) :
    Alike (get >>= look) (get >>= lookOther) first second :=
  alike

end Alike

/-- In front of two tables the drawn values hold the same for all that a density
reads. -/
def HoldAlike (table changed : Table) (name : String) (first second : Overrides) : Prop :=
  ∀ target, table.densityReads name target = .ok true →
    Scope.held? ⟨table, first⟩ target = Scope.held? ⟨changed, second⟩ target

theorem HoldAlike.append {earlier later : Overrides} (agree : HoldAlike table changed name earlier later)
    (new : Overrides) : HoldAlike table changed name (new ++ earlier) (new ++ later) := by
  intro target reads
  rw [Scope.held?_append, Scope.held?_append, agree target reads]

theorem alike_truncated {limits : Bounds} {mean width : Float} (sameStream : first.stream = second.stream) :
    Alike (truncated limits mean width attempts) (truncated limits mean width attempts) first second := by
  induction attempts generalizing first second with
  | zero => exact Alike.pure sameStream
  | succ attempts ih =>
      unfold truncated
      apply (Alike.number sameStream).bind
      intro z new rest _
      dsimp only
      split
      · exact Alike.pure rfl
      · exact ih rfl

theorem alike_even (outline : table.SameOutline changed) (sameStream : first.stream = second.stream) :
    Alike (even table name) (even changed name) first second := by
  unfold even
  rw [outline.bounds_eq]
  apply (Alike.lift sameStream).bind
  intro limits new rest _
  split
  · dsimp only
    split
    · exact Alike.throw
    · apply Alike.bind
      · exact Alike.number rfl
      · exact fun drawn more last _ => Alike.keep rfl
  · exact Alike.keep rfl

theorem alike_value (structured : table.Structured) (outline : table.SameOutline changed)
    (declared : table.HasParameter name) (sameStream : first.stream = second.stream)
    (agree : ∀ target, table.parameterReads name target = .ok true →
      Scope.held? ⟨table, first.drawn⟩ target = Scope.held? ⟨changed, second.drawn⟩ target) :
    Alike (value table name) (value changed name) first second := by
  have same : Scope.value ⟨table, first.drawn⟩ name = Scope.value ⟨changed, second.drawn⟩ name :=
    Scope.value_congr structured outline.shape_eq declared agree
  unfold Alike value
  rw [same]
  exact Alike.lift sameStream

theorem alike_forM {step other : α → Draw Unit} {list : List α} (sameStream : first.stream = second.stream)
    (holds : α → Overrides → Overrides → Prop)
    (agree : ∀ a ∈ list, holds a first.drawn second.drawn)
    (extend : ∀ a ∈ list, ∀ earlier later new, holds a earlier later → holds a (new ++ earlier) (new ++ later))
    (alike : ∀ a ∈ list, ∀ first second : State, first.stream = second.stream →
      holds a first.drawn second.drawn → Alike (step a) (other a) first second) :
    Alike (list.forM step) (list.forM other) first second := by
  induction list generalizing first second with
  | nil => exact Alike.pure sameStream
  | cons head rest ih =>
      rw [List.forall_mem_cons] at agree extend alike
      rw [List.forM, List.forM]
      apply (alike.1 first second sameStream agree.1).bind
      intro _ new last _
      apply ih
      · rfl
      · exact fun a member => extend.2 a member _ _ new (agree.2 a member)
      · exact extend.2
      · exact alike.2

/-- A draw does the same from two states with the same stream, in front of tables
of one outline, if what the density reads is the same. -/
theorem alike_density (structured : table.Structured) (outline : table.SameOutline changed)
    (declared : table.HasDensity name) (sameStream : first.stream = second.stream)
    (agree : HoldAlike table changed name first.drawn second.drawn) :
    Alike (density table attempts name) (density changed attempts name) first second := by
  have structuredToo := structured.of_shape_eq outline.shape_eq
  revert first second
  apply structured.density_induction _ declared
  intro name d found parts first second sameStream agree
  have agreePart : ∀ part ∈ d.densityRefs, ∀ {earlier later : Overrides},
      HoldAlike table changed name earlier later → HoldAlike table changed part earlier later := by
    intro part needed earlier later agree target reads
    exact agree target (structured.densityReads_of_use found (.inr ⟨part, needed, reads⟩))
  have agreeInput : ∀ input ∈ Table.inputs d, ∀ {earlier later : Overrides},
      HoldAlike table changed name earlier later → ∀ target, table.parameterReads input target = .ok true →
        Scope.held? ⟨table, earlier⟩ target = Scope.held? ⟨changed, later⟩ target := by
    intro input needed earlier later agree target reads
    exact agree target (structured.densityReads_of_use found (.inl ⟨input, needed, reads⟩))
  have drawParts : ∀ list : List String, list ⊆ d.densityRefs → ∀ first second : State,
      first.stream = second.stream → HoldAlike table changed name first.drawn second.drawn →
        Alike (list.forM (density table attempts)) (list.forM (density changed attempts)) first second := by
    intro list inside first second sameStream agree
    apply alike_forM sameStream (HoldAlike table changed)
    · exact fun part member => agreePart part (inside member) agree
    · exact fun part _ earlier later new agree => agree.append new
    · exact fun part member first second => parts part (inside member)
  have foundToo : changed.density name = .ok d := outline.density_eq.trans found
  rw [density_eq structured found, density_eq structuredToo foundToo]
  obtain ⟨own, kind⟩ := d
  cases kind with
  | gaussian x mean sigma =>
      have meanDeclared : table.HasParameter mean :=
        structured.hasParameter_ref found (by simp [Density.parameterRefs])
      have sigmaDeclared : table.HasParameter sigma :=
        structured.hasParameter_ref found (by simp [Density.parameterRefs])
      simp only [byKind, gaussian, outline.bounds_eq]
      apply (alike_value structured outline meanDeclared sameStream (agreeInput mean (by simp [Table.inputs]) agree)).bind
      intro m new rest _
      have agreeNow := agree.append new
      apply Alike.bind
      · exact alike_value structured outline sigmaDeclared rfl (agreeInput sigma (by simp [Table.inputs]) agreeNow)
      intro width more last _
      split
      · exact Alike.throw
      · apply Alike.bind
        · exact Alike.lift rfl
        intro limits _ _ _
        split
        · exact Alike.keep rfl
        · apply Alike.bind
          · exact alike_truncated rfl
          intro drawn _ _ _
          split
          · exact Alike.keep rfl
          · exact Alike.throw
  | uniform parameters =>
      apply alike_forM sameStream fun _ _ _ => True
      · exact fun _ _ => trivial
      · exact fun _ _ _ _ _ _ => trivial
      · exact fun x _ first second sameStream _ => alike_even outline sameStream
  | product factors => exact drawParts factors (List.Subset.refl _) first second sameStream agree
  | mixture branches remainder =>
      have weights : Scope.mixtureWeights ⟨table, first.drawn⟩ branches =
          Scope.mixtureWeights ⟨changed, second.drawn⟩ branches := by
        apply Scope.mixtureWeights_congr
        intro branch member
        have weightDeclared : table.HasParameter branch.weight :=
          structured.hasParameter_ref found (List.mem_map_of_mem member)
        exact Scope.value_congr structured outline.shape_eq weightDeclared
          (agreeInput branch.weight (List.mem_map_of_mem member) agree)
      apply Alike.get
      rw [weights]
      apply (Alike.lift sameStream).bind
      intro weights new rest _
      apply Alike.bind
      · exact Alike.number rfl
      intro u more last _
      have chosen := @choose_mem u 0 remainder branches weights
      exact parts _ chosen rfl (agreePart _ chosen ((agree.append new).append more))
  | conditionalJoint shared marginal conditionals =>
      have inside : marginal :: conditionals ⊆ Density.densityRefs ⟨own, .conditionalJoint shared marginal conditionals⟩ :=
        List.Subset.refl _
      exact drawParts (marginal :: conditionals) inside first second sameStream agree

/-- What a draw does: the values that it adds and the stream that it leaves, or
why it stops. -/
def outcome (step : Draw Unit) (state : State) : Except Stop (Overrides × Stream) :=
  match step state with
  | .error stop => .error stop
  | .ok ((), after) => .ok (after.drawn.take (after.drawn.length - state.drawn.length), after.stream)

theorem Alike.outcome_eq {step other : Draw Unit} (alike : Alike step other first second) :
    outcome step first = outcome other second := by
  unfold outcome
  rcases alike with ⟨stop, stopped, stoppedToo⟩ | ⟨_, new, rest, ran, ranToo⟩
  · rw [stopped, stoppedToo]
  · rw [ran, ranToo]
    simp

/-- Those of some drawn values that a density reads. -/
def seenBy (table : Table) (name : String) (new : Overrides) : Overrides :=
  new.filter fun entry => (table.densityReads name entry.1).toOption.getD false

theorem seenBy_cons {entry : String × Float} {new : Overrides} :
    seenBy table name (entry :: new) =
      if table.densityReads name entry.1 = .ok true then entry :: seenBy table name new
      else seenBy table name new := by
  unfold seenBy
  rw [List.filter_cons]
  rcases table.densityReads name entry.1 with _ | (_ | _) <;> simp [Except.toOption]

theorem lookup_seenBy {target : String} (reads : table.densityReads name target = .ok true)
    (new earlier : Overrides) :
    (new ++ earlier).lookup target = (seenBy table name new ++ earlier).lookup target := by
  induction new with
  | nil => rfl
  | cons entry rest ih =>
      obtain ⟨key, value⟩ := entry
      rw [seenBy_cons]
      by_cases here : target = key
      · subst here
        rw [if_pos reads, List.cons_append, List.cons_append, List.lookup_cons_self, List.lookup_cons_self]
      · have different : (target == key) = false := by simpa using here
        by_cases seen : table.densityReads name key = .ok true
        · rw [if_pos seen]
          simpa only [List.cons_append, List.lookup_cons, different] using ih
        · rw [if_neg seen]
          simpa only [List.cons_append, List.lookup_cons, different] using ih

theorem seenBy_eq_nil {new : Overrides} (unread : ∀ entry ∈ new, table.densityReads name entry.1 ≠ .ok true) :
    seenBy table name new = [] := by
  induction new with
  | nil => rfl
  | cons entry rest ih =>
      rw [List.forall_mem_cons] at unread
      rw [seenBy_cons, if_neg unread.1, ih unread.2]

/-- A density is drawn as if the values drawn were those of an earlier state. -/
def BlindTo (table : Table) (attempts : Nat) (name : String) (entry middle : State) : Prop :=
  outcome (density table attempts name) middle =
    outcome (density table attempts name) ⟨entry.drawn, middle.stream⟩

instance {entry middle : State} : Decidable (BlindTo table attempts name entry middle) :=
  inferInstanceAs (Decidable (_ = _))

/-- Behind some siblings a density is drawn as if only those of their values had
been drawn that it reads. -/
structure SeesOnly (table : Table) (attempts : Nat) (siblings : List String) (name : String)
    (entry middle : State) : Prop where
  outcome_eq : ∃ new, middle.drawn = new ++ entry.drawn ∧
    outcome (density table attempts name) middle =
      outcome (density table attempts name) ⟨seenBy table name new ++ entry.drawn, middle.stream⟩
  /-- as if they had not been drawn, if it reads nothing that they generate -/
  blind : (∀ sibling ∈ siblings, ∀ vars, table.generatedVariables sibling = .ok vars →
      ∀ parameter ∈ vars, table.densityReads name parameter ≠ .ok true) →
    BlindTo table attempts name entry middle

theorem seesOnly (coherent : table.Coherent) {siblings : List String} {entry middle : State}
    (declared : table.HasDensity name) (siblingsDeclared : ∀ sibling ∈ siblings, table.HasDensity sibling)
    (ran : siblings.forM (density table attempts) entry = .ok ((), middle)) :
    SeesOnly table attempts siblings name entry middle := by
  have structured := coherent.toStructured
  have generate : ∀ sibling ∈ siblings, ∃ vars, table.Generates sibling vars :=
    fun sibling member => structured.exists_generatedVariables (siblingsDeclared sibling member)
  obtain ⟨lists, each⟩ := exists_forall₂ generate
  have draws : Draws table (siblings.forM (density table attempts)) lists.flatten :=
    draws_forM (each.imp fun _ _ generates => draws_density coherent generates)
  have ends := draws entry
  rw [Ends, ran] at ends
  obtain ⟨new, drawnEq, names, _⟩ := ends
  have agree : HoldAlike table table name middle.drawn (seenBy table name new ++ entry.drawn) := by
    intro target reads
    simp only [drawnEq, Scope.held?, lookup_seenBy reads new entry.drawn]
  have alike : Alike (density table attempts name) (density table attempts name) middle
      ⟨seenBy table name new ++ entry.drawn, middle.stream⟩ := alike_density structured (.refl table) declared rfl agree
  refine ⟨⟨new, drawnEq, alike.outcome_eq⟩, ?_⟩
  intro independent
  have unread : ∀ value ∈ new, table.densityReads name value.1 ≠ .ok true := by
    intro value member
    have drawn : value.1 ∈ lists.flatten := names.mem_iff.mp (List.mem_map_of_mem member)
    obtain ⟨vars, inside, generated⟩ := List.mem_flatten.mp drawn
    obtain ⟨sibling, memberSibling, generates⟩ := exists_left_of_forall₂ each inside
    exact independent sibling memberSibling vars generates value.1 generated
  rw [BlindTo, alike.outcome_eq, seenBy_eq_nil unread, List.nil_append]

end Draw

end DensityGraph.Sampling
