import DensityGraph.Proofs.Declaration.Lagging

/-!
# Taking nested declarations out

Arguments with nested declarations can be added in two stages: first the nested
declarations, which are flat by then, and later the arguments with names in the
place of them.  A table that is made in this way lags behind the one with nested
declarations, until the names in the arguments are looked up.
-/

namespace DensityGraph.Declaration

open Elaborator

variable {α β : Type} {pending uses : List String} {table ahead behind reached : Table} {name text : String}

/-- Adds declarations one after another. -/
def elaborateAll : List Declaration → Elaborator Unit
  | [] => return ()
  | declaration :: rest => do
    let _ ← elaborate declaration
    elaborateAll rest

theorem elaborateAll_append_eq_ok {first second : List Declaration} :
    elaborateAll (first ++ second) table = .ok ((), reached) ↔
      ∃ middle, elaborateAll first table = .ok ((), middle) ∧ elaborateAll second middle = .ok ((), reached) := by
  induction first generalizing table with
  | nil =>
      constructor
      · intro ran
        exact ⟨table, rfl, ran⟩
      · rintro ⟨middle, stays, ran⟩
        obtain ⟨_, rfl⟩ := run_pure_eq_ok.1 stays
        exact ran
  | cons declaration rest ih =>
      simp only [List.cons_append, elaborateAll, run_bind_eq_ok, ih]
      constructor
      · rintro ⟨n, next, added, middle, ranFirst, ranSecond⟩
        exact ⟨middle, ⟨n, next, added, ranFirst⟩, ranSecond⟩
      · rintro ⟨middle, ⟨n, next, added, ranFirst⟩, ranSecond⟩
        exact ⟨n, next, added, middle, ranFirst, ranSecond⟩

theorem elaborateAll_singleton_eq_ok {declaration : Declaration} :
    elaborateAll [declaration] table = .ok ((), reached) ↔ ∃ n, elaborate declaration table = .ok (n, reached) := by
  rw [elaborateAll, run_bind_eq_ok]
  constructor
  · rintro ⟨n, _, added, ended⟩
    obtain ⟨_, rfl⟩ := run_pure_eq_ok.1 ended
    exact ⟨n, added⟩
  · rintro ⟨n, added⟩
    exact ⟨n, reached, added, rfl⟩

/-- From some table on, a step gives the same result on every table that lags
behind, and leaves nothing that it uses pending. -/
def Replays (reached : Table) (step : Elaborator α) (result : α) (uses : List String) : Prop :=
  ∀ ⦃pending ahead behind⦄, reached.Included ahead → Lags pending ahead behind →
    ∃ after, step behind = .ok (result, after) ∧ Lags pending ahead after ∧ behind.Included after ∧
      uses ⊆ after.names

/-- A step comes to some flat declarations and a flat step that can be taken at any
time later, up to constants in the flat step. -/
def Hoists (step : Elaborator α) (early : List Declaration) (flat : Elaborator α) (uses : List String)
    (fits : α → Prop) : Prop :=
  ∀ ⦃pending ahead behind result reached⦄, Lags pending ahead behind → step ahead = .ok (result, reached) →
    fits result ∧ ahead.Included reached ∧ Replays reached flat result uses ∧
      ∃ after, elaborateAll early behind = .ok ((), after) ∧ Lags (pending ++ uses) reached after

namespace Hoists

theorem bind {first flatFirst : Elaborator α} {next flatNext : α → Elaborator β} {early later : List Declaration}
    {usesFirst usesNext : List String} {fitsFirst : α → Prop} {fitsNext : β → Prop}
    (firstHoists : Hoists first early flatFirst usesFirst fitsFirst)
    (nextHoists : ∀ a, fitsFirst a → Hoists (next a) later (flatNext a) usesNext fitsNext) :
    Hoists (first >>= next) (early ++ later) (flatFirst >>= flatNext) (usesFirst ++ usesNext) fitsNext := by
  intro pending ahead behind result reached lags ran
  obtain ⟨a, middle, firstRan, nextRan⟩ := run_bind_eq_ok.1 ran
  obtain ⟨fitsA, grows, replaysFirst, middleBehind, earlyRan, lagsMiddle⟩ := firstHoists lags firstRan
  obtain ⟨fits, growsMore, replaysNext, after, laterRan, lagsAfter⟩ := nextHoists a fitsA lagsMiddle nextRan
  rw [List.append_assoc] at lagsAfter
  refine ⟨fits, grows.trans growsMore, ?_, after, elaborateAll_append_eq_ok.2 ⟨_, earlyRan, laterRan⟩, lagsAfter⟩
  intro pending ahead behind further lags
  obtain ⟨one, flatFirstRan, lagsOne, included, arrived⟩ := replaysFirst (growsMore.trans further) lags
  obtain ⟨two, flatNextRan, lagsTwo, includedMore, arrivedMore⟩ := replaysNext further lagsOne
  refine ⟨two, run_bind_eq_ok.2 ⟨a, one, flatFirstRan, flatNextRan⟩, lagsTwo, included.trans includedMore, ?_⟩
  exact List.append_subset.mpr ⟨fun _ used => includedMore.names_subset (arrived used), arrivedMore⟩

theorem pure {fits : α → Prop} {a : α} (fit : fits a) : Hoists (pure a) [] (pure a) [] fits := by
  intro pending ahead behind result reached lags ran
  obtain ⟨rfl, rfl⟩ := run_pure_eq_ok.1 ran
  refine ⟨fit, .refl _, ?_, behind, rfl, by rwa [List.append_nil]⟩
  intro _ _ other _ lags
  exact ⟨other, rfl, lags, .refl other, List.nil_subset _⟩

theorem throw {e : ModelError} {early : List Declaration} {flat : Elaborator α} {fits : α → Prop} :
    Hoists (MonadExcept.throw e) early flat uses fits := by
  intro _ _ _ _ _ _ ran
  cases ran

/-- What follows a step can be added to it if it does nothing but change the
result. -/
theorem map {step flat : Elaborator α} {early : List Declaration} {fits : α → Prop} {fitsTo : β → Prop} (f : α → β)
    (hoists : Hoists step early flat uses fits) (fit : ∀ a, fits a → fitsTo (f a)) :
    Hoists (step >>= fun a => Pure.pure (f a)) early (flat >>= fun a => Pure.pure (f a)) uses fitsTo := by
  have hoistsBoth := hoists.bind fun a fitsA => Hoists.pure (fit a fitsA)
  rwa [List.append_nil, List.append_nil] at hoistsBoth

theorem imp {step flat : Elaborator α} {early : List Declaration} {fits fitsTo : α → Prop}
    (hoists : Hoists step early flat uses fits) (fit : ∀ a, fits a → fitsTo a) :
    Hoists step early flat uses fitsTo := by
  intro pending ahead behind result reached lags ran
  obtain ⟨fitsResult, others⟩ := hoists lags ran
  exact ⟨fit result fitsResult, others⟩

/-- Looking up a name whose node is not a constant. -/
theorem lookup {test : Table → Except ModelError α} (named : Named name)
    (reads : ∀ ⦃one other : Table⦄, one.find? name = other.find? name → test one = test other)
    (declares : ∀ ⦃table a⦄, test table = .ok a → name ∈ table.names) :
    Hoists (check test) [] (check test) [name] fun _ => True := by
  intro pending ahead behind result reached lags ran
  obtain ⟨found, rfl⟩ := check_eq_ok.1 ran
  refine ⟨trivial, .refl _, ?_, behind, rfl, lags.mono (List.subset_append_left _ _)⟩
  intro pending further other included lagsOther
  have declared : name ∈ other.names := lagsOther.mem_of_named named (included.names_subset (declares found))
  have foundToo : test other = .ok result := by
    rw [← found]
    apply reads
    rw [← lagsOther.included.find?_eq declared, included.find?_eq (declares found)]
  exact ⟨other, check_eq_ok.2 ⟨foundToo, rfl⟩, lagsOther, .refl other,
    List.cons_subset.mpr ⟨declared, List.nil_subset _⟩⟩

theorem parameter (named : Named name) :
    Hoists (check fun table => table.parameter name) [] (check fun table => table.parameter name) [name]
      fun _ => True := by
  apply lookup named
  · intro one other same
    simp only [Table.parameter, same]
  · intro table p found
    exact (Table.hasParameter_iff.2 ⟨p, found⟩).mem_names

theorem density (named : Named name) :
    Hoists (check fun table => table.density name) [] (check fun table => table.density name) [name]
      fun _ => True := by
  apply lookup named
  · intro one other same
    simp only [Table.density, same]
  · intro table d found
    exact (Table.hasDensity_iff.2 ⟨d, found⟩).mem_names

end Hoists

theorem constant_eq_ok {value : Float} :
    constant value text table = .ok (name, reached) ↔
      name = text ∧ (table.HasParameter text ∧ reached = table ∨
        text ∉ table.names ∧ ∃ p, Parameter.constant text value = .ok p ∧ table.declareParameter p = .ok reached) := by
  simp only [constant, run_bind_eq_ok, run_get_eq_ok]
  constructor
  · rintro ⟨_, _, ⟨rfl, rfl⟩, ran⟩
    split at ran
    · simp only [run_bind_eq_ok, check_eq_ok, run_pure_eq_ok] at ran
      obtain ⟨p, _, ⟨found, rfl⟩, rfl, rfl⟩ := ran
      exact ⟨rfl, .inl ⟨Table.hasParameter_iff.2 ⟨p, found⟩, rfl⟩⟩
    · rename_i new
      simp only [run_bind_eq_ok, check_eq_ok, change_eq_ok, run_pure_eq_ok] at ran
      obtain ⟨p, _, ⟨made, rfl⟩, _, _, declared, rfl, rfl⟩ := ran
      exact ⟨rfl, .inr ⟨fun old => new (Table.contains_iff.2 old), p, made, declared⟩⟩
  · rintro ⟨rfl, ⟨declared, rfl⟩ | ⟨new, p, made, declared⟩⟩
    · obtain ⟨p, found⟩ := Table.hasParameter_iff.1 declared
      refine ⟨reached, reached, ⟨rfl, rfl⟩, ?_⟩
      rw [if_pos (Table.contains_iff.2 declared.mem_names)]
      exact run_bind_eq_ok.2 ⟨p, reached, check_eq_ok.2 ⟨found, rfl⟩, rfl⟩
    · refine ⟨table, table, ⟨rfl, rfl⟩, ?_⟩
      rw [if_neg fun old => new (Table.contains_iff.1 old)]
      refine run_bind_eq_ok.2 ⟨p, table, check_eq_ok.2 ⟨made, rfl⟩, ?_⟩
      exact run_bind_eq_ok.2 ⟨(), reached, change_eq_ok.2 declared, rfl⟩

/-- A constant that is still pending can be declared. -/
theorem Lags.constant (lags : Lags pending ahead behind) {value : Float} (numeral : IsNumeral value text)
    (new : text ∉ behind.names) (declared : text ∈ ahead.names) :
    ∃ after, Elaborator.constant value text behind = .ok (text, after) ∧ Lags pending ahead after ∧
      behind.Included after ∧ text ∈ after.names := by
  obtain ⟨_, value', numeral', found⟩ := lags.missing text declared new
  obtain rfl : value' = value := Option.some.inj (numeral'.2.symm.trans numeral.2)
  have member := Table.mem_of_find? found
  have valid : isValidName text = true := lags.aheadWellFormed.named _ member.1
  obtain ⟨validBounds, admitted⟩ := lags.aheadWellFormed.sound _ member.1 value' ⟨value', value'⟩ rfl
  have made : Parameter.constant text value' = .ok ⟨text, .free value' ⟨value', value'⟩⟩ :=
    Parameter.free_eq_ok.2 ⟨validBounds, admitted, rfl⟩
  have declaredBehind : behind.declareParameter ⟨text, .free value' ⟨value', value'⟩⟩ =
      .ok (behind.push (.parameter ⟨text, .free value' ⟨value', value'⟩⟩)) := by
    refine Table.declareParameter_eq_ok.2 ⟨valid, new, ?_, rfl⟩
    exact List.forall_mem_nil _
  have afterWellFormed := lags.behindWellFormed.declareParameter (Parameter.free_sound made) declaredBehind
  refine ⟨_, constant_eq_ok.2 ⟨rfl, .inr ⟨new, _, made, declaredBehind⟩⟩, ?_, (Table.Included.refl behind).push_right,
    ?_⟩
  · refine ⟨lags.aheadWellFormed, afterWellFormed, lags.included.push_left found, ?_⟩
    intro other declaredOther absent
    rw [Table.names_push, List.mem_append, not_or] at absent
    exact lags.missing other declaredOther absent.1
  · rw [Table.names_push]
    exact List.mem_append_right _ (List.mem_singleton_self _)

/-- A constant is declared at once, or when the flat step is taken. -/
theorem Hoists.constant {value : Float} (numeral : IsNumeral value text) :
    Hoists (Elaborator.constant value text) [] (Elaborator.constant value text) [text] (· = text) := by
  intro pending ahead behind result reached lags ran
  obtain ⟨rfl, added⟩ := constant_eq_ok.1 ran
  have hasConstant : reached.HasParameter result := by
    rcases added with ⟨declared, rfl⟩ | ⟨new, p, made, declared⟩
    · exact declared
    · obtain ⟨_, _, _, rfl⟩ := Table.declareParameter_eq_ok.1 declared
      obtain ⟨_, _, rfl⟩ := Parameter.free_eq_ok.1 made
      exact ⟨_, Table.Included.find?_push_self new⟩
  have grows : ahead.Included reached := (growing_constant value result ran).included
  refine ⟨rfl, grows, ?_, behind, rfl, ?_⟩
  · intro pending further other included lagsOther
    by_cases declared : result ∈ other.names
    · have hasOther : other.HasParameter result :=
        lagsOther.included.hasParameter_of_mem declared (included.hasParameter hasConstant)
      exact ⟨other, constant_eq_ok.2 ⟨rfl, .inl ⟨hasOther, rfl⟩⟩, lagsOther, .refl other,
        List.cons_subset.mpr ⟨declared, List.nil_subset _⟩⟩
    · obtain ⟨after, added, lagsAfter, includedAfter, arrived⟩ :=
        lagsOther.constant numeral declared (included.names_subset hasConstant.mem_names)
      exact ⟨after, added, lagsAfter, includedAfter, List.cons_subset.mpr ⟨arrived, List.nil_subset _⟩⟩
  · rcases added with ⟨_, rfl⟩ | ⟨new, p, made, declared⟩
    · exact lags.mono (List.subset_append_left _ _)
    · have wellFormed := lags.aheadWellFormed.declareParameter (Parameter.free_sound made) declared
      obtain ⟨_, _, _, rfl⟩ := Table.declareParameter_eq_ok.1 declared
      obtain ⟨_, _, rfl⟩ := Parameter.free_eq_ok.1 made
      refine ⟨wellFormed, lags.behindWellFormed, lags.included.push_right, ?_⟩
      intro text declaredText absent
      rw [Table.names_push, List.mem_append, List.mem_singleton] at declaredText
      rcases declaredText with old | rfl
      · obtain ⟨isPending, isConstant⟩ := lags.missing text old absent
        exact ⟨List.mem_append_left _ isPending, isConstant.push⟩
      · exact ⟨List.mem_append_right _ (List.mem_singleton_self _), value, numeral,
          Table.Included.find?_push_self new⟩

end DensityGraph.Declaration
