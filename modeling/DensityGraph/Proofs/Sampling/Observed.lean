import DensityGraph.Proofs.Sampling.Observations
import DensityGraph.Proofs.Sampling.Parts

/-!
# The values of an observation

Every value of an observation lies within the bounds of its variable, and a normal
density that the draw comes to keeps the first of its candidates that lies within
them.  A normal density without such a candidate ends the observation.
-/

namespace DensityGraph.Sampling

open DensityGraph.Random (Stream)

variable {table : Table} {attempts : Nat} {name : String} {vars : List String}

/-- The value of a variable in an observation that begins at a place of the
stream. -/
structure Observed (table : Table) (attempts : Nat) (name : String) (start : Stream) (x : String)
    (value : Float) : Prop where
  finite : value.isFinite = true
  within : ∃ limits, Draw.bounds table x = .ok limits ∧ limits.lower ≤ value ∧ value ≤ limits.upper
  made : ∃ owner moment, Draw.Comes table attempts owner moment name ⟨[], start⟩ ∧
    Draw.Made table attempts owner moment x value
  /-- a normal density of the variable keeps the first candidate within the bounds -/
  normal : ∀ owner own mean sigma moment, Draw.Comes table attempts owner moment name ⟨[], start⟩ →
    table.density owner = .ok ⟨own, .gaussian x mean sigma⟩ →
      ∃ limits rest, Draw.bounds table x = .ok limits ∧
        Draw.NormalValue table attempts mean sigma limits moment rest value

/-- The observation that begins at a place of the stream comes to a normal density
whose candidates all lie outside the bounds. -/
def GivesUp (table : Table) (attempts : Nat) (name : String) (start : Stream) (e : ModelError) : Prop :=
  ∃ owner own x mean sigma moment limits m width rest,
    Draw.Comes table attempts owner moment name ⟨[], start⟩ ∧
      table.density owner = .ok ⟨own, .gaussian x mean sigma⟩ ∧
      Scope.value ⟨table, moment.drawn⟩ mean = .ok m ∧ Scope.value ⟨table, moment.drawn⟩ sigma = .ok width ∧
      ¬ width ≤ 0 ∧ Draw.bounds table x = .ok limits ∧ limits.isDegenerate = false ∧
      Draw.NoneWithin limits m width attempts moment.stream rest ∧
      e = .sampling (.truncated owner x limits.lower limits.upper attempts m width)

theorem GivesUp.error (structured : table.Structured) {start : Stream} {e : ModelError}
    (givesUp : GivesUp table attempts name start e) :
    Draw.density table attempts name ⟨[], start⟩ = .error (.error e) := by
  obtain ⟨owner, own, x, mean, sigma, moment, limits, m, width, rest, comes, found, meanValued, sigmaValued,
    positive, bounded, room, none, rfl⟩ := givesUp
  apply comes.error structured
  rw [Draw.density_eq structured found]
  exact Draw.gaussian_eq_error meanValued sigmaValued positive bounded room none

theorem exists_observed (coherent : table.Coherent) (generates : table.Generates name vars) {start : Stream}
    {state : State} (ran : Draw.density table attempts name ⟨[], start⟩ = .ok ((), state)) {x : String}
    (wanted : x ∈ vars) :
    ∃ value, state.drawn.lookup x = some value ∧ Observed table attempts name start x value := by
  have wellFormed := coherent.toWellFormed
  have declared : table.HasDensity name := by
    obtain ⟨d, found, _⟩ := Table.variablesWithin_eq_ok.1 generates
    exact Table.hasDensity_iff.2 ⟨d, found⟩
  have names := names_of_draw coherent generates ran
  obtain ⟨value, found, member⟩ := Draw.exists_lookup (names.mem_iff.mpr wanted)
  obtain ⟨new, newEq, each⟩ := Draw.exists_new_of_density wellFormed declared ran
  rw [List.append_nil] at newEq
  obtain ⟨owner, moment, comes, made⟩ := each (x, value) (newEq ▸ member)
  obtain ⟨limits, bounded, within⟩ := made.within wellFormed
  refine ⟨value, found, ?_⟩
  refine ⟨Bounds.isFinite_of_contains (Draw.valid_of_bounds wellFormed bounded) within,
    ⟨limits, bounded, Bounds.contains_iff.1 within⟩, ⟨owner, moment, comes, made⟩, ?_⟩
  intro other own mean sigma moment comesToo foundToo
  obtain ⟨middle, middleRan, keeps⟩ := comesToo.exists_ok wellFormed ran
  rw [Draw.density_eq wellFormed.toStructured foundToo] at middleRan
  obtain ⟨limitsToo, drawn, boundedToo, value', middleEq⟩ := Draw.gaussian_eq_ok.1 middleRan
  -- every variable is drawn once, so that both entries are the same
  have memberToo : (x, drawn) ∈ state.drawn := keeps (middleEq ▸ List.mem_cons_self)
  have once : (state.drawn.map Prod.fst).Nodup :=
    names.nodup_iff.mpr (Table.nodup_of_generatedVariables generates)
  obtain rfl : drawn = value := by
    have := List.inj_on_of_nodup_map once memberToo member rfl
    exact (Prod.mk.inj this).2
  exact ⟨limitsToo, middle.stream, boundedToo, value'⟩

end DensityGraph.Sampling
