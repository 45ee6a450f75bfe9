import DensityGraph.Proofs.Workspace.Reachable

/-!
# Draws in reachable workspaces

The parameters that a density generates are computed from its structure, and a
draw follows the random choices.  In a reachable workspace both agree, and only
faults of the current values can stop a draw.
-/

namespace DensityGraph.Workspace

open DensityGraph.Sampling
open DensityGraph.Random (Stream)

variable {w : Workspace} {name : String} {vars : List String}

/-- A draw of a density gives one value to each of some parameters. -/
structure DrawsOnce (w : Workspace) (attempts : Nat) (name : String) (vars : List String) : Prop where
  /-- a draw that starts from nothing and succeeds has drawn all of them and nothing else -/
  drawn : ∀ stream state, Draw.density w.table attempts name ⟨[], stream⟩ = .ok ((), state) →
    ∀ parameter, parameter ∈ state.drawn.map Prod.fst ↔ parameter ∈ vars
  /-- no draw takes the place of another -/
  once : ∀ stream state, Draw.density w.table attempts name ⟨[], stream⟩ = .ok ((), state) →
    (state.drawn.map Prod.fst).Nodup
  free : ∀ stream state, Draw.density w.table attempts name ⟨[], stream⟩ = .ok ((), state) →
    ∀ entry ∈ state.drawn, w.table.IsFree entry.1
  /-- the shared parameter of a joint keeps the value of the marginal -/
  shared : ∀ own shared marginal before after,
    w.table.density name = .ok ⟨own, .conditionalJoint shared marginal (before ++ after)⟩ →
      ∀ start middle later, Draw.density w.table attempts marginal start = .ok ((), middle) →
        before.forM (Draw.density w.table attempts) middle = .ok ((), later) →
          ∃ value, middle.drawn.lookup shared = some value ∧ later.drawn.lookup shared = some value
  faults : ∀ start e, Draw.density w.table attempts name start = .error (.error e) → e.IsDrawFault
  /-- once a request has been checked, nothing but a draw can stop the generation -/
  requests : ∀ observables count stream e,
    checkRequest w.table name observables count w.sampling = .ok () →
      w.generate name observables count stream = .error (.error e) → e.IsDrawFault

theorem Valid.drawn_perm (valid : w.Valid) (generates : w.table.Generates name vars) {attempts : Nat}
    {stream : Stream} {state : State}
    (ran : Draw.density w.table attempts name ⟨[], stream⟩ = .ok ((), state)) :
    (state.drawn.map Prod.fst).Perm vars ∧ ∀ entry ∈ state.drawn, w.table.Admits entry.1 entry.2 := by
  have draws : Draw.Draws w.table (Draw.density w.table attempts name) vars :=
    Draw.draws_density valid.coherent generates
  have ends := draws ⟨[], stream⟩
  rw [Draw.Ends, ran] at ends
  obtain ⟨new, drawnEq, names, admits⟩ := ends
  rw [List.append_nil] at drawnEq
  rw [drawnEq]
  exact ⟨names, admits⟩

/-- In a reachable workspace every density draws each of the parameters that it
generates once, and nothing else. -/
theorem Reachable.drawsOnce (reachable : w.Reachable) (declared : w.table.HasDensity name) (attempts : Nat) :
    ∃ vars, w.table.generatedVariables name = .ok vars ∧ w.DrawsOnce attempts name vars := by
  have valid := reachable.valid
  have coherent := valid.coherent
  obtain ⟨vars, generates⟩ := coherent.toStructured.exists_generatedVariables declared
  refine ⟨vars, generates, ?_⟩
  constructor
  case drawn =>
    intro stream state ran parameter
    exact (valid.drawn_perm generates ran).1.mem_iff
  case once =>
    intro stream state ran
    exact (valid.drawn_perm generates ran).1.nodup_iff.mpr (Table.nodup_of_generatedVariables generates)
  case free =>
    intro stream state ran entry member
    exact ((valid.drawn_perm generates ran).2 entry member).1
  case shared =>
    intro own shared marginal before after found start middle later marginalDrawn conditionalsDrawn
    exact Draw.lookup_shared coherent found marginalDrawn conditionalsDrawn
  case faults =>
    intro start e failed
    have draws : Draw.Draws w.table (Draw.density w.table attempts name) vars :=
      Draw.draws_density coherent generates
    have ends := draws start
    rw [Draw.Ends, failed] at ends
    exact ends
  case requests =>
    intro observables count stream e checked failed
    have settles : Settles (w.generate name observables count stream) fun result =>
        result.1.columns = observables ∧ result.1.Rectangular := settles_generate coherent checked
    rw [failed] at settles
    exact settles

/-- A joint whose marginal draws the mean of its conditional, and a stream from
which it can be drawn. -/
theorem drawsOnce_joint :
    ∃ w : Workspace, w.Reachable ∧ w.table.HasDensity "p" ∧
      (∃ vars, w.table.generatedVariables "p" = .ok vars ∧ w.DrawsOnce 1 "p" vars) ∧
        ∃ stream state, Draw.density w.table 1 "p" ⟨[], stream⟩ = .ok ((), state) := by
  let stream := Stream.ofWords [0x4000000000000000, 0x8000000000000000]
  let test (w : Workspace) : Bool :=
    (w.table.density "p").toBool && (Draw.density w.table 1 "p" ⟨[], stream⟩).toBool
  obtain ⟨w, reachable, tested⟩ := @Reachable.exists_declare _ (.new "w" ⟨0, 0, 0⟩)
    "PROD::p(Gaussian::g(y[-9,9],x[0,1],s[1,0.5,2])|x,Uniform::u(x))" test (by decide +kernel)
  obtain ⟨declared, drawn⟩ := Bool.and_eq_true_iff.mp tested
  have found : w.table.HasDensity "p" := Table.hasDensity_of_toBool declared
  obtain ⟨⟨_, state⟩, ran⟩ := exists_ok_of_toBool drawn
  exact ⟨w, reachable, found, reachable.drawsOnce found 1, stream, state, ran⟩

end DensityGraph.Workspace
