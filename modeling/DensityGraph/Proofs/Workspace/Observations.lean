import DensityGraph.Proofs.Sampling.Observations
import DensityGraph.Proofs.Workspace.Reachable

/-!
# Independent observations

In a reachable workspace no observation leaves a trace in a later one, except by
what it takes from the stream; and the choice of the observables has no influence
on what is drawn.
-/

namespace DensityGraph.Workspace

open DensityGraph.Sampling
open DensityGraph.Random (Stream)

variable {w : Workspace}

/-- Two generations end in the same way: both stop for the same reason, or both
leave the same stream, with as many rows and the same values of the variables
that both data sets have. -/
inductive SameValues : Except Stop (Dataset × Stream) → Except Stop (Dataset × Stream) → Prop where
  | stopped (stop : Stop) : SameValues (.error stop) (.error stop)
  | drawn {first second : Dataset} (rest : Stream) (sameSize : first.size = second.size)
      (agree : ∀ number < first.size, ∀ name ∈ first.columns, name ∈ second.columns →
        ∃ value, first.get? number name = some value ∧ second.get? number name = some value) :
      SameValues (.ok (first, rest)) (.ok (second, rest))

theorem Valid.sameValues (valid : w.Valid) {density : String} {observables others : List String}
    (requested : Requested w.table density observables) (requestedToo : Requested w.table density others)
    (count : Nat) (stream : Stream) :
    SameValues (w.generate density observables count stream) (w.generate density others count stream) := by
  have coherent := valid.coherent
  have sameCheck : checkRequest w.table density others count w.sampling =
      checkRequest w.table density observables count w.sampling := by
    rw [checkRequest_of_requested requested, checkRequest_of_requested requestedToo]
  obtain ⟨vars, generates, _, wanted⟩ := requested
  obtain ⟨varsToo, generatesToo, _, wantedToo⟩ := requestedToo
  obtain rfl : vars = varsToo := Except.ok.inj (generates.symm.trans generatesToo)
  unfold Workspace.generate
  cases checked : checkRequest w.table density observables count w.sampling with
  | error e =>
      rw [generate_of_refused checked, generate_of_refused (sameCheck.trans checked)]
      exact .stopped _
  | ok =>
      rcases Nat.lt_or_ge maxRows count with tooMany | room
      · rw [generate_of_tooMany checked tooMany, generate_of_tooMany (sameCheck.trans checked) tooMany]
        exact .stopped _
      rw [generate_eq_draws coherent checked room, generate_eq_draws coherent (sameCheck.trans checked) room]
      cases ran : draws w.table w.sampling.maxAttempts density count stream with
      | error stop => exact .stopped stop
      | ok result =>
          obtain ⟨list, rest⟩ := result
          apply SameValues.drawn rest
          · simp [Dataset.size]
          intro number inside name member memberToo
          have insideList : number < list.length := by simpa [Dataset.size] using inside
          have found : list[number]? = some list[number] := List.getElem?_eq_getElem insideList
          have drawnNames : ∀ drawn ∈ list, (drawn.map Prod.fst).Perm vars :=
            forall_of_draws (fun _ _ => names_of_draw coherent generates) ran
          have covered : name ∈ list[number].map Prod.fst :=
            (drawnNames _ (List.getElem_mem insideList)).mem_iff.mpr (wanted name member)
          obtain ⟨value, valueFound, _⟩ := Draw.exists_lookup covered
          exact ⟨value, (get?_kept member found covered).trans valueFound,
            (get?_kept memberToo found covered).trans valueFound⟩

/-- In a reachable workspace the observations of one call, which must have room in one
list, are those of two calls in a row, and different observables of a density see the
same draws. -/
theorem Reachable.observations_independent (reachable : w.Reachable) (density : String) (stream : Stream) :
    (∀ observables first second, 0 < first → 0 < second → ∀ d rest,
      w.generate density observables (first + second) stream = .ok (d, rest) ↔ first + second ≤ maxRows ∧
        ∃ early middle late, w.generate density observables first stream = .ok (early, middle) ∧
          w.generate density observables second middle = .ok (late, rest) ∧
            d = { early with rows := early.rows ++ late.rows }) ∧
    ∀ observables others count, Requested w.table density observables → Requested w.table density others →
      SameValues (w.generate density observables count stream) (w.generate density others count stream) := by
  have valid := reachable.valid
  constructor
  · intro observables first second some more d rest
    constructor
    · intro generated
      obtain ⟨_, room, _⟩ := generate_eq_ok.1 generated
      rw [Workspace.generate, generate_add valid.coherent some.ne' more.ne' room, bind_eq_ok] at generated
      obtain ⟨⟨early, middle⟩, generatedFirst, both⟩ := generated
      obtain ⟨⟨late, last⟩, generatedToo, same⟩ := bind_eq_ok.1 both
      obtain ⟨rfl, rfl⟩ := Prod.mk.inj (Except.ok.inj same)
      exact ⟨room, early, middle, late, generatedFirst, generatedToo, rfl⟩
    · rintro ⟨room, early, middle, late, generated, generatedToo, rfl⟩
      rw [Workspace.generate, generate_add valid.coherent some.ne' more.ne' room]
      exact bind_eq_ok.2 ⟨(early, middle), generated, bind_eq_ok.2 ⟨(late, rest), generatedToo, rfl⟩⟩
  · intro observables others count requested requestedToo
    exact valid.sameValues requested requestedToo count stream

/-- Random words for two observations of an even and a normal parameter. -/
def fourWords : Stream :=
  Stream.ofWords [0x4000000000000000, 0x8000000000000000, 0x2000000000000000, 0x9000000000000000]

/-- Two observations of a joint in one call and in two, and one of its parameters
by itself. -/
theorem observations_independent_joint :
    ∃ w : Workspace, w.Reachable ∧ Requested w.table "p" ["y", "x"] ∧ Requested w.table "p" ["x"] ∧
      (∃ d rest, w.generate "p" ["y", "x"] (1 + 1) fourWords = .ok (d, rest) ∧
        ∃ early middle late, w.generate "p" ["y", "x"] 1 fourWords = .ok (early, middle) ∧
          w.generate "p" ["y", "x"] 1 middle = .ok (late, rest) ∧ d.rows = early.rows ++ late.rows) ∧
      SameValues (w.generate "p" ["y", "x"] 2 fourWords) (w.generate "p" ["x"] 2 fourWords) := by
  let test (w : Workspace) : Bool :=
    decide (w.table.generatedVariables "p" = .ok ["x", "y"]) &&
      (w.generate "p" ["y", "x"] (1 + 1) fourWords).toBool
  obtain ⟨w, reachable, tested⟩ := @Reachable.exists_declare _ (.new "w" ⟨0, 0, 0⟩)
    "PROD::p(Gaussian::g(y[-9,9],x[0,1],s[1,0.5,2])|x,Uniform::u(x))" test (by decide +kernel)
  obtain ⟨named, succeeds⟩ := Bool.and_eq_true_iff.mp tested
  have generates : w.table.generatedVariables "p" = .ok ["x", "y"] := of_decide_eq_true named
  have both : Requested w.table "p" ["y", "x"] := ⟨_, generates, by decide, by decide⟩
  have single : Requested w.table "p" ["x"] := ⟨_, generates, by decide, by decide⟩
  obtain ⟨⟨d, rest⟩, generated⟩ := exists_ok_of_toBool succeeds
  obtain ⟨splits, agrees⟩ := reachable.observations_independent "p" fourWords
  obtain ⟨_, early, middle, late, first, second, rfl⟩ :=
    (splits ["y", "x"] 1 1 (by decide) (by decide) d rest).1 generated
  exact ⟨w, reachable, both, single, ⟨_, rest, generated, early, middle, late, first, second, rfl⟩,
    agrees ["y", "x"] ["x"] 2 both single⟩

end DensityGraph.Workspace
