import DensityGraph.Document.Model
import DensityGraph.Proofs.Declaration.Elaboration
import DensityGraph.Proofs.Json.Decode
import DensityGraph.Proofs.Table.Loading

/-!
# Models from documents

The formulas of a stored model are compiled when it is read, and its nodes are
checked as a whole.
-/

namespace DensityGraph

open Json.Decode (record_invariant list_eq_ok required_eq_ok)

variable {value : Json}

theorem Formula.compile_of_ofJson {formula : Formula} (read : ofJson value = .ok formula) :
    compile formula.source formula.dependencies = .ok formula := by
  simp only [ofJson, bind_eq_ok, mapError_eq_ok] at read
  obtain ⟨_, _, source, _, dependencies, _, compiled⟩ := read
  exact compile_self compiled

/-- What a named thing holds has been read by the decoder of its kind. -/
theorem exists_kind_of_namedOfJson {α β : Type} {kind : Json.Decoder α} {make : String → α → β} {named : β}
    (read : namedOfJson kind make value = .ok named) :
    ∃ name held, named = make name held ∧ ∃ part, kind part = .ok held := by
  simp only [namedOfJson, bind_eq_ok, required_eq_ok, pure_eq_ok] at read
  obtain ⟨⟨name?, held?⟩, recordRead, name, _, held, rfl, rfl⟩ := read
  refine ⟨name, held, rfl, ?_⟩
  let holds (state : Option String × Option α) : Prop :=
    ∀ held, state.2 = some held → ∃ part, kind part = .ok held
  have invariant : holds (name?, some held) := by
    apply record_invariant holds recordRead
    · intro _ same
      cases same
    · rintro ⟨name, old⟩ key part next before stepped held' same
      dsimp only at stepped
      split at stepped
      · obtain ⟨_, _, nextEq⟩ := bind_eq_ok.1 stepped
        obtain rfl := pure_eq_ok.1 nextEq
        exact before held' same
      · obtain ⟨partHeld, partRead, nextEq⟩ := bind_eq_ok.1 stepped
        obtain rfl := pure_eq_ok.1 nextEq
        obtain rfl := Option.some.inj same
        exact ⟨part, partRead⟩
  exact invariant held rfl

theorem Parameter.Kind.compile_of_ofJson {formula : Formula} (read : ofJson value = .ok (derived formula)) :
    Formula.compile formula.source formula.dependencies = .ok formula := by
  obtain ⟨⟨word, rest⟩, _, kindRead⟩ := bind_eq_ok.1 read
  dsimp only at kindRead
  split at kindRead
  · simp only [freeOfJson, bind_eq_ok, pure_eq_ok] at kindRead
    obtain ⟨_, _, _, _, _, _, same⟩ := kindRead
    cases same
  · simp only [derivedOfJson, bind_eq_ok, required_eq_ok, pure_eq_ok] at kindRead
    obtain ⟨formula?, recordRead, _, rfl, same⟩ := kindRead
    obtain rfl := derived.inj same
    let holds (state : Option Formula) : Prop :=
      ∀ f, state = some f → Formula.compile f.source f.dependencies = .ok f
    have invariant : holds (some formula) := by
      apply record_invariant holds recordRead
      · intro _ same
        cases same
      · intro _ key part next _ stepped f same
        obtain ⟨held, partRead, nextEq⟩ := bind_eq_ok.1 stepped
        obtain rfl := pure_eq_ok.1 nextEq
        obtain rfl := Option.some.inj same
        exact Formula.compile_of_ofJson partRead
    exact invariant formula rfl

theorem Node.compiled_of_ofJson {depth : Nat} {p : Parameter} (read : ofJson depth value = .ok (.parameter p)) :
    p.Compiled := by
  simp only [ofJson, bind_eq_ok, throw_bind, guard_eq_ok] at read
  obtain ⟨_, ⟨word, rest⟩, _, nodeRead⟩ := read
  dsimp only at nodeRead
  split at nodeRead
  · obtain ⟨other, parameterRead, same⟩ := bind_eq_ok.1 nodeRead
    obtain rfl := parameter.inj (pure_eq_ok.1 same)
    obtain ⟨name, held, rfl, part, kindRead⟩ := exists_kind_of_namedOfJson parameterRead
    rintro formula rfl
    exact Parameter.Kind.compile_of_ofJson kindRead
  · obtain ⟨d, _, same⟩ := bind_eq_ok.1 nodeRead
    cases pure_eq_ok.1 same

/-- A table that has been read is well-formed, and its formulas are compiled from
their own texts. -/
theorem Table.wellFormed_of_ofJson {depth : Nat} {table : Table} (read : ofJson depth value = .ok table) :
    table.WellFormed ∧ ∀ p, .parameter p ∈ table.nodes → p.Compiled := by
  simp only [ofJson, bind_eq_ok, mapError_eq_ok, ofNodes_eq_ok, list_eq_ok] at read
  obtain ⟨nodes, ⟨values, rfl, each⟩, rfl, wellFormed⟩ := read
  refine ⟨wellFormed, ?_⟩
  intro p member
  obtain ⟨part, _, nodeRead⟩ := exists_left_of_forall₂ each member
  exact Node.compiled_of_ofJson nodeRead

end DensityGraph
