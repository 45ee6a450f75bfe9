import DensityGraph.Json.Decode
import DensityGraph.Proofs.Result

/-!
# Decoders

A list is read item by item and a map field by field.  What every step of a
record keeps holds of the record that has been read.
-/

namespace DensityGraph.Json.Decode

variable {α β σ : Type} {item : Decoder α} {value : Json}

theorem items_eq_mapM (values : List Json) : items item values = values.mapM item := by
  induction values with
  | nil => rfl
  | cons first rest ih =>
      rw [items, List.mapM_cons, ih]
      cases item first with
      | error e => rfl
      | ok a => cases rest.mapM item <;> rfl

theorem items_eq_ok {values : List Json} {results : List α} :
    items item values = .ok results ↔ List.Forall₂ (fun value a => item value = .ok a) values results := by
  rw [items_eq_mapM, mapM_eq_ok]

theorem list_eq_ok {results : List α} :
    list item value = .ok results ↔
      ∃ values, value = .array values ∧ List.Forall₂ (fun value a => item value = .ok a) values results := by
  cases value with
  | array values => simp [list, items_eq_ok]
  | _ => simp [list]

theorem entries_eq_mapM (given : List (String × Json)) :
    entries item given = given.mapM fun field => (item field.2).map fun a => (field.1, a) := by
  induction given with
  | nil => rfl
  | cons first rest ih =>
      rw [entries, List.mapM_cons, ih]
      cases item first.2 with
      | error e => rfl
      | ok a => cases rest.mapM fun field => (item field.2).map fun a => (field.1, a) <;> rfl

theorem entries_eq_ok {given : List (String × Json)} {results : List (String × α)} :
    entries item given = .ok results ↔
      List.Forall₂ (fun field entry => item field.2 = .ok entry.2 ∧ field.1 = entry.1) given results := by
  have each : ∀ (field : String × Json) (entry : String × α),
      (item field.2).map (fun a => (field.1, a)) = .ok entry ↔ item field.2 = .ok entry.2 ∧ field.1 = entry.1 := by
    rintro ⟨key, value⟩ ⟨key', a⟩
    simp [DensityGraph.map_eq_ok, and_comm]
  simp only [entries_eq_mapM, mapM_eq_ok, each]

theorem map_eq_ok {results : List (String × α)} :
    map item value = .ok results ↔
      ∃ given, value = .object given ∧
        List.Forall₂ (fun field entry => item field.2 = .ok entry.2 ∧ field.1 = entry.1) given results := by
  cases value with
  | object given => simp [map, entries_eq_ok]
  | _ => simp [map]

theorem float_ofFloat {x : Float} (finite : x.isFinite = true) : float (.ofFloat x) = .ok x := by
  simp [float, ofFloat, Number.inRange, Number.toFloat, finite]

theorem list_map {write : α → Json} {held : List α} (each : ∀ a ∈ held, item (write a) = .ok a) :
    list item (.array (held.map write)) = .ok held := by
  rw [list, items_eq_ok, List.forall₂_map_left_iff, List.forall₂_same]
  exact each

theorem list_ofStrings (texts : List String) : list string (.ofStrings texts) = .ok texts :=
  list_map fun _ _ => rfl

theorem map_map (write : α → Json) {held : List (String × α)}
    (each : ∀ entry ∈ held, item (write entry.2) = .ok entry.2) :
    map item (.object (held.map fun entry => (entry.1, write entry.2))) = .ok held := by
  rw [map, entries_eq_ok, List.forall₂_map_left_iff, List.forall₂_same]
  exact fun entry member => ⟨each entry member, rfl⟩

theorem required_eq_ok {given : Option α} {a : α} : required given = .ok a ↔ given = some a := by
  cases given <;> simp [required]

variable {known seen : List String} {step : σ → String → Json → Except Refusal σ} {start after : σ}

theorem fields_invariant {holds : σ → Prop}
    (keeps : ∀ state key value next, holds state → step state key value = .ok next → holds next)
    {given : List (String × Json)} (read : fields known step seen start given = .ok after)
    (holdsStart : holds start) : holds after := by
  induction given generalizing seen start with
  | nil =>
      obtain rfl := Except.ok.inj read
      exact holdsStart
  | cons first rest ih =>
      obtain ⟨key, value⟩ := first
      rw [fields] at read
      split at read
      · split at read
        · cases read
        · cases stepped : step start key value with
          | error e =>
              rw [stepped] at read
              cases read
          | ok next =>
              rw [stepped] at read
              exact ih read (keeps _ _ _ _ holdsStart stepped)
      · split at read
        · exact ih read holdsStart
        · cases read

/-- What the steps of a record keep holds of what is read. -/
theorem record_invariant (holds : σ → Prop) (read : record known step start value = .ok after)
    (holdsStart : holds start)
    (keeps : ∀ state key value next, holds state → step state key value = .ok next → holds next) :
    holds after := by
  unfold record at read
  split at read
  · exact fields_invariant keeps read holdsStart
  · split at read
    · cases read
    · rename_i state fieldsRead
      split at read
      · obtain rfl := Except.ok.inj read
        exact fields_invariant keeps fieldsRead holdsStart
      · cases read
  · cases read

end DensityGraph.Json.Decode
