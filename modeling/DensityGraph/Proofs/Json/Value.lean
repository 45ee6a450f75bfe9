import DensityGraph.Json.Value

/-!
# JSON values by their parts

What holds of the items of an array and of the fields of an object holds of the
whole value.
-/

namespace DensityGraph.Json

/-- The parts of arrays and objects come before them. -/
@[elab_as_elim]
theorem induct {motive : Json → Prop} (null : motive .null) (bool : ∀ value, motive (.bool value))
    (number : ∀ n, motive (.number n)) (string : ∀ text, motive (.string text))
    (array : ∀ items, (∀ item ∈ items, motive item) → motive (.array items))
    (object : ∀ fields, (∀ field ∈ fields, motive field.2) → motive (.object fields))
    (broken : motive .broken) : ∀ value, motive value
  | .null => null
  | .bool value => bool value
  | .number n => number n
  | .string text => string text
  | .array items => array items fun item _ => induct null bool number string array object broken item
  | .object fields =>
      object fields fun field _ => induct null bool number string array object broken field.2
  | .broken => broken
termination_by value => sizeOf value
decreasing_by
  · have smaller := List.sizeOf_lt_of_mem ‹item ∈ items›
    simp only [Json.array.sizeOf_spec]
    omega
  · have smaller := List.sizeOf_lt_of_mem ‹field ∈ fields›
    cases field
    simp only [Json.object.sizeOf_spec, Prod.mk.sizeOf_spec] at smaller ⊢
    omega

variable {v : Json} {values : List Json} {entries : List (String × Json)} {bound : Nat}
  {number? other? both? : Number → Bool}

theorem soundItems_eq_true : soundItems number? values = true ↔ ∀ item ∈ values, item.sound number? = true := by
  induction values with
  | nil => simp [soundItems]
  | cons first others ih => rw [soundItems, Bool.and_eq_true, ih, List.forall_mem_cons]

theorem soundFields_eq_true :
    soundFields number? entries = true ↔ ∀ field ∈ entries, field.2.sound number? = true := by
  induction entries with
  | nil => simp [soundFields]
  | cons first others ih => rw [soundFields, Bool.and_eq_true, ih, List.forall_mem_cons]

/-- Two tests of all numbers can be made at once. -/
theorem sound_and (combined : ∀ n, number? n = true → other? n = true → both? n = true)
    (first : v.sound number? = true) (second : v.sound other? = true) : v.sound both? = true := by
  induction v using Json.induct with
  | null => rfl
  | bool b => rfl
  | number n => exact combined n first second
  | string s => rfl
  | array values ih =>
      rw [sound, soundItems_eq_true] at first second ⊢
      exact fun item member => ih item member (first item member) (second item member)
  | object entries ih =>
      rw [sound, soundFields_eq_true] at first second ⊢
      exact fun field member => ih field member (first field member) (second field member)
  | broken => cases first

theorem nestingOfItems_le : nestingOfItems values ≤ bound ↔ ∀ item ∈ values, item.nesting ≤ bound := by
  induction values with
  | nil => simp [nestingOfItems]
  | cons first others ih => rw [nestingOfItems, Nat.max_le, ih, List.forall_mem_cons]

theorem sound_ofStrings (texts : List String) : (ofStrings texts).sound number? = true := by
  rw [ofStrings, sound, soundItems_eq_true, List.forall_mem_map]
  exact fun _ _ => rfl

theorem nesting_ofStrings (texts : List String) : (ofStrings texts).nesting = 1 := by
  have flat : nestingOfItems (texts.map string) ≤ 0 := by
    rw [nestingOfItems_le, List.forall_mem_map]
    exact fun _ _ => Nat.le_refl _
  rw [ofStrings, nesting]
  omega

end DensityGraph.Json
