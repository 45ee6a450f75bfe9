import DensityGraph.Proofs.Json.Spelling

/-!
# Written JSON

Both ways of writing a value spell it, as long as the numbers in it are read
back from what is written for them.
-/

namespace DensityGraph.Json

open Reader (isSpace)

/-- A number is read back from what is written for it. -/
def Number.readsBack (n : Number) : Bool := Number.ofText? (numberText n).toList == some n

variable {v item : Json} {values others : List Json} {entries otherEntries : List (String × Json)}
  {front gap body more : List Char}

theorem blank_nil : Blank [] := fun _ member => nomatch member

theorem blank_indent (depth : Nat) : Blank (indent depth).toList := by
  intro c member
  simp only [indent, String.toList_append, String.toList_ofList, List.mem_append, List.mem_replicate] at member
  rcases member with newline | ⟨_, rfl⟩
  · obtain rfl := List.mem_singleton.mp newline
    decide
  · decide

theorem spellsItems_single (frontBlank : Blank front) (spelled : item.Spells body) (gapBlank : Blank gap) :
    SpellsItems [item] (front ++ (body ++ (gap ++ [']']))) :=
  ⟨front, body, gap, [']'], frontBlank, spelled, gapBlank, rfl, .inl ⟨rfl, rfl⟩⟩

theorem spellsItems_cons (frontBlank : Blank front) (spelled : item.Spells body) (nonempty : others ≠ [])
    (spelledOthers : SpellsItems others more) : SpellsItems (item :: others) (front ++ (body ++ ',' :: more)) :=
  ⟨front, body, [], ',' :: more, frontBlank, spelled, blank_nil, rfl, .inr ⟨nonempty, more, rfl, spelledOthers⟩⟩

theorem spellsItems_compact (each : ∀ item ∈ values, item.Spells item.compact.toList) :
    SpellsItems values ((compactItems values).toList ++ [']']) := by
  induction values with
  | nil => exact ⟨[], blank_nil, rfl⟩
  | cons first others ih =>
      rw [List.forall_mem_cons] at each
      cases others with
      | nil => exact spellsItems_single blank_nil each.1 blank_nil
      | cons second later =>
          have spelled := spellsItems_cons blank_nil each.1 (List.cons_ne_nil _ _) (ih each.2)
          simpa [compactItems] using spelled

theorem spellsItems_pretty {depth : Nat} (each : ∀ item ∈ values, item.Spells (item.prettyAt depth).toList)
    (gapBlank : Blank gap) : SpellsItems values ((prettyItems depth values).toList ++ (gap ++ [']'])) := by
  induction values with
  | nil => exact ⟨gap, gapBlank, rfl⟩
  | cons first others ih =>
      rw [List.forall_mem_cons] at each
      cases others with
      | nil =>
          have spelled := spellsItems_single (blank_indent depth) each.1 gapBlank
          simpa [prettyItems] using spelled
      | cons second later =>
          have spelled := spellsItems_cons (blank_indent depth) each.1 (List.cons_ne_nil _ _) (ih each.2)
          simpa [prettyItems] using spelled

theorem spellsFields_single (key : String) (frontBlank : Blank front) (gapBlank : Blank gap) (spelled : item.Spells body)
    {back : List Char} (backBlank : Blank back) :
    SpellsFields [(key, item)]
      (front ++ ((quote key).toList ++ ':' :: (gap ++ (body ++ (back ++ ['\x7d']))))) :=
  ⟨front, gap, body, back, ['\x7d'], frontBlank, gapBlank, spelled, backBlank, rfl, .inl ⟨rfl, rfl⟩⟩

theorem spellsFields_cons (key : String) (frontBlank : Blank front) (gapBlank : Blank gap) (spelled : item.Spells body)
    (nonempty : otherEntries ≠ []) (spelledOthers : SpellsFields otherEntries more) :
    SpellsFields ((key, item) :: otherEntries)
      (front ++ ((quote key).toList ++ ':' :: (gap ++ (body ++ ',' :: more)))) :=
  ⟨front, gap, body, [], ',' :: more, frontBlank, gapBlank, spelled, blank_nil, rfl,
    .inr ⟨nonempty, more, rfl, spelledOthers⟩⟩

theorem spellsFields_compact (each : ∀ field ∈ entries, field.2.Spells field.2.compact.toList) :
    SpellsFields entries ((compactFields entries).toList ++ ['\x7d']) := by
  induction entries with
  | nil => exact ⟨[], blank_nil, rfl⟩
  | cons first others ih =>
      rw [List.forall_mem_cons] at each
      cases others with
      | nil =>
          have spelled := spellsFields_single first.1 blank_nil blank_nil each.1 blank_nil
          simpa [compactFields] using spelled
      | cons second later =>
          have spelled := spellsFields_cons first.1 blank_nil blank_nil each.1 (List.cons_ne_nil _ _)
            (ih each.2)
          simpa [compactFields] using spelled

theorem spellsFields_pretty {depth : Nat}
    (each : ∀ field ∈ entries, field.2.Spells (field.2.prettyAt depth).toList) (gapBlank : Blank gap) :
    SpellsFields entries ((prettyFields depth entries).toList ++ (gap ++ ['\x7d'])) := by
  have space : Blank [' '] := by
    intro c member
    obtain rfl := List.mem_singleton.mp member
    decide
  induction entries with
  | nil => exact ⟨gap, gapBlank, rfl⟩
  | cons first others ih =>
      rw [List.forall_mem_cons] at each
      cases others with
      | nil =>
          have spelled := spellsFields_single first.1 (blank_indent depth) space each.1 gapBlank
          simpa [prettyFields] using spelled
      | cons second later =>
          have spelled := spellsFields_cons first.1 (blank_indent depth) space each.1
            (List.cons_ne_nil _ _) (ih each.2)
          simpa [prettyFields] using spelled

theorem spells_compact (readable : v.sound Number.readsBack = true) : v.Spells v.compact.toList := by
  induction v using Json.induct with
  | null => rfl
  | bool b => cases b <;> rfl
  | number n => exact beq_iff_eq.mp readable
  | string s => rfl
  | array values ih =>
      rw [sound, soundItems_eq_true] at readable
      have items := spellsItems_compact fun item member => ih item member (readable item member)
      exact ⟨_, by simp [compact], items⟩
  | object entries ih =>
      rw [sound, soundFields_eq_true] at readable
      have fields := spellsFields_compact fun field member => ih field member (readable field member)
      exact ⟨_, by simp [compact], fields⟩
  | broken => cases readable

theorem spells_pretty (depth : Nat) (readable : v.sound Number.readsBack = true) :
    v.Spells (v.prettyAt depth).toList := by
  induction v using Json.induct generalizing depth with
  | null => rw [prettyAt]; rfl
  | bool b => rw [prettyAt]; cases b <;> rfl
  | number n => rw [prettyAt]; exact beq_iff_eq.mp readable
  | string s => rw [prettyAt]; rfl
  | array values ih =>
      rw [sound, soundItems_eq_true] at readable
      cases values with
      | nil => exact ⟨_, by simp [prettyAt], [], blank_nil, rfl⟩
      | cons first others =>
          have items := spellsItems_pretty (fun item member => ih item member (depth + 1) (readable item member))
            (blank_indent depth)
          exact ⟨_, by simp [prettyAt], items⟩
  | object entries ih =>
      rw [sound, soundFields_eq_true] at readable
      cases entries with
      | nil => exact ⟨_, by simp [prettyAt], [], blank_nil, rfl⟩
      | cons first others =>
          have fields := spellsFields_pretty
            (fun field member => ih field member (depth + 1) (readable field member)) (blank_indent depth)
          exact ⟨_, by simp [prettyAt], fields⟩
  | broken => cases readable

/-- What is written without blanks is read as the value that was written. -/
theorem read_compact (readable : v.sound Number.readsBack = true) : read v.compact.toList = ⟨v, true⟩ :=
  (spells_compact readable).read

/-- What is written on several lines is read as the value that was written. -/
theorem read_pretty (readable : v.sound Number.readsBack = true) : read v.pretty.toList = ⟨v, true⟩ :=
  (spells_pretty 0 readable).read

end DensityGraph.Json
