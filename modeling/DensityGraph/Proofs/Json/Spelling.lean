import DensityGraph.Proofs.Json.Reader
import DensityGraph.Proofs.Json.Value

/-!
# Texts that are read as JSON

A text spells a value if it lays the value out in any way, with blanks wherever
they are allowed.  Every text that spells a value is read as that value.
-/

namespace DensityGraph.Json

open DensityGraph.Decimal (isDigit)
open Reader

mutual

/-- The text spells the value, without blanks at its ends. -/
def Spells : Json → List Char → Prop
  | null, text => text = ['n', 'u', 'l', 'l']
  | bool value, text => text = if value then ['t', 'r', 'u', 'e'] else ['f', 'a', 'l', 's', 'e']
  | number n, text => Number.ofText? text = some n
  | string s, text => text = (quote s).toList
  | array items, text => ∃ inner, text = '[' :: inner ∧ SpellsItems items inner
  | object fields, text => ∃ inner, text = '\x7b' :: inner ∧ SpellsFields fields inner
  | broken, _ => False

/-- The text spells the items of an array and its end. -/
def SpellsItems : List Json → List Char → Prop
  | [], text => ∃ blanks, Blank blanks ∧ text = blanks ++ [']']
  | item :: rest, text => ∃ front body back follow, Blank front ∧ item.Spells body ∧ Blank back ∧
      text = front ++ (body ++ (back ++ follow)) ∧
      ((rest = [] ∧ follow = [']']) ∨ (rest ≠ [] ∧ ∃ more, follow = ',' :: more ∧ SpellsItems rest more))

/-- The text spells the fields of an object and its end. -/
def SpellsFields : List (String × Json) → List Char → Prop
  | [], text => ∃ blanks, Blank blanks ∧ text = blanks ++ ['\x7d']
  | (key, value) :: rest, text => ∃ front gap body back follow, Blank front ∧ Blank gap ∧ value.Spells body ∧
      Blank back ∧ text = front ++ ((quote key).toList ++ ':' :: (gap ++ (body ++ (back ++ follow)))) ∧
      ((rest = [] ∧ follow = ['\x7d']) ∨ (rest ≠ [] ∧ ∃ more, follow = ',' :: more ∧ SpellsFields rest more))

end

/-- What may stand behind a value. -/
def Delimited (rest : List Char) : Prop :=
  ∀ c ∈ rest.head?, isSpace c = true ∨ c = ',' ∨ c = ']' ∨ c = '\x7d'

variable {text rest blanks whole : List Char} {v : Json} {s : String} {c : Char} {bound : Nat}

theorem stops_of_delimited (delimited : Delimited rest) : Stops rest := by
  intro c first
  rcases delimited c first with blank | rfl | rfl | rfl
  · simp only [isSpace, Bool.or_eq_true, beq_iff_eq] at blank
    rcases blank with ((rfl | rfl) | rfl) | rfl
    all_goals decide
  all_goals decide

theorem toList_quote : (quote s).toList = '"' :: (s.toList.flatMap escapeChar ++ ['"']) := by
  simp [quote]

theorem isSpace_of_isDigit (digit : isDigit c = true) : isSpace c = false := by
  cases blank : isSpace c with
  | false => rfl
  | true =>
      simp only [isSpace, Bool.or_eq_true, beq_iff_eq] at blank
      rcases blank with ((rfl | rfl) | rfl) | rfl
      all_goals cases digit

/-- A value begins with a character that is neither a blank nor the end of an array. -/
theorem Spells.exists_cons (spelled : v.Spells text) :
    ∃ first others, text = first :: others ∧ isSpace first = false ∧ first ≠ ']' := by
  cases v with
  | null =>
      obtain rfl := spelled
      exact ⟨_, _, rfl, by decide, by decide⟩
  | bool b =>
      obtain rfl := spelled
      cases b with
      | true => exact ⟨_, _, rfl, by decide, by decide⟩
      | false => exact ⟨_, _, rfl, by decide, by decide⟩
  | number n =>
      cases text with
      | nil => cases spelled
      | cons first others =>
          refine ⟨first, others, rfl, ?_⟩
          rcases ofText?_eq_some.1 spelled with ⟨rfl, _⟩ | ⟨_, digit, _⟩
          · decide
          · refine ⟨isSpace_of_isDigit digit, ?_⟩
            rintro rfl
            cases digit
  | string s =>
      obtain rfl := spelled
      exact ⟨_, _, toList_quote, by decide, by decide⟩
  | array values =>
      obtain ⟨inner, rfl, _⟩ := spelled
      exact ⟨_, _, rfl, by decide, by decide⟩
  | object entries =>
      obtain ⟨inner, rfl, _⟩ := spelled
      exact ⟨_, _, rfl, by decide, by decide⟩
  | broken => cases spelled

theorem Spells.skip_self (spelled : v.Spells text) : skip (text ++ rest) = text ++ rest := by
  obtain ⟨first, others, rfl, visible, _⟩ := spelled.exists_cons
  exact skip_cons visible

theorem Blank.delimited {separator : Char} (blank : Blank blanks)
    (separates : separator = ',' ∨ separator = ']' ∨ separator = '\x7d') :
    Delimited (blanks ++ separator :: rest) := by
  intro c first
  cases blanks with
  | nil =>
      obtain rfl := Option.some.inj first
      exact .inr separates
  | cons blankFirst others =>
      obtain rfl := Option.some.inj first
      exact .inl (blank _ List.mem_cons_self)

variable {values reversed : List Json} {entries reversedFields : List (String × Json)}

/-- The items of an array are read if each of them is. -/
theorem items_gives
    (each : ∀ item ∈ values, ∀ {text rest whole}, item.Spells text → Delimited rest →
      skip whole = text ++ rest → (value whole).Gives item rest)
    (nonempty : values ≠ []) (spelled : SpellsItems values text) (fits : (text ++ rest).length < bound) :
    (items bound reversed (text ++ rest) fits).Gives (.array (reversed.reverse ++ values)) rest := by
  induction values generalizing text reversed with
  | nil => exact absurd rfl nonempty
  | cons first others ih =>
      obtain ⟨front, body, back, follow, frontBlank, bodySpelled, backBlank, rfl, continued⟩ := spelled
      rw [List.forall_mem_cons] at each
      obtain ⟨eachFirst, eachOther⟩ := each
      have start : skip (front ++ (body ++ (back ++ follow)) ++ rest) = body ++ (back ++ (follow ++ rest)) := by
        simp only [List.append_assoc]
        rw [skip_append frontBlank, bodySpelled.skip_self]
      rcases continued with ⟨rfl, rfl⟩ | ⟨nonempty, more, rfl, moreSpelled⟩
      · have firstGives := eachFirst bodySpelled (backBlank.delimited (.inr (.inl rfl))) start
        have closed : skip (back ++ (']' :: rest)) = ']' :: rest := by
          rw [skip_append backBlank, skip_cons (by decide)]
        rw [← List.reverse_cons]
        exact items_last fits firstGives closed
      · have firstGives := eachFirst bodySpelled (backBlank.delimited (.inl rfl)) start
        have goesOn : skip (back ++ (',' :: more ++ rest)) = ',' :: (more ++ rest) := by
          rw [skip_append backBlank, List.cons_append, skip_cons (by decide)]
        apply items_next fits firstGives goesOn
        intro fits
        rw [List.append_cons, ← List.reverse_cons]
        exact ih eachOther nonempty moreSpelled fits

/-- The fields of an object are read if the value of each of them is. -/
theorem fields_gives
    (each : ∀ field ∈ entries, ∀ {text rest whole}, field.2.Spells text → Delimited rest →
      skip whole = text ++ rest → (value whole).Gives field.2 rest)
    (nonempty : entries ≠ []) (spelled : SpellsFields entries text) (fits : (text ++ rest).length < bound) :
    (fields bound reversedFields (text ++ rest) fits).Gives (.object (reversedFields.reverse ++ entries)) rest := by
  induction entries generalizing text reversedFields with
  | nil => exact absurd rfl nonempty
  | cons first others ih =>
      obtain ⟨key, item⟩ := first
      obtain ⟨front, gap, body, back, follow, frontBlank, gapBlank, bodySpelled, backBlank, rfl, continued⟩ := spelled
      rw [List.forall_mem_cons] at each
      obtain ⟨eachFirst, eachOther⟩ := each
      let valueText := gap ++ (body ++ (back ++ (follow ++ rest)))
      have start : skip (front ++ ((quote key).toList ++ ':' :: (gap ++ (body ++ (back ++ follow)))) ++ rest) =
          '"' :: (key.toList.flatMap escapeChar ++ '"' :: ':' :: valueText) := by
        rw [List.append_assoc, skip_append frontBlank, toList_quote, List.cons_append, List.cons_append,
          skip_cons (by decide)]
        simp [valueText]
      have named : inside [] (key.toList.flatMap escapeChar ++ '"' :: ':' :: valueText) =
          some (key, ':' :: valueText) := by
        rw [inside_flatMap]
        simp
      have colon : skip (':' :: valueText) = ':' :: valueText := skip_cons (by decide)
      have valueStart : skip valueText = body ++ (back ++ (follow ++ rest)) := by
        rw [skip_append gapBlank, bodySpelled.skip_self]
      rcases continued with ⟨rfl, rfl⟩ | ⟨nonempty, more, rfl, moreSpelled⟩
      · have firstGives := eachFirst bodySpelled (backBlank.delimited (.inr (.inr rfl))) valueStart
        have closed : skip (back ++ ('\x7d' :: rest)) = '\x7d' :: rest := by
          rw [skip_append backBlank, skip_cons (by decide)]
        rw [← List.reverse_cons]
        exact fields_last fits start named colon firstGives closed
      · have firstGives := eachFirst bodySpelled (backBlank.delimited (.inl rfl)) valueStart
        have goesOn : skip (back ++ (',' :: more ++ rest)) = ',' :: (more ++ rest) := by
          rw [skip_append backBlank, List.cons_append, skip_cons (by decide)]
        apply fields_next fits start named colon firstGives goesOn
        intro fits
        rw [List.append_cons, ← List.reverse_cons]
        exact ih eachOther nonempty moreSpelled fits

theorem SpellsItems.skip_ne (spelled : SpellsItems values text) (nonempty : values ≠ []) :
    ∀ behind, skip (text ++ rest) ≠ ']' :: behind := by
  cases values with
  | nil => exact absurd rfl nonempty
  | cons first others =>
      obtain ⟨front, body, back, follow, frontBlank, bodySpelled, _, rfl, _⟩ := spelled
      obtain ⟨firstChar, bodyRest, rfl, visible, notEnd⟩ := bodySpelled.exists_cons
      intro behind same
      simp only [List.append_assoc] at same
      rw [skip_append frontBlank, List.cons_append, skip_cons visible] at same
      exact notEnd (List.cons.inj same).1

theorem SpellsFields.skip_ne (spelled : SpellsFields entries text) (nonempty : entries ≠ []) :
    ∀ behind, skip (text ++ rest) ≠ '\x7d' :: behind := by
  cases entries with
  | nil => exact absurd rfl nonempty
  | cons first others =>
      obtain ⟨front, gap, body, back, follow, frontBlank, _, _, _, rfl, _⟩ := spelled
      intro behind same
      rw [List.append_assoc, skip_append frontBlank, toList_quote, List.cons_append, List.cons_append,
        skip_cons (by decide)] at same
      cases (List.cons.inj same).1

theorem length_le_of_skip (start : skip whole = text ++ rest) : text.length + rest.length ≤ whole.length := by
  have shorter := length_skip_le whole
  rwa [start, List.length_append] at shorter

/-- A text that spells a value is read as the value, whatever follows it. -/
theorem Spells.gives (spelled : v.Spells text) (delimited : Delimited rest) (start : skip whole = text ++ rest) :
    (value whole).Gives v rest := by
  induction v using Json.induct generalizing text rest whole with
  | null =>
      obtain rfl := spelled
      have fits := length_le_of_skip start
      exact value_simple start (by decide) (by decide) (word_gives ['u', 'l', 'l'] fits)
  | bool b =>
      obtain rfl := spelled
      have fits := length_le_of_skip start
      cases b with
      | true => exact value_simple start (by decide) (by decide) (word_gives ['r', 'u', 'e'] fits)
      | false => exact value_simple start (by decide) (by decide) (word_gives ['a', 'l', 's', 'e'] fits)
  | number n =>
      cases text with
      | nil => cases spelled
      | cons first others =>
          have fits := length_le_of_skip start
          rw [List.length_cons] at fits
          have gives : (simple whole.length first (others ++ rest)).Gives (.number n) rest :=
            simple_number spelled (stops_of_delimited delimited) (by omega)
          refine value_simple start ?_ ?_ gives
          all_goals
            rintro rfl
            rcases ofText?_eq_some.1 spelled with ⟨minus, _⟩ | ⟨_, digit, _⟩
            · cases minus
            · cases digit
  | string s =>
      obtain rfl := spelled
      have fits := length_le_of_skip start
      rw [toList_quote, List.length_cons] at fits
      rw [toList_quote, List.cons_append, List.append_assoc] at start
      have shorter : rest.length < whole.length := by omega
      exact value_simple start (by decide) (by decide) (simple_string shorter)
  | array values ih =>
      obtain ⟨inner, rfl, innerSpelled⟩ := spelled
      rw [List.cons_append] at start
      cases values with
      | nil =>
          obtain ⟨blanks, blank, rfl⟩ := innerSpelled
          apply value_emptyArray start
          rw [List.append_assoc, skip_append blank]
          exact skip_cons (by decide)
      | cons first others =>
          apply value_array start (innerSpelled.skip_ne (List.cons_ne_nil _ _))
          exact fun fits => items_gives ih (List.cons_ne_nil _ _) innerSpelled fits
  | object entries ih =>
      obtain ⟨inner, rfl, innerSpelled⟩ := spelled
      rw [List.cons_append] at start
      cases entries with
      | nil =>
          obtain ⟨blanks, blank, rfl⟩ := innerSpelled
          apply value_emptyObject start
          rw [List.append_assoc, skip_append blank]
          exact skip_cons (by decide)
      | cons first others =>
          apply value_object start (innerSpelled.skip_ne (List.cons_ne_nil _ _))
          exact fun fits => fields_gives ih (List.cons_ne_nil _ _) innerSpelled fits
  | broken => cases spelled

/-- A text that spells a value is read as that value. -/
theorem Spells.read (spelled : v.Spells text) : Json.read text = ⟨v, true⟩ := by
  have start : skip text = text ++ [] := by
    have visible : skip (text ++ []) = text ++ [] := spelled.skip_self
    rwa [List.append_nil] at visible ⊢
  obtain ⟨shorter, valueEq⟩ := spelled.gives (by intro _ first; cases first) start
  rw [Json.read, valueEq]
  rfl

end DensityGraph.Json
