import DensityGraph.Text

/-!
# Tokens that a reader takes

A reader takes tokens from the front of a list and leaves the others.  Grammars know
values of tokens only, and not their places: these are the words in which a reader and
a grammar are compared.
-/

namespace DensityGraph.Text

variable {σ ε α : Type} {bound : Nat} {token : σ} {values before after stops : List σ}
  {tokens middle rest : List (Placed σ)}

/-- The tokens are the given values and then `rest`. -/
def Begins (values : List σ) (tokens rest : List (Placed σ)) : Prop :=
  ∃ front, tokens = front ++ rest ∧ front.map (·.value) = values

theorem begins_nil_iff : Begins [] tokens rest ↔ tokens = rest := by
  simp [Begins]

theorem begins_cons_iff :
    Begins (token :: values) tokens rest ↔
      ∃ offset more, tokens = ⟨token, offset⟩ :: more ∧ Begins values more rest := by
  constructor
  · rintro ⟨front, rfl, spelled⟩
    obtain ⟨⟨_, offset⟩, others, rfl, rfl, rfl⟩ := List.map_eq_cons_iff.mp spelled
    exact ⟨offset, others ++ rest, rfl, others, rfl, rfl⟩
  · rintro ⟨offset, _, rfl, front, rfl, rfl⟩
    exact ⟨⟨token, offset⟩ :: front, rfl, rfl⟩

theorem begins_append_iff :
    Begins (before ++ after) tokens rest ↔ ∃ middle, Begins before tokens middle ∧ Begins after middle rest := by
  constructor
  · rintro ⟨front, rfl, spelled⟩
    obtain ⟨first, second, rfl, rfl, rfl⟩ := List.map_eq_append_iff.mp spelled
    exact ⟨second ++ rest, ⟨first, List.append_assoc .., rfl⟩, second, rfl, rfl⟩
  · rintro ⟨_, ⟨first, rfl, rfl⟩, second, rfl, rfl⟩
    exact ⟨first ++ second, (List.append_assoc ..).symm, List.map_append⟩

/-- All tokens are the given values. -/
theorem begins_all_iff : Begins values tokens [] ↔ tokens.map (·.value) = values := by
  simp [Begins]

theorem begins_single_iff : Begins [token] tokens rest ↔ ∃ offset, tokens = ⟨token, offset⟩ :: rest := by
  simp only [begins_cons_iff, begins_nil_iff, exists_eq_right]

theorem begins_single (value : σ) (offset : Nat) : Begins [value] (⟨value, offset⟩ :: rest) rest :=
  begins_single_iff.mpr ⟨offset, rfl⟩

theorem Begins.append (first : Begins before tokens middle) (second : Begins after middle rest) :
    Begins (before ++ after) tokens rest :=
  begins_append_iff.mpr ⟨middle, first, second⟩

theorem Begins.behind {offset : Nat} (begun : Begins values middle rest)
    (shape : tokens = ⟨token, offset⟩ :: middle) : Begins (token :: values) tokens rest :=
  begins_cons_iff.mpr ⟨offset, middle, shape, begun⟩

/-- What is read derives from the tokens that were taken for it. -/
def Takes (result : Except ε (Parsed (Placed σ) α bound)) (tokens : List (Placed σ))
    (derives : List σ → α → Prop) : Prop :=
  ∀ read, result = .ok read → ∃ values, Begins values tokens read.rest ∧ derives values read.value

theorem takes_error {e : ε} {derives : List σ → α → Prop} :
    Takes (.error e : Except ε (Parsed (Placed σ) α bound)) tokens derives := by
  rintro _ ⟨⟩

theorem takes_ok {read : Parsed (Placed σ) α bound} {derives : List σ → α → Prop}
    (begun : Begins values tokens read.rest) (derived : derives values read.value) :
    Takes (.ok read : Except ε (Parsed (Placed σ) α bound)) tokens derives := by
  rintro _ ⟨⟩
  exact ⟨values, begun, derived⟩

/-- The value is read, and the rest is left behind it. -/
def Gives (result : Except ε (Parsed (Placed σ) α bound)) (value : α) (rest : List (Placed σ)) : Prop :=
  ∃ shorter, result = .ok ⟨value, rest, shorter⟩

/-- The next token, if there is one, is none of the given ones. -/
def Avoids (stops : List σ) (rest : List (Placed σ)) : Prop :=
  ∀ next ∈ rest.head?, next.value ∉ stops

theorem Avoids.mono {fewer : List σ} (avoids : Avoids stops rest) (subset : fewer ⊆ stops) : Avoids fewer rest :=
  fun next first among => avoids next first (subset among)

theorem avoids_nil : Avoids stops [] := by
  rintro _ ⟨⟩

theorem avoids_cons_iff {offset : Nat} : Avoids stops (⟨token, offset⟩ :: rest) ↔ token ∉ stops := by
  simp [Avoids]

theorem avoids_none : Avoids [] rest :=
  fun _ _ => List.not_mem_nil

/-- To avoid a token and others is not to begin with it, and to avoid the others. -/
theorem avoids_token_iff :
    Avoids (token :: stops) rest ↔ (∀ offset others, rest ≠ ⟨token, offset⟩ :: others) ∧ Avoids stops rest := by
  cases rest with
  | nil => simp [Avoids]
  | cons first others =>
      obtain ⟨value, place⟩ := first
      rw [avoids_cons_iff, avoids_cons_iff, List.mem_cons, not_or]
      refine and_congr_left fun _ => ⟨?_, fun other same => ?_⟩
      · rintro other offset others ⟨⟩
        exact other rfl
      · exact other place others (by rw [same])

theorem lt_of_behind {placed : Placed σ} (shorter : (placed :: middle).length < bound)
    (fewer : rest.length < middle.length) : rest.length < bound :=
  Nat.lt_trans (Nat.lt_succ_of_lt fewer) shorter

end DensityGraph.Text
