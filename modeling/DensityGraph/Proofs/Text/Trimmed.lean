import DensityGraph.Name
import DensityGraph.Text

/-!
# Names have no blanks

Identifiers and number literals are made of letters, digits, underscores, points
and signs.  None of these is a blank, so trimming leaves a name as it is.
-/

namespace DensityGraph

open Formula.Lexer (beginsName continuesName isLetter)

variable {text : List Char} {c : Char}

namespace Text

theorem trim_of_noBlanks {name : String} (noBlanks : ∀ c ∈ name.toList, isBlank c = false) : trim name = name := by
  have keeps : ∀ list : List Char, (∀ c ∈ list, isBlank c = false) → list.dropWhile isBlank = list := by
    intro list none
    cases list with
    | nil => rfl
    | cons first rest =>
        have firstIsNone := none first List.mem_cons_self
        rw [List.dropWhile_cons_of_neg (by simp [firstIsNone])]
  have reversed : ∀ c ∈ name.toList.reverse, isBlank c = false := fun c member =>
    noBlanks c (List.mem_reverse.mp member)
  rw [trim, keeps _ noBlanks, keeps _ reversed, List.reverse_reverse, String.ofList_toList]

end Text

/-- A character of ASCII that is neither a blank nor a control character. -/
def Visible (c : Char) : Prop := 0x20 < c.toNat ∧ c.toNat < 0x7f

instance : Decidable (Visible c) := inferInstanceAs (Decidable (_ ∧ _))

theorem Visible.notBlank (visible : Visible c) : Text.isBlank c = false := by
  obtain ⟨low, high⟩ := visible
  simp only [Text.isBlank, Bool.or_eq_false_iff, Bool.and_eq_false_iff, decide_eq_false_iff_not, beq_eq_false_iff_ne]
  omega

/-- What holds of every character of ASCII holds of a visible one. -/
@[elab_as_elim]
theorem Visible.of_codes {motive : Char → Prop} (visible : Visible c)
    (each : ∀ code < 128, motive (Char.ofNat code)) : motive c := by
  have here := each c.toNat (Nat.lt_trans visible.2 (by decide))
  rwa [Char.ofNat_toNat] at here

theorem visible_of_between {low high : Char} (above : low ≤ c) (below : c ≤ high) (lowVisible : Visible low)
    (highVisible : Visible high) : Visible c := by
  simp only [Char.le_def, UInt32.le_iff_toNat_le] at above below
  exact ⟨Nat.lt_of_lt_of_le lowVisible.1 above, Nat.lt_of_le_of_lt below highVisible.2⟩

theorem visible_of_isDigit (digit : Decimal.isDigit c = true) : Visible c := by
  simp only [Decimal.isDigit, Bool.and_eq_true, decide_eq_true_eq] at digit
  exact visible_of_between digit.1 digit.2 (by decide) (by decide)

theorem visible_of_isLetter (letter : isLetter c = true) : Visible c := by
  simp only [isLetter, Bool.or_eq_true, Bool.and_eq_true, decide_eq_true_eq] at letter
  obtain ⟨above, below⟩ | ⟨above, below⟩ := letter
  · exact visible_of_between above below (by decide) (by decide)
  · exact visible_of_between above below (by decide) (by decide)

theorem visible_of_continuesName (continues : continuesName c = true) : Visible c := by
  simp only [continuesName, Bool.or_eq_true, beq_iff_eq] at continues
  obtain (letter | digit) | rfl := continues
  · exact visible_of_isLetter letter
  · exact visible_of_isDigit digit
  · decide

theorem visible_of_beginsName (begins : beginsName c = true) : Visible c := by
  apply visible_of_continuesName
  simp only [beginsName, Bool.or_eq_true] at begins
  simp only [continuesName, Bool.or_eq_true]
  exact begins.imp_left .inl

theorem visible_of_toLower (visible : Visible c.toLower) : Visible c := by
  unfold Char.toLower at visible
  split at visible
  · rename_i upper
    exact visible_of_between upper.1 upper.2 (by decide) (by decide)
  · exact visible

theorem visible_of_isIdentifier (identifier : isIdentifier text = true) : ∀ c ∈ text, Visible c := by
  cases text with
  | nil => cases identifier
  | cons first rest =>
      simp only [isIdentifier, Bool.and_eq_true, List.all_eq_true] at identifier
      obtain ⟨begins, continues⟩ := identifier
      rw [List.forall_mem_cons]
      exact ⟨visible_of_beginsName begins, fun c member => visible_of_continuesName (continues c member)⟩

namespace Decimal

/-- What is in front of the first character that is no digit, and what follows it. -/
theorem visible_of_dropWhile (others : ∀ c ∈ text.dropWhile isDigit, Visible c) : ∀ c ∈ text, Visible c := by
  rw [← List.takeWhile_append_dropWhile (p := isDigit) (l := text), List.forall_mem_append]
  exact ⟨fun c member => visible_of_isDigit (List.all_eq_true.mp List.all_takeWhile c member), others⟩

theorem visible_of_takeSign (others : ∀ c ∈ (takeSign text).2, Visible c) : ∀ c ∈ text, Visible c := by
  unfold takeSign at others
  split at others
  · rw [List.forall_mem_cons]
    exact ⟨by decide, others⟩
  · rw [List.forall_mem_cons]
    exact ⟨by decide, others⟩
  · exact others

theorem visible_of_exponentOf {exponent : Int} (read : exponentOf text = some exponent) : ∀ c ∈ text, Visible c := by
  cases text with
  | nil => exact List.forall_mem_nil _
  | cons mark rest =>
      rw [exponentOf] at read
      split at read
      · rename_i isMark
        dsimp only at read
        split at read
        · cases read
        · rename_i digits
          rw [List.forall_mem_cons]
          constructor
          · obtain isMark | isMark := (by simpa using isMark : mark = 'e' ∨ mark = 'E')
            · subst isMark
              decide
            · subst isMark
              decide
          · apply visible_of_takeSign
            simp only [Bool.or_eq_true, Bool.not_eq_true', not_or, Bool.not_eq_false, List.all_eq_true] at digits
            exact fun c member => visible_of_isDigit (digits.2 c member)
      · cases read

theorem visible_of_unsignedLiteral {negative : Bool} {literal : Literal}
    (read : unsignedLiteral negative text = some literal) : ∀ c ∈ text, Visible c := by
  apply visible_of_dropWhile
  unfold unsignedLiteral at read
  dsimp only at read
  split at read
  case h_1 rest behindWhole =>
    split at read
    · cases read
    · obtain ⟨exponent, exponentRead, _⟩ := Option.map_eq_some_iff.mp read
      rw [behindWhole, List.forall_mem_cons]
      exact ⟨by decide, visible_of_dropWhile (visible_of_exponentOf exponentRead)⟩
  case h_2 =>
    split at read
    · cases read
    · obtain ⟨exponent, exponentRead, _⟩ := Option.map_eq_some_iff.mp read
      exact visible_of_exponentOf exponentRead

/-- The words that are read as numbers are made of letters. -/
theorem visible_of_readFloat? {value : Float} (read : readFloat? text = some value) : ∀ c ∈ text, Visible c := by
  apply visible_of_takeSign
  simp only [readFloat?] at read
  have ofWord : ∀ word : String, word.toList.all (fun c => decide (Visible c)) = true →
      String.ofList ((takeSign text).2.map Char.toLower) = word → ∀ c ∈ (takeSign text).2, Visible c := by
    rintro word visible rfl c member
    rw [String.toList_ofList, List.all_eq_true] at visible
    exact visible_of_toLower (of_decide_eq_true (visible _ (List.mem_map_of_mem member)))
  split at read
  · rename_i isWord
    obtain isWord | isWord := (by simpa using isWord : _ ∨ _)
    · exact ofWord _ (by decide) isWord
    · exact ofWord _ (by decide) isWord
  · split at read
    · rename_i isWord
      exact ofWord _ (by decide) isWord
    · obtain ⟨literal, literalRead, _⟩ := Option.map_eq_some_iff.mp read
      exact visible_of_unsignedLiteral literalRead

end Decimal

theorem visible_of_isValidName {name : String} (valid : isValidName name = true) : ∀ c ∈ name.toList, Visible c := by
  unfold isValidName at valid
  split at valid
  · cases valid
  · rename_i first rest chars
    rw [chars]
    split at valid
    · exact visible_of_isIdentifier valid
    · obtain ⟨value, read⟩ := Option.isSome_iff_exists.mp valid
      rw [Decimal.readFinite?, Option.filter_eq_some_iff] at read
      exact Decimal.visible_of_readFloat? read.1

/-- A name is left as it is by trimming. -/
theorem Text.trim_of_isValidName {name : String} (valid : isValidName name = true) : trim name = name :=
  trim_of_noBlanks fun c member => (visible_of_isValidName valid c member).notBlank

end DensityGraph
