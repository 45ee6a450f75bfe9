import DensityGraph.Declaration.Lexer
import DensityGraph.Name
import DensityGraph.Proofs.Result
import DensityGraph.Proofs.Text.Trimmed

/-!
# The tokens of a text

The tokens of a text are those of its parts.  An identifier is read whole if no
character that could continue it follows.
-/

namespace DensityGraph.Declaration

open DensityGraph.Formula.Lexer (beginsName continuesName)
open DensityGraph.Text (Placed)

namespace Lexer

variable {c : Char} {text rest : List Char} {tokens : List Token} {offset : Nat}

/-- A text has these tokens, wherever it begins. -/
def Spells (text : List Char) (tokens : List Token) : Prop :=
  ∀ offset, ∃ items, run offset text = .ok items ∧ items.map (·.value) = tokens

theorem spells_nil : Spells [] [] := by
  intro offset
  unfold run
  exact ⟨[], rfl, rfl⟩

/-- A lexeme in front of the rest of a text. -/
theorem Spells.cons {token : Token} (more : Nat)
    (first : ∀ offset, lexeme offset c text = .ok (some token, more)) (others : Spells (text.drop more) tokens) :
    Spells (c :: text) (token :: tokens) := by
  intro offset
  obtain ⟨items, ran, values⟩ := others (offset + Text.byteLength (c :: text.take more))
  unfold run
  simp only [first, ran]
  exact ⟨⟨token, offset⟩ :: items, rfl, by rw [List.map_cons, values]⟩

theorem Spells.punctuation {token : Token} (visible : Text.isBlank c = false) (single : punctuation? c = some token)
    (others : Spells text tokens) : Spells (c :: text) (token :: tokens) := by
  apply Spells.cons 0 _ others
  intro offset
  simp [lexeme, visible, single]

theorem Spells.doubleColon (others : Spells text tokens) : Spells (':' :: ':' :: text) (.doubleColon :: tokens) := by
  apply Spells.cons 1
  · exact fun offset => rfl
  · exact others

/-- What begins a name begins no other token. -/
theorem beginsName_only (begins : beginsName c = true) :
    Text.isBlank c = false ∧ punctuation? c = none ∧ c ≠ ':' ∧ ¬ (c = '\'' ∨ c = '"') ∧ beginsNumber c = false := by
  have visible := visible_of_beginsName begins
  revert begins
  exact visible.of_codes (by decide +kernel)

theorem lexeme_identifier (begins : beginsName c = true) :
    lexeme offset c rest =
      .ok (some (.identifier (String.ofList (c :: rest.takeWhile continuesName))),
        (rest.takeWhile continuesName).length) := by
  obtain ⟨notBlank, notSingle, notColon, notQuote, notNumber⟩ := beginsName_only begins
  simp only [lexeme, notBlank, notSingle, notColon, notQuote, notNumber, begins, if_false, if_true,
    Bool.false_eq_true, ← Bool.decide_or, decide_eq_true_eq]

/-- A text does not go on with a character of a name. -/
def Delimited (text : List Char) : Prop := text.takeWhile continuesName = []

theorem delimited_cons (stops : continuesName c = false) : Delimited (c :: text) :=
  List.takeWhile_cons_of_neg (Bool.not_eq_true _ ▸ stops)

theorem Spells.identifier {name : String} (isName : isIdentifier name.toList = true) (delimited : Delimited text)
    (others : Spells text tokens) : Spells (name.toList ++ text) (.identifier name :: tokens) := by
  obtain ⟨list, rfl⟩ : ∃ list, name = String.ofList list := ⟨name.toList, String.ofList_toList.symm⟩
  rw [String.toList_ofList] at isName ⊢
  obtain _ | ⟨first, rest⟩ := list
  · cases isName
  · rw [isIdentifier, Bool.and_eq_true] at isName
    have whole : (rest ++ text).takeWhile continuesName = rest := by
      rw [List.takeWhile_append_of_pos (List.all_eq_true.mp isName.2), delimited, List.append_nil]
    rw [List.cons_append]
    apply Spells.cons rest.length
    · intro offset
      rw [lexeme_identifier isName.1, whole]
    · rwa [List.drop_left]

end Lexer

end DensityGraph.Declaration
