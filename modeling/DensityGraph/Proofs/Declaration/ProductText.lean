import DensityGraph.Declaration.Parser
import DensityGraph.Proofs.Declaration.Tokens
import DensityGraph.Proofs.Text.Taken

/-!
# The text of a product

What is read from the text of a product of two factors, each of which is a name or
a name with one that it is conditioned on.
-/

namespace DensityGraph.Declaration

open DensityGraph.Text (Placed Tokens Gives)

namespace Parser

variable {name given : String} {offset : Nat} {next : Placed Token} {rest : List (Placed Token)}

/-- The tokens that make of a name or a factor in front of them something longer. -/
def continues : Token → Bool
  | .leftBracket | .doubleColon | .bar | .star => true
  | _ => false

theorem reads_primary (noBracket : next.value ≠ .leftBracket) (noColons : next.value ≠ .doubleColon) :
    Gives (primary (⟨.identifier name, offset⟩ :: next :: rest)) (.reference name offset) (next :: rest) := by
  have none : body name offset (next :: rest) = .ok none := by
    obtain ⟨value, place⟩ := next
    cases value <;> simp [body] at *
  rw [primary, none]
  exact ⟨_, rfl⟩

theorem reads_argument (plain : continues next.value = false) :
    Gives (argument (⟨.identifier name, offset⟩ :: next :: rest)) (.reference name offset) (next :: rest) := by
  obtain ⟨value, place⟩ := next
  obtain ⟨_, read⟩ := @reads_primary name offset ⟨value, place⟩ rest
    (by rintro rfl; cases plain) (by rintro rfl; cases plain)
  rw [argument, factor, read]
  cases value <;> first | exact ⟨_, rfl⟩ | cases plain

theorem reads_conditioned {bar place : Nat} (plain : continues next.value = false) :
    Gives (argument (⟨.identifier name, offset⟩ :: ⟨.bar, bar⟩ :: ⟨.identifier given, place⟩ :: next :: rest))
      (.conditioned (.reference name offset) given offset) (next :: rest) := by
  obtain ⟨value, place'⟩ := next
  obtain ⟨_, read⟩ := @reads_primary name offset ⟨.bar, bar⟩ (⟨.identifier given, place⟩ :: ⟨value, place'⟩ :: rest)
    (by simp) (by simp)
  rw [argument, factor, read]
  cases value <;> first | exact ⟨_, rfl⟩ | cases plain

/-- Two arguments with a comma between them, up to the closing parenthesis. -/
theorem reads_argumentList {first second : Argument} {tokens more : List (Placed Token)} {comma close : Nat}
    (firstRead : Gives (argument tokens) first (⟨.comma, comma⟩ :: more))
    (secondRead : Gives (argument more) second (⟨.rightParen, close⟩ :: rest)) :
    Gives (argumentList tokens) [first, second] (⟨.rightParen, close⟩ :: rest) := by
  obtain ⟨_, firstEq⟩ := firstRead
  obtain ⟨_, secondEq⟩ := secondRead
  rw [argumentList, firstEq]
  simp only [Text.Parsed.replace]
  rw [argumentsTail]
  simp only [secondEq]
  rw [argumentsTail]
  exact ⟨_, rfl⟩

end Parser

variable {owner : String} {arguments : List Argument} {start colons name opened close ends : Nat}
variable {items : List (Placed Token)}

/-- What is read from the tokens of a product. -/
theorem ofTokens_product (read : Gives (Parser.argumentList items) arguments [⟨.rightParen, close⟩]) :
    ofTokens ⟨⟨.identifier "PROD", start⟩ :: ⟨.doubleColon, colons⟩ :: ⟨.identifier owner, name⟩ ::
      ⟨.leftParen, opened⟩ :: items, ends⟩ = .ok (.density .product owner arguments start) := by
  obtain ⟨_, argumentsEq⟩ := read
  have formula : Parser.isFormulaKeyword "PROD" = false := by decide +kernel
  have keyword : Keyword.ofText? "PROD" = some .product := by decide +kernel
  simp [ofTokens, Parser.body, formula, keyword, Parser.density, Parser.identifier, Parser.expect, argumentsEq,
    Text.Parsed.replace]

theorem exists_placed {token : Token} {tokens : List Token} (values : items.map Placed.value = token :: tokens) :
    ∃ offset rest, items = ⟨token, offset⟩ :: rest ∧ rest.map Placed.value = tokens := by
  obtain ⟨⟨_, offset⟩, rest, rfl, rfl, others⟩ := List.map_eq_cons_iff.mp values
  exact ⟨offset, rest, rfl, others⟩

/-- A text, and what is read from it in front of a comma or a closing parenthesis. -/
def IsArgument (text : String) (is : Argument → Prop) : Prop :=
  ∃ tokens : List Token,
    (∀ stop more later, Formula.Lexer.continuesName stop = false → Lexer.Spells (stop :: more) later →
      Lexer.Spells (text.toList ++ stop :: more) (tokens ++ later)) ∧
    ∀ items next rest, items.map Placed.value = tokens → Parser.continues next.value = false →
      ∃ read, is read ∧ Gives (Parser.argument (items ++ next :: rest)) read (next :: rest)

theorem isArgument_reference {m : String} (isName : isIdentifier m.toList = true) :
    IsArgument m fun read => ∃ offset, read = .reference m offset := by
  refine ⟨[.identifier m], ?_, ?_⟩
  · intro stop more later stops spells
    exact spells.identifier isName (Lexer.delimited_cons stops)
  · intro items next rest values plain
    obtain ⟨offset, _, rfl, none⟩ := exists_placed values
    obtain rfl := List.map_eq_nil_iff.mp none
    exact ⟨_, ⟨offset, rfl⟩, Parser.reads_argument plain⟩

theorem isArgument_conditioned {c s : String} (cName : isIdentifier c.toList = true)
    (sName : isIdentifier s.toList = true) :
    IsArgument (c ++ "|" ++ s) fun read => ∃ inner offset, read = .conditioned (.reference c inner) s offset := by
  refine ⟨[.identifier c, .bar, .identifier s], ?_, ?_⟩
  · intro stop more later stops spells
    have text : (c ++ "|" ++ s).toList ++ stop :: more = c.toList ++ '|' :: (s.toList ++ stop :: more) := by
      simp
    rw [text]
    apply Lexer.Spells.identifier cName (Lexer.delimited_cons (by decide))
    apply Lexer.Spells.punctuation (by decide) rfl
    exact spells.identifier sName (Lexer.delimited_cons stops)
  · intro items next rest values plain
    obtain ⟨offset, _, rfl, afterName⟩ := exists_placed values
    obtain ⟨bar, _, rfl, afterBar⟩ := exists_placed afterName
    obtain ⟨place, _, rfl, none⟩ := exists_placed afterBar
    obtain rfl := List.map_eq_nil_iff.mp none
    exact ⟨_, ⟨offset, offset, rfl⟩, Parser.reads_conditioned plain⟩

/-- The text of a product of two factors. -/
def productText (owner first second : String) : String :=
  "PROD::" ++ owner ++ "(" ++ first ++ "," ++ second ++ ")"

theorem parse_product {first second : String} {isFirst isSecond : Argument → Prop}
    (isName : isIdentifier owner.toList = true) (firstArgument : IsArgument first isFirst)
    (secondArgument : IsArgument second isSecond) :
    ∃ a b offset, isFirst a ∧ isSecond b ∧
      parse (productText owner first second) = .ok (.density .product owner [a, b] offset) := by
  obtain ⟨firstTokens, firstSpells, firstReads⟩ := firstArgument
  obtain ⟨secondTokens, secondSpells, secondReads⟩ := secondArgument
  have text : (productText owner first second).toList = "PROD".toList ++ ':' :: ':' :: (owner.toList ++ '(' ::
      (first.toList ++ ',' :: (second.toList ++ [')']))) := by
    simp [productText]
  have spells : Lexer.Spells (productText owner first second).toList
      (.identifier "PROD" :: .doubleColon :: .identifier owner :: .leftParen ::
        (firstTokens ++ .comma :: (secondTokens ++ [.rightParen]))) := by
    rw [text]
    apply Lexer.Spells.identifier (by decide) (Lexer.delimited_cons (by decide))
    apply Lexer.Spells.doubleColon
    apply Lexer.Spells.identifier isName (Lexer.delimited_cons (by decide))
    apply Lexer.Spells.punctuation (by decide) rfl
    apply firstSpells _ _ _ (by decide)
    apply Lexer.Spells.punctuation (by decide) rfl
    apply secondSpells _ _ _ (by decide)
    exact Lexer.Spells.punctuation (by decide) rfl Lexer.spells_nil
  obtain ⟨items, ran, values⟩ := spells 0
  obtain ⟨start, _, rfl, afterKeyword⟩ := exists_placed values
  obtain ⟨colons, _, rfl, afterColons⟩ := exists_placed afterKeyword
  obtain ⟨name, _, rfl, afterName⟩ := exists_placed afterColons
  obtain ⟨opened, _, rfl, afterOpened⟩ := exists_placed afterName
  obtain ⟨firstItems, _, rfl, firstValues, afterFirst⟩ := List.map_eq_append_iff.mp afterOpened
  obtain ⟨comma, _, rfl, afterComma⟩ := exists_placed afterFirst
  obtain ⟨secondItems, _, rfl, secondValues, afterSecond⟩ := List.map_eq_append_iff.mp afterComma
  obtain ⟨close, _, rfl, none⟩ := exists_placed afterSecond
  obtain rfl := List.map_eq_nil_iff.mp none
  obtain ⟨a, isA, aRead⟩ :=
    firstReads firstItems ⟨.comma, comma⟩ (secondItems ++ [⟨.rightParen, close⟩]) firstValues rfl
  obtain ⟨b, isB, bRead⟩ := secondReads secondItems ⟨.rightParen, close⟩ [] secondValues rfl
  refine ⟨a, b, start, isA, isB, ?_⟩
  rw [parse, tokenize, ran]
  exact ofTokens_product (Parser.reads_argumentList aRead bRead)

end DensityGraph.Declaration
