import DensityGraph.Proofs.Declaration.Numerals
import DensityGraph.Proofs.Text.Utf8

/-!
# The text between the blanks

Every character of a text that has tokens is a blank or belongs to the span of one
token.  A span spells its token, and the token is placed at the byte offset at which
the span begins.
-/

namespace DensityGraph.Declaration

open DensityGraph.Formula.Lexer (beginsName continuesName)
open DensityGraph.Text (Placed Tokens byteLength byteLength_append byteLength_cons byteLength_toList isBlank)

variable {c : Char} {text span rest front back : List Char} {token : Token} {offset more : Nat}
variable {items : List (Placed Token)} {placed : Placed Token}

/-- The character that is a token by itself. -/
def Token.mark? : Token → Option Char
  | .leftParen => '('
  | .rightParen => ')'
  | .leftBracket => '['
  | .rightBracket => ']'
  | .leftBrace => '\x7b'
  | .rightBrace => '\x7d'
  | .comma => ','
  | .star => '*'
  | .bar => '|'
  | .identifier _ | .number .. | .string _ | .doubleColon => none

/-- How a token is written. -/
inductive Token.Spelled : Token → List Char → Prop where
  | identifier {name : String} (isName : isIdentifier name.toList = true) : Spelled (.identifier name) name.toList
  | number {value : Float} {text : String} (read : Decimal.readFloat? text.toList = some value)
      (finite : value.isFinite = true) : Spelled (.number value text) text.toList
  /-- a quotation mark, anything but this mark, and the same mark again -/
  | string {quote : Char} {contents : String} (isQuote : quote = '\'' ∨ quote = '"')
      (inside : quote ∉ contents.toList) : Spelled (.string contents) (quote :: (contents.toList ++ [quote]))
  | doubleColon : Spelled .doubleColon [':', ':']
  | mark {c : Char} {token : Token} (isMark : token.mark? = some c) : Spelled token [c]

/-- The number of bytes that a token takes. -/
def Token.width : Token → Nat
  | .identifier name => name.utf8ByteSize
  | .number _ text => text.utf8ByteSize
  | .string contents => contents.utf8ByteSize + 2
  | .doubleColon => 2
  | .leftParen | .rightParen | .leftBracket | .rightBracket | .leftBrace | .rightBrace | .comma | .star | .bar => 1

/-- The text behind an identifier does not continue it. -/
def Token.EndsBefore (token : Token) (rest : List Char) : Prop :=
  ∀ name, token = .identifier name → ∀ next ∈ rest.head?, continuesName next = false

theorem Token.Spelled.width_eq (spelled : token.Spelled span) : token.width = byteLength span := by
  cases spelled with
  | identifier _ => exact (byteLength_toList _).symm
  | number _ _ => exact (byteLength_toList _).symm
  | @string quote contents isQuote _ =>
      have single : quote.utf8Size = 1 := by
        rcases isQuote with rfl | rfl <;> rfl
      rw [byteLength_cons, byteLength_append, byteLength_toList, byteLength_cons, single, width, byteLength]
      simp only [List.foldl_nil]
      omega
  | doubleColon => rfl
  | mark isMark => cases token <;> cases isMark <;> rfl

theorem Token.Spelled.ne_nil (spelled : token.Spelled span) : span ≠ [] := by
  cases spelled with
  | identifier isName =>
      intro none
      rw [none] at isName
      cases isName
  | number read _ =>
      intro none
      rw [none] at read
      cases read
  | string | doubleColon | mark => exact List.cons_ne_nil _ _

theorem Token.Spelled.width_pos (spelled : token.Spelled span) : 0 < token.width := by
  obtain ⟨c, others, rfl⟩ := List.exists_cons_of_ne_nil spelled.ne_nil
  have positive := c.utf8Size_pos
  rw [spelled.width_eq, byteLength_cons]
  omega

namespace Lexer

theorem mark?_of_punctuation? (single : punctuation? c = some token) : token.mark? = some c := by
  unfold punctuation? at single
  split at single <;> cases single <;> rfl

theorem take_takeWhile (test : Char → Bool) : rest.take (rest.takeWhile test).length = rest.takeWhile test :=
  (List.prefix_iff_eq_take.mp (List.takeWhile_prefix test)).symm

theorem drop_takeWhile (test : Char → Bool) : rest.drop (rest.takeWhile test).length = rest.dropWhile test := by
  conv_lhs =>
    arg 2
    rw [← @List.takeWhile_append_dropWhile _ test rest]
  exact List.drop_left

/-- What is quoted ends at the next mark of the same kind. -/
theorem take_quoted {quote : Char} (closed : (rest.takeWhile (· != quote)).length < rest.length) :
    rest.take ((rest.takeWhile (· != quote)).length + 1) = rest.takeWhile (· != quote) ++ [quote] := by
  have stops := List.head?_dropWhile_not (· != quote) rest
  have behind := @drop_takeWhile rest (· != quote)
  rw [List.take_add_one, take_takeWhile, ← List.head?_drop, behind]
  cases found : (rest.dropWhile (· != quote)).head? with
  | none =>
      rw [List.head?_eq_none_iff] at found
      rw [found, List.drop_eq_nil_iff] at behind
      omega
  | some next =>
      rw [found] at stops
      simpa using stops

theorem take_numberTail (before : Char) (text : List Char) :
    text.take (numberTail before text).length = numberTail before text := by
  induction text generalizing before with
  | nil => rfl
  | cons c rest ih =>
      rw [numberTail]
      split
      · rw [List.length_cons, List.take_succ_cons, ih]
      · rfl

/-- A lexeme is a blank, or it spells its token. -/
theorem lexeme_eq_ok {token? : Option Token} (read : lexeme offset c rest = .ok (token?, more)) :
    (token? = none ∧ more = 0 ∧ isBlank c = true) ∨
      ∃ token, token? = some token ∧ token.Spelled (c :: rest.take more) ∧ token.EndsBefore (rest.drop more) := by
  unfold lexeme at read
  split at read
  · rename_i blank
    cases read
    exact .inl ⟨rfl, rfl, blank⟩
  right
  split at read
  · rename_i token single
    cases read
    have isMark := mark?_of_punctuation? single
    refine ⟨token, rfl, .mark isMark, ?_⟩
    rintro name rfl
    cases isMark
  split at read
  · rename_i isColon
    subst isColon
    split at read
    · cases read
    · split at read
      · rename_i next others isColon
        subst isColon
        cases read
        exact ⟨_, rfl, .doubleColon, by rintro _ ⟨⟩⟩
      · cases read
  split at read
  · rename_i isQuote
    dsimp only at read
    split at read
    · rename_i closed
      cases read
      refine ⟨_, rfl, ?_, by rintro _ ⟨⟩⟩
      have spelled := @Token.Spelled.string c (String.ofList (rest.takeWhile (· != c))) (by simpa using isQuote)
      rw [String.toList_ofList] at spelled
      rw [take_quoted closed]
      apply spelled
      intro member
      simpa using List.all_eq_true.mp List.all_takeWhile c member
    · cases read
  split at read
  · dsimp only at read
    split at read
    · rename_i value finite
      cases read
      rw [Decimal.readFinite?, Option.filter_eq_some_iff] at finite
      refine ⟨_, rfl, ?_, by rintro _ ⟨⟩⟩
      have spelled := @Token.Spelled.number value (String.ofList (c :: numberTail c rest))
      rw [String.toList_ofList] at spelled
      rw [take_numberTail]
      exact spelled finite.1 finite.2
    · cases read
  split at read
  · rename_i begins
    cases read
    have spelled := @Token.Spelled.identifier (String.ofList (c :: rest.takeWhile continuesName))
    rw [String.toList_ofList] at spelled
    refine ⟨_, rfl, ?_, ?_⟩
    · rw [take_takeWhile]
      apply spelled
      rw [isIdentifier, begins, List.all_takeWhile]
      rfl
    · rintro _ _ next first
      rw [drop_takeWhile] at first
      have stops := List.head?_dropWhile_not continuesName rest
      rw [Option.mem_def.mp first] at stops
      simpa using stops
  · cases read

/-- A text as blanks and spans of tokens from an offset on. -/
inductive Layout : Nat → List Char → List (Placed Token) → Prop where
  | nil (offset : Nat) : Layout offset [] []
  | blank {offset : Nat} {c : Char} {rest : List Char} {items : List (Placed Token)} (isBlank : Text.isBlank c = true)
      (others : Layout (offset + byteLength [c]) rest items) : Layout offset (c :: rest) items
  | token {offset : Nat} {token : Token} {span rest : List Char} {items : List (Placed Token)}
      (spelled : token.Spelled span) (ends : token.EndsBefore rest)
      (others : Layout (offset + byteLength span) rest items) : Layout offset (span ++ rest) (⟨token, offset⟩ :: items)

theorem layout_of_run (read : run offset text = .ok items) : Layout offset text items := by
  induction offset, text using run.induct generalizing items with
  | case1 offset =>
      unfold run at read
      cases read
      exact .nil offset
  | case2 offset c rest e failed =>
      unfold run at read
      simp only [failed] at read
      cases read
  | case3 offset c rest token? more found e failed =>
      unfold run at read
      simp only [found, failed] at read
      cases read
  | case4 offset c rest token? more found later ran ih =>
      unfold run at read
      simp only [found, ran] at read
      cases read
      have others := ih ran
      obtain ⟨rfl, rfl, blank⟩ | ⟨token, rfl, spelled, ends⟩ := lexeme_eq_ok found
      · exact .blank blank others
      · have laid := Layout.token spelled ends others
        rwa [List.cons_append, List.take_append_drop] at laid

end Lexer

open Lexer (Layout)

/-- A token does not begin before another one ends. -/
def Precedes (first second : Placed Token) : Prop := first.offset + first.value.width ≤ second.offset

theorem Lexer.Layout.inside (laid : Layout offset text items) (member : placed ∈ items) :
    offset ≤ placed.offset ∧ 0 < placed.value.width ∧
      placed.offset + placed.value.width ≤ offset + byteLength text := by
  induction laid with
  | nil => cases member
  | @blank offset c rest items _ _ ih =>
      have := ih member
      rw [← List.singleton_append, byteLength_append]
      omega
  | @token offset token span rest items spelled _ _ ih =>
      rw [byteLength_append]
      rcases List.mem_cons.mp member with rfl | later
      · have width := spelled.width_eq
        have positive := spelled.width_pos
        dsimp only
        omega
      · have := ih later
        omega

theorem Lexer.Layout.inOrder (laid : Layout offset text items) : items.Pairwise Precedes := by
  induction laid with
  | nil => exact .nil
  | blank _ _ ih => exact ih
  | token spelled _ others ih =>
      refine List.pairwise_cons.mpr ⟨fun later member => ?_, ih⟩
      have inside := (others.inside member).1
      rwa [← spelled.width_eq] at inside

/-- The text from the offset of a token on spells this token. -/
theorem Lexer.Layout.spells (laid : Layout offset text items) (member : placed ∈ items) :
    ∃ front span back, text = front ++ span ++ back ∧ offset + byteLength front = placed.offset ∧
      placed.value.Spelled span ∧ placed.value.EndsBefore back := by
  induction laid with
  | nil => cases member
  | @blank offset c rest items _ _ ih =>
      obtain ⟨front, span, back, rfl, place, spelled⟩ := ih member
      refine ⟨c :: front, span, back, rfl, ?_, spelled⟩
      rw [← place, ← List.singleton_append, byteLength_append, Nat.add_assoc]
  | @token offset token first rest items spelled ends _ ih =>
      rcases List.mem_cons.mp member with rfl | later
      · exact ⟨[], first, rest, rfl, rfl, spelled, ends⟩
      · obtain ⟨front, span, back, rfl, place, spelledToo⟩ := ih later
        refine ⟨first ++ front, span, back, by simp only [List.append_assoc], ?_, spelledToo⟩
        rw [← place, byteLength_append, Nat.add_assoc]

/-- A byte offset lies within the span of a token. -/
def Covers (placed : Placed Token) (offset : Nat) : Prop :=
  placed.offset ≤ offset ∧ offset < placed.offset + placed.value.width

theorem Lexer.Layout.covered (laid : Layout offset (front ++ c :: back) items) :
    Text.isBlank c = true ∨ ∃ placed ∈ items, Covers placed (offset + byteLength front) := by
  generalize whole : front ++ c :: back = text at laid
  induction laid generalizing front with
  | nil => simp at whole
  | @blank offset first rest items isBlank _ ih =>
      obtain _ | ⟨first, front⟩ := front
      · obtain ⟨rfl, _⟩ := List.cons.inj whole
        exact .inl isBlank
      · obtain ⟨rfl, others⟩ := List.cons.inj whole
        rw [← List.singleton_append, byteLength_append, ← Nat.add_assoc]
        exact ih others
  | @token offset token span rest items spelled _ _ ih =>
      have behind (later : List Char) (beyond : front = span ++ later) (others : later ++ c :: back = rest) :
          Text.isBlank c = true ∨ ∃ placed ∈ (⟨token, offset⟩ :: items : List (Placed Token)),
            Covers placed (offset + byteLength front) := by
        rw [beyond, byteLength_append, ← Nat.add_assoc]
        obtain blank | ⟨placed, member, covers⟩ := ih others
        · exact .inl blank
        · exact .inr ⟨placed, List.mem_cons_of_mem _ member, covers⟩
      obtain ⟨later, split, others⟩ | ⟨later, beyond, others⟩ := List.append_eq_append_iff.mp whole
      · obtain _ | ⟨first, later⟩ := later
        · exact behind [] (by rw [split, List.append_nil, List.append_nil]) others
        · obtain ⟨rfl, _⟩ := List.cons.inj others
          have width := spelled.width_eq
          have positive := c.utf8Size_pos
          rw [split, byteLength_append, byteLength_cons] at width
          refine .inr ⟨_, List.mem_cons_self, ?_⟩
          simp only [Covers]
          omega
      · exact behind later beyond others.symm

/-- The tokens of a text, with the end of the text behind them, lie in it in order, and
what lies between them is blank. -/
structure Lossless (text : String) (tokens : Tokens Token) : Prop where
  ends : tokens.ends = text.utf8ByteSize
  increasing : (tokens.items.map (·.offset) ++ [tokens.ends]).Pairwise (· < ·)
  spells : ∀ placed ∈ tokens.items, ∃ front span back, text.toList = front ++ span ++ back ∧
    byteLength front = placed.offset ∧ byteLength span = placed.value.width ∧ placed.value.Spelled span ∧
      placed.value.EndsBefore back
  inOrder : tokens.items.Pairwise Precedes
  covered : ∀ front c back, text.toList = front ++ c :: back →
    Text.isBlank c = true ∨ ∃ placed ∈ tokens.items, Covers placed (byteLength front)

/-- No character of a text that has tokens is lost. -/
theorem tokenize_lossless {text : String} {tokens : Tokens Token} (read : tokenize text = .ok tokens) :
    Lossless text tokens := by
  obtain ⟨items, ran, rfl⟩ := map_eq_ok.1 read
  have laid := Lexer.layout_of_run ran
  constructor
  case ends => rfl
  case increasing =>
    rw [List.pairwise_append]
    refine ⟨?_, List.pairwise_singleton _ _, fun offset member last isLast => ?_⟩
    · rw [List.pairwise_map]
      apply laid.inOrder.imp_of_mem
      intro first second isFirst _ inOrder
      have inside := laid.inside isFirst
      unfold Precedes at inOrder
      omega
    · obtain ⟨placed, isPlaced, rfl⟩ := List.mem_map.mp member
      obtain rfl := List.mem_singleton.mp isLast
      have inside := laid.inside isPlaced
      rw [byteLength_toList] at inside
      dsimp only
      omega
  case spells =>
    intro placed member
    obtain ⟨front, span, back, whole, place, spelled, ends⟩ := laid.spells member
    exact ⟨front, span, back, whole, by omega, spelled.width_eq.symm, spelled, ends⟩
  case inOrder => exact laid.inOrder
  case covered =>
    intro front c back whole
    rw [whole] at laid
    have covered := laid.covered
    rwa [Nat.zero_add] at covered

/-- A quoted text may hold characters of more than one byte. -/
theorem tokenize_lossless_accented : ∃ tokens, tokenize "expr::e('é + x' , -1.5e+3)" = .ok tokens ∧
    tokens.items.map (·.offset) = [0, 4, 6, 7, 8, 17, 19, 26] ∧ tokens.ends = 27 ∧
    Lossless "expr::e('é + x' , -1.5e+3)" tokens := by
  obtain ⟨tokens, read, places⟩ := @exists_ok_of_any _ _ (tokenize "expr::e('é + x' , -1.5e+3)")
    (fun tokens => decide (tokens.items.map (·.offset) = [0, 4, 6, 7, 8, 17, 19, 26] ∧ tokens.ends = 27))
    (by decide +kernel)
  obtain ⟨offsets, ends⟩ := of_decide_eq_true places
  exact ⟨tokens, read, offsets, ends, tokenize_lossless read⟩

end DensityGraph.Declaration
