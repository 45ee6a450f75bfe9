import DensityGraph.Proofs.Declaration.Tokens

/-!
# Numbers in a text

The text of a finite number is read whole, if nothing that could continue a number
follows: its characters are digits, points and exponent marks, and a sign stands at
its beginning or behind an exponent mark.
-/

namespace DensityGraph.Declaration.Lexer

open DensityGraph.Decimal (isDigit takeSign exponentOf unsignedLiteral readFinite?)

variable {c stop : Char} {before : Char} {text figures after : List Char} {tokens : List Token}

/-- Nothing of a text continues a number. -/
def EndsNumber (after : List Char) : Prop := ∀ before, numberTail before after = []

theorem endsNumber_cons (stops : (isDigit stop || stop == '.' || isExponentMark stop || isSign stop) = false) :
    EndsNumber (stop :: after) := by
  intro before
  simp only [Bool.or_eq_false_iff] at stops
  obtain ⟨⟨⟨notDigit, notPoint⟩, notMark⟩, notSign⟩ := stops
  simp [numberTail, notDigit, notPoint, notMark, notSign]

/-- All of a text continues a number, and what follows does not. -/
def Whole (text after : List Char) : Prop := ∀ before, numberTail before (text ++ after) = text

theorem whole_nil (ends : EndsNumber after) : Whole [] after := ends

theorem Whole.cons (plain : isDigit c = true ∨ c = '.' ∨ isExponentMark c = true) (whole : Whole text after) :
    Whole (c :: text) after := by
  intro before
  have continues : (isDigit c || c == '.' || isExponentMark c || (isSign c && isExponentMark before)) = true := by
    rcases plain with digit | rfl | mark
    · simp [digit]
    · simp
    · simp [mark]
  rw [List.cons_append, numberTail, if_pos continues, whole]

theorem Whole.digits (allDigits : ∀ c ∈ figures, isDigit c = true) (whole : Whole text after) :
    Whole (figures ++ text) after := by
  induction figures with
  | nil => exact whole
  | cons first rest ih =>
      rw [List.forall_mem_cons] at allDigits
      exact Whole.cons (.inl allDigits.1) (ih allDigits.2)

/-- A sign is part of a number behind an exponent mark. -/
theorem Whole.signed {mark : Char} (isMark : isExponentMark mark = true) (whole : Whole (takeSign text).2 after) :
    Whole (mark :: text) after := by
  have behindSign (sign : Char) (rest : List Char) (isSign : Lexer.isSign sign = true) (whole : Whole rest after) :
      Whole (mark :: sign :: rest) after := by
    intro before
    simp only [List.cons_append, numberTail, isMark, isSign, Bool.or_true, Bool.true_or, Bool.and_true, if_true]
    rw [whole]
  unfold takeSign at whole
  split at whole
  · exact behindSign '-' _ rfl whole
  · exact behindSign '+' _ rfl whole
  · exact whole.cons (.inr (.inr isMark))

theorem whole_exponent {exponent : Int} (ends : EndsNumber after) (read : exponentOf text = some exponent) :
    Whole text after := by
  cases text with
  | nil => exact whole_nil ends
  | cons mark rest =>
      rw [exponentOf] at read
      split at read
      · rename_i isMark
        dsimp only at read
        split at read
        · cases read
        · rename_i digits
          simp only [Bool.or_eq_true, Bool.not_eq_true', not_or, Bool.not_eq_false, List.all_eq_true] at digits
          apply Whole.signed (by simpa [isExponentMark] using isMark)
          rw [← List.append_nil (takeSign rest).2]
          exact Whole.digits digits.2 (whole_nil ends)
      · cases read

theorem Whole.takeWhile (whole : Whole (text.dropWhile isDigit) after) : Whole text after := by
  rw [← List.takeWhile_append_dropWhile (p := isDigit) (l := text)]
  exact Whole.digits (List.all_eq_true.mp List.all_takeWhile) whole

theorem whole_unsigned {negative : Bool} {literal : Decimal.Literal} (ends : EndsNumber after)
    (read : unsignedLiteral negative text = some literal) : Whole text after := by
  apply Whole.takeWhile
  unfold unsignedLiteral at read
  dsimp only at read
  split at read
  case h_1 rest behindWhole =>
    split at read
    · cases read
    · obtain ⟨exponent, exponentRead, _⟩ := Option.map_eq_some_iff.mp read
      rw [behindWhole]
      exact Whole.cons (.inr (.inl rfl)) (whole_exponent ends exponentRead).takeWhile
  case h_2 =>
    split at read
    · cases read
    · obtain ⟨exponent, exponentRead, _⟩ := Option.map_eq_some_iff.mp read
      exact whole_exponent ends exponentRead

/-- A number without a sign begins with a digit or a point. -/
theorem begins_unsigned {negative : Bool} {literal : Decimal.Literal}
    (read : unsignedLiteral negative text = some literal) :
    ∃ first rest, text = first :: rest ∧ (isDigit first = true ∨ first = '.') := by
  obtain _ | ⟨first, rest⟩ := text
  · cases read
  · refine ⟨first, rest, rfl, ?_⟩
    cases digit : isDigit first with
    | true => exact .inl rfl
    | false =>
        right
        unfold unsignedLiteral at read
        simp only [List.takeWhile_cons, List.dropWhile_cons, digit, if_false, Bool.false_eq_true] at read
        split at read
        · rename_i rest' fromPoint
          exact (List.cons.inj fromPoint).1
        · cases read

/-- What begins a number begins no other token. -/
theorem beginsNumber_only (begins : beginsNumber c = true) :
    Text.isBlank c = false ∧ punctuation? c = none ∧ c ≠ ':' ∧ ¬ (c = '\'' ∨ c = '"') := by
  have visible : Visible c := by
    simp only [beginsNumber, isSign, Bool.or_eq_true, beq_iff_eq] at begins
    obtain (digit | rfl) | (rfl | rfl) := begins
    · exact visible_of_isDigit digit
    · decide
    · decide
    · decide
  revert begins
  exact visible.of_codes (by decide +kernel)

/-- The text of a finite number begins a number, and all of it continues it. -/
theorem whole_number {value : Float} (read : readFinite? text = some value) :
    ∃ first rest, text = first :: rest ∧ beginsNumber first = true ∧
      ∀ after, EndsNumber after → numberTail first (rest ++ after) = rest := by
  rw [readFinite?, Option.filter_eq_some_iff] at read
  obtain ⟨read, finite⟩ := read
  simp only [Decimal.readFloat?] at read
  split at read
  · -- the words for infinity
    split at read
    · obtain rfl := Option.some.inj read
      cases finite
    · obtain rfl := Option.some.inj read
      cases finite
  · split at read
    · obtain rfl := Option.some.inj read
      cases finite
    · obtain ⟨literal, literalRead, _⟩ := Option.map_eq_some_iff.mp read
      unfold takeSign at literalRead
      split at literalRead
      · exact ⟨_, _, rfl, rfl, fun after ends => whole_unsigned ends literalRead _⟩
      · exact ⟨_, _, rfl, rfl, fun after ends => whole_unsigned ends literalRead _⟩
      · obtain ⟨first, rest, rfl, begins⟩ := begins_unsigned literalRead
        refine ⟨first, rest, rfl, ?_, fun after ends => ?_⟩
        · rcases begins with digit | rfl
          · simp [beginsNumber, digit]
          · rfl
        · have taken := whole_unsigned ends literalRead first
          rw [List.cons_append, numberTail] at taken
          split at taken
          · exact (List.cons.inj taken).2
          · cases taken

theorem lexeme_number {value : Float} {offset : Nat} (begins : beginsNumber c = true)
    (read : readFinite? (c :: numberTail c text) = some value) :
    lexeme offset c text =
      .ok (some (.number value (String.ofList (c :: numberTail c text))), (numberTail c text).length) := by
  obtain ⟨notBlank, notSingle, notColon, notQuote⟩ := beginsNumber_only begins
  simp only [lexeme, notBlank, notSingle, notColon, notQuote, begins, read, if_false, if_true,
    Bool.false_eq_true, ← Bool.decide_or, decide_eq_true_eq]

theorem Spells.number {value : Float} {text : String} (read : readFinite? text.toList = some value)
    (ends : EndsNumber after) (others : Spells after tokens) :
    Spells (text.toList ++ after) (.number value text :: tokens) := by
  obtain ⟨first, rest, chars, begins, whole⟩ := whole_number read
  have taken := whole after ends
  rw [chars, List.cons_append]
  apply Spells.cons rest.length
  · intro offset
    rw [chars] at read
    rw [lexeme_number begins (by rwa [taken]), taken, ← chars, String.ofList_toList]
  · rwa [List.drop_left]

end DensityGraph.Declaration.Lexer
