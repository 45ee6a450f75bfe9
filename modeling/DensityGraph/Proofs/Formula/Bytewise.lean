import DensityGraph.Formula.Lexer
import DensityGraph.Proofs.Text.Trimmed
import DensityGraph.Proofs.Text.Utf8

/-!
# The tokens of a formula from its bytes

A text may be walked byte by byte, with what a token spells cut out of it between two byte offsets.  A
cut within a character has no result.  It never comes to that: a text and its bytes agree up to the first
character of more than one byte, and no lexeme reaches so far.
-/

namespace DensityGraph.Text

/-- The part of a text between two byte offsets, if both are at boundaries of characters. -/
def slice? (source : String) (start stop : Nat) : Option String :=
  if bounds : String.Pos.Raw.IsValid source ⟨start⟩ ∧ String.Pos.Raw.IsValid source ⟨stop⟩ ∧ start ≤ stop then
    some (@String.extract source ⟨⟨start⟩, bounds.1⟩ ⟨⟨stop⟩, bounds.2.1⟩)
  else none

theorem slice?_middle {source early middle late : String} (parts : source = early ++ middle ++ late) :
    slice? source early.utf8ByteSize (early.utf8ByteSize + middle.utf8ByteSize) = some middle := by
  have opens : String.Pos.Raw.IsValid source ⟨early.utf8ByteSize⟩ :=
    String.Pos.Raw.isValid_iff_exists_append.mpr ⟨early, middle ++ late, by rw [parts, String.append_assoc], rfl⟩
  have closes : String.Pos.Raw.IsValid source ⟨early.utf8ByteSize + middle.utf8ByteSize⟩ := by
    rw [← String.utf8ByteSize_append]
    exact String.Pos.Raw.isValid_iff_exists_append.mpr ⟨early ++ middle, late, parts, rfl⟩
  have joined : (early ++ middle).toByteArray.size = early.utf8ByteSize + middle.utf8ByteSize := by
    rw [String.size_toByteArray, String.utf8ByteSize_append]
  rw [slice?, dif_pos ⟨opens, closes, Nat.le_add_right _ _⟩, Option.some_inj, ← String.toByteArray_inj,
    String.toByteArray_extract]
  dsimp only
  rw [parts, String.toByteArray_append, ← joined, ByteArray.extract_append_size_left, joined,
    String.toByteArray_append]
  exact ByteArray.extract_append_eq_right rfl rfl

end DensityGraph.Text

namespace DensityGraph.Formula.Bytewise

open DensityGraph.Decimal (isDigit)
open DensityGraph.Text (Placed Tokens byteLength byteLength_append byteLength_cons byteLength_toList encode slice?
  slice?_middle)
open Lexer (operatorOf? exponentText numberText maxIndex isLetter beginsName continuesName leadingByte lexeme run)

/-- The bytes of a text, each read as a character of its own. -/
def characters (text : List Char) : List Char := (encode text).map fun b => Char.ofNat b.toNat

/-- The lexeme at the front of some bytes, as `Lexer.lexeme` has it, but for what it spells, which is cut
out of the source.  There is none if it would be cut within a character. -/
def lexeme? (source : String) (offset : Nat) (c : Char) (rest : List Char) :
    Option (Except Fault (Option Token × Nat)) :=
  if c = ' ' || c = '\t' || c = '\n' || c = '\r' then some (.ok (none, 0))
  else match operatorOf? c with
  | some op => some (.ok (some (.operator op), 0))
  | none =>
    if c = '(' then some (.ok (some .leftParen, 0))
    else if c = ')' then some (.ok (some .rightParen, 0))
    else if c = ',' then some (.ok (some .comma, 0))
    else if c = '@' then
      let count := (rest.takeWhile isDigit).length
      (slice? source (offset + 1) (offset + 1 + count)).map fun text =>
        let digits := text.toList
        let index := Decimal.digitsValue 0 digits
        if digits.isEmpty || maxIndex < index then .error (.malformed offset .missingDigits)
        else .ok (some (.positional index), count)
    else if isDigit c || c = '.' then
      let count := (numberText (c :: rest)).length
      (slice? source offset (offset + count)).map fun text =>
        match Decimal.readFloat? text.toList with
        | some value => .ok (some (.number value), count - 1)
        | none => .error (.malformed offset (.invalidNumber text))
    else if beginsName c then
      let count := (rest.takeWhile continuesName).length
      (slice? source offset (offset + 1 + count)).map fun name => .ok (some (.identifier name), count)
    else some (.error (.malformed offset (.unexpectedCharacter c)))

/-- The tokens of the bytes from `offset` on. -/
def run? (source : String) (offset : Nat) : List Char → Option (Except Fault (List (Placed Token)))
  | [] => some (.ok [])
  | c :: rest =>
    match lexeme? source offset c rest with
    | none => none
    | some (.error fault) => some (.error fault)
    | some (.ok (token?, more)) =>
      match run? source (offset + 1 + more) (rest.drop more) with
      | none => none
      | some (.error fault) => some (.error fault)
      | some (.ok tokens) => some (.ok (match token? with
        | none => tokens
        | some token => ⟨token, offset⟩ :: tokens))
termination_by bytes => bytes.length
decreasing_by simp only [List.length_cons, List.length_drop]; omega

/-- The tokens of a text, by way of its bytes. -/
def tokenize? (source : String) : Option (Except Fault (Tokens Token)) :=
  (run? source 0 (characters source.toList)).map fun ran => ran.map fun items => ⟨items, source.utf8ByteSize⟩

variable {c d : Char} {text rest bytes early front late : List Char} {test : Char → Bool} {source : String}
variable {offset more : Nat} {token? : Option Token}

/-- A character that is one byte. -/
def Single (c : Char) : Prop := c.toNat < 0x80

instance : DecidablePred Single := fun c => inferInstanceAs (Decidable (c.toNat < 0x80))

theorem Single.utf8Size (single : Single c) : c.utf8Size = 1 := by
  rw [Char.utf8Size_eq_one_iff, UInt32.le_iff_toNat_le]
  exact Nat.le_of_lt_succ single

theorem Single.of_visible (visible : Visible c) : Single c := by
  unfold Single
  have below := visible.2
  omega

theorem single_of_operatorOf? {op : Operator} (found : operatorOf? c = some op) : Single c := by
  unfold operatorOf? at found
  split at found <;> first | decide | cases found

theorem toNat_ofNat {n : Nat} (valid : n < 0xd800) : (Char.ofNat n).toNat = n := by
  rw [Char.ofNat, dif_pos (Or.inl valid)]
  rfl

theorem toNat_lt (c : Char) : c.toNat < 0x110000 := by
  have valid := c.valid
  unfold UInt32.isValidChar Nat.isValidChar at valid
  unfold Char.toNat
  omega

/-- The first byte of a character of several bytes is no character of one byte. -/
theorem not_single_leadingByte (several : ¬ Single c) : ¬ Single (leadingByte c) := by
  have bounded := toNat_lt c
  unfold Single at several ⊢
  unfold leadingByte
  dsimp only
  rw [if_neg several]
  repeat' split
  all_goals
    rw [toNat_ofNat (by omega)]
    omega

/-- Some characters of one byte each at the front of a text. -/
structure Front (front text : List Char) : Prop where
  leads : front <+: text
  single : ∀ c ∈ front, Single c

theorem Front.nil : Front [] text := ⟨List.nil_prefix, by simp⟩

theorem Front.cons (first : Single c) (front : Front text rest) : Front (c :: text) (c :: rest) :=
  ⟨List.cons_prefix_cons.mpr ⟨rfl, front.leads⟩, List.forall_mem_cons.mpr ⟨first, front.single⟩⟩

theorem Front.takeWhile (single : ∀ c, test c = true → Single c) : Front (text.takeWhile test) text :=
  ⟨List.takeWhile_prefix test, fun c member => single c (List.all_eq_true.mp List.all_takeWhile c member)⟩

theorem Front.append (first : Front front text) (second : Front late (text.drop front.length)) :
    Front (front ++ late) text := by
  obtain ⟨others, rfl⟩ := first.leads
  rw [List.drop_left] at second
  refine ⟨(List.prefix_append_right_inj front).mpr second.leads, fun c member => ?_⟩
  exact (List.mem_append.mp member).elim (first.single c) (second.single c)

/-- In front of a character of several bytes there is nothing. -/
theorem Front.eq_nil (atFront : Front front (c :: text)) (several : ¬ Single c) : front = [] := by
  cases front with
  | nil => rfl
  | cons first others =>
      obtain ⟨rfl, _⟩ := List.cons_prefix_cons.mp atFront.leads
      exact absurd (atFront.single first List.mem_cons_self) several

theorem Front.byteLength_eq (front : Front text rest) : byteLength text = text.length := by
  have sizes : ∀ c ∈ text, c.utf8Size = 1 := fun c member => (front.single c member).utf8Size
  clear front
  induction text with
  | nil => rfl
  | cons c others ih =>
      rw [List.forall_mem_cons] at sizes
      rw [byteLength_cons, sizes.1, ih sizes.2, List.length_cons, Nat.add_comm]

/-- What stands at the front of a later part of the source can be cut out of it. -/
theorem Front.slice?_eq (whole : source.toList = early ++ text) (atFront : Front front text) :
    slice? source (byteLength early) (byteLength early + front.length) = some (String.ofList front) := by
  obtain ⟨late, rfl⟩ := atFront.leads
  have parts : source = String.ofList early ++ String.ofList front ++ String.ofList late := by
    rw [← String.ofList_append, ← String.ofList_append, List.append_assoc, ← whole, String.ofList_toList]
  have cut := slice?_middle parts
  simp only [← byteLength_toList, String.toList_ofList] at cut
  rwa [atFront.byteLength_eq] at cut

/-- The sign of an exponent, if there is one. -/
def signText : List Char → List Char
  | c :: _ => if c = '+' || c = '-' then [c] else []
  | [] => []

/-- A point and the digits behind it, if they are there. -/
def fractionText : List Char → List Char
  | '.' :: more => '.' :: more.takeWhile isDigit
  | _ => []

theorem exponentText_cons (mark : Char) (rest : List Char) :
    exponentText (mark :: rest) =
      if mark = 'e' || mark = 'E' then
        let digits := (rest.drop (signText rest).length).takeWhile isDigit
        if digits.isEmpty then [] else mark :: (signText rest ++ digits)
      else [] := by
  cases rest <;> rfl

theorem fractionText_cons (c : Char) (rest : List Char) :
    fractionText (c :: rest) = if c = '.' then '.' :: rest.takeWhile isDigit else [] := by
  split
  · rename_i point
    rw [point, fractionText]
  · rename_i other
    rw [fractionText]
    rintro more ⟨⟩
    exact other rfl

theorem numberText_eq (text : List Char) :
    numberText text =
      let whole := text.takeWhile isDigit
      let fraction := fractionText (text.drop whole.length)
      whole ++ fraction ++ exponentText ((text.drop whole.length).drop fraction.length) := rfl

theorem front_signText : Front (signText text) text := by
  unfold signText
  split
  · split
    · rename_i c _ sign
      apply Front.cons _ .nil
      obtain rfl | rfl := (by simpa using sign : c = '+' ∨ c = '-') <;> decide
    · exact .nil
  · exact .nil

theorem front_digits : Front (text.takeWhile isDigit) text :=
  .takeWhile fun _ digit => .of_visible (visible_of_isDigit digit)

theorem front_fractionText : Front (fractionText text) text := by
  unfold fractionText
  split
  · exact .cons (by decide) front_digits
  · exact .nil

theorem front_exponentText : Front (exponentText text) text := by
  cases text with
  | nil => exact .nil
  | cons mark rest =>
      rw [exponentText_cons]
      split
      · rename_i isMark
        dsimp only
        split
        · exact .nil
        · apply Front.cons _ (front_signText.append front_digits)
          obtain rfl | rfl := (by simpa using isMark : mark = 'e' ∨ mark = 'E') <;> decide
      · exact .nil

theorem front_numberText : Front (numberText text) text := by
  rw [numberText_eq]
  dsimp only
  have whole := front_digits.append (@front_fractionText (text.drop (text.takeWhile isDigit).length))
  apply whole.append
  rw [List.length_append, ← List.drop_drop]
  exact front_exponentText

/-- A text and its bytes are the same up to the first character of several bytes. -/
inductive Agree : List Char → List Char → Prop where
  | nil : Agree [] []
  | single {c : Char} {text bytes : List Char} (single : Single c) (others : Agree text bytes) :
      Agree (c :: text) (c :: bytes)
  | several {c : Char} {text bytes : List Char} (several : ¬ Single c) : Agree (c :: text) (leadingByte c :: bytes)

theorem characters_cons (c : Char) (text : List Char) :
    characters (c :: text) = (String.utf8EncodeChar c).map (fun b => Char.ofNat b.toNat) ++ characters text := by
  simp [characters, encode]

theorem utf8EncodeChar_eq_cons (c : Char) :
    ∃ first others, String.utf8EncodeChar c = first :: others ∧ Char.ofNat first.toNat = leadingByte c := by
  have bounded := toNat_lt c
  have byte (n : Nat) (small : n < 256) : Char.ofNat (UInt8.ofNat n).toNat = Char.ofNat n := by
    rw [UInt8.toNat_ofNat_of_lt' small]
  unfold String.utf8EncodeChar leadingByte
  simp only [Char.toNat_val, Nat.le_iff_lt_add_one, Nat.reduceAdd]
  split
  · exact ⟨_, _, rfl, by rw [byte _ (by omega), Char.ofNat_toNat]⟩
  split
  · exact ⟨_, _, rfl, by rw [byte _ (by omega), Nat.mod_eq_of_lt (by omega), Nat.add_comm]⟩
  split
  · exact ⟨_, _, rfl, by rw [byte _ (by omega), Nat.mod_eq_of_lt (by omega), Nat.add_comm]⟩
  · exact ⟨_, _, rfl, by rw [byte _ (by omega), Nat.mod_eq_of_lt (by omega), Nat.add_comm]⟩

theorem agree_characters (text : List Char) : Agree text (characters text) := by
  induction text with
  | nil => exact .nil
  | cons c rest ih =>
      obtain ⟨first, others, bytes, leads⟩ := utf8EncodeChar_eq_cons c
      rw [characters_cons, bytes, List.map_cons, leads]
      -- behind the first byte of a longer character nothing more is claimed
      by_cases single : Single c
      · have alone : others = [] := by
          have size := String.length_utf8EncodeChar c
          rw [bytes, single.utf8Size, List.length_cons] at size
          exact List.eq_nil_of_length_eq_zero (by omega)
        have same : leadingByte c = c := if_pos single
        rw [alone, same]
        exact .single single ih
      · exact .several single

theorem Agree.takeWhile_eq (agree : Agree text bytes) (single : ∀ c, test c = true → Single c) :
    bytes.takeWhile test = text.takeWhile test := by
  induction agree with
  | nil => rfl
  | single _ _ ih => rw [List.takeWhile_cons, List.takeWhile_cons, ih]
  | @several c text bytes several =>
      have refused : ¬ test c = true := fun found => several (single c found)
      have refusedToo : ¬ test (leadingByte c) = true := fun found => not_single_leadingByte several (single _ found)
      rw [List.takeWhile_cons, List.takeWhile_cons, if_neg refused, if_neg refusedToo]

theorem Agree.digits_eq (agree : Agree text bytes) : bytes.takeWhile isDigit = text.takeWhile isDigit :=
  agree.takeWhile_eq fun _ digit => .of_visible (visible_of_isDigit digit)

theorem Agree.drop (agree : Agree text bytes) (atFront : Front front text) :
    Agree (text.drop front.length) (bytes.drop front.length) := by
  induction front generalizing text bytes with
  | nil => exact agree
  | cons c others ih =>
      obtain ⟨behind, rfl⟩ := atFront.leads
      cases agree with
      | single _ agree => exact ih agree ⟨List.prefix_append _ _, (List.forall_mem_cons.mp atFront.single).2⟩
      | several several => exact absurd (atFront.single _ List.mem_cons_self) several

theorem Agree.signText_eq (agree : Agree text bytes) : signText bytes = signText text := by
  cases agree with
  | nil => rfl
  | single _ _ => rfl
  | several several =>
      rw [front_signText.eq_nil several, front_signText.eq_nil (not_single_leadingByte several)]

theorem Agree.fractionText_eq (agree : Agree text bytes) : fractionText bytes = fractionText text := by
  cases agree with
  | nil => rfl
  | @single c text bytes _ others =>
      rw [fractionText_cons, fractionText_cons, others.digits_eq]
  | several several =>
      rw [front_fractionText.eq_nil several, front_fractionText.eq_nil (not_single_leadingByte several)]

theorem Agree.exponentText_eq (agree : Agree text bytes) : exponentText bytes = exponentText text := by
  cases agree with
  | nil => rfl
  | single _ others =>
      rw [exponentText_cons, exponentText_cons, others.signText_eq, (others.drop front_signText).digits_eq]
  | several several =>
      rw [front_exponentText.eq_nil several, front_exponentText.eq_nil (not_single_leadingByte several)]

theorem Agree.numberText_eq (agree : Agree text bytes) : numberText bytes = numberText text := by
  have behind := agree.drop front_digits
  have behindFraction := behind.drop front_fractionText
  rw [Bytewise.numberText_eq, Bytewise.numberText_eq]
  dsimp only
  rw [agree.digits_eq, behind.fractionText_eq, behindFraction.exponentText_eq]

theorem front_name : Front (text.takeWhile continuesName) text :=
  .takeWhile fun _ continues => .of_visible (visible_of_continuesName continues)

theorem Agree.name_eq (agree : Agree text bytes) : bytes.takeWhile continuesName = text.takeWhile continuesName :=
  agree.takeWhile_eq fun _ continues => .of_visible (visible_of_continuesName continues)

/-- A lexeme consists of characters of one byte. -/
theorem front_lexeme (read : lexeme offset c rest = .ok (token?, more)) :
    ∃ front, Front (c :: front) (c :: rest) ∧ front.length = more := by
  unfold lexeme at read
  split at read
  · rename_i blank
    cases read
    refine ⟨[], .cons ?_ .nil, rfl⟩
    simp only [Bool.or_eq_true, decide_eq_true_eq] at blank
    rcases blank with ((rfl | rfl) | rfl) | rfl <;> decide
  split at read
  · rename_i op found
    cases read
    exact ⟨[], .cons (single_of_operatorOf? found) .nil, rfl⟩
  have mark (d : Char) (single : Single d) (isMark : c = d) :
      ∃ front, Front (c :: front) (c :: rest) ∧ front.length = 0 := ⟨[], .cons (isMark ▸ single) .nil, rfl⟩
  split at read
  · rename_i isMark
    cases read
    exact mark _ (by decide) isMark
  split at read
  · rename_i isMark
    cases read
    exact mark _ (by decide) isMark
  split at read
  · rename_i isMark
    cases read
    exact mark _ (by decide) isMark
  split at read
  · rename_i isMark
    dsimp only at read
    split at read
    · cases read
    · cases read
      exact ⟨_, .cons (isMark ▸ by decide) front_digits, rfl⟩
  split at read
  · dsimp only at read
    split at read
    · rename_i value finite
      cases read
      have number := @front_numberText (c :: rest)
      cases spelled : numberText (c :: rest) with
      | nil =>
          -- nothing is no number
          rw [spelled] at finite
          cases finite
      | cons first front =>
          rw [spelled] at number
          obtain ⟨rfl, _⟩ := List.cons_prefix_cons.mp number.leads
          exact ⟨front, number, rfl⟩
    · cases read
  split at read
  · rename_i begins
    cases read
    exact ⟨_, .cons (.of_visible (visible_of_beginsName begins)) front_name, rfl⟩
  · cases read

/-- A character of several bytes begins no lexeme. -/
theorem several_only (several : ¬ Single c) :
    (c = ' ' || c = '\t' || c = '\n' || c = '\r') = false ∧ operatorOf? c = none ∧ c ≠ '(' ∧ c ≠ ')' ∧ c ≠ ',' ∧
      c ≠ '@' ∧ (isDigit c || c = '.') = false ∧ beginsName c = false := by
  have ne (d : Char) (single : Single d) : c ≠ d := by
    rintro rfl
    exact several single
  have noOperator : operatorOf? c = none := by
    cases found : operatorOf? c with
    | none => rfl
    | some op => exact absurd (single_of_operatorOf? found) several
  have noDigit : ¬ isDigit c = true := fun digit => several (.of_visible (visible_of_isDigit digit))
  have noName : ¬ beginsName c = true := fun begins => several (.of_visible (visible_of_beginsName begins))
  simp only [noOperator, noDigit, noName, ne ' ' (by decide), ne '\t' (by decide), ne '\n' (by decide),
    ne '\r' (by decide), ne '(' (by decide), ne ')' (by decide), ne ',' (by decide), ne '@' (by decide),
    ne '.' (by decide), decide_false, Bool.or_false, ne_eq, not_false_eq_true, and_self]

theorem lexeme_of_several (several : ¬ Single c) :
    lexeme offset c rest = .error (.malformed offset (.unexpectedCharacter (leadingByte c))) := by
  obtain ⟨notBlank, noOperator, notLeft, notRight, notComma, notAt, notNumber, notName⟩ := several_only several
  simp only [lexeme, notBlank, noOperator, notLeft, notRight, notComma, notAt, notNumber, notName, if_false,
    Bool.false_eq_true]

theorem lexeme?_of_several (several : ¬ Single c) :
    lexeme? source offset c rest = some (.error (.malformed offset (.unexpectedCharacter c))) := by
  obtain ⟨notBlank, noOperator, notLeft, notRight, notComma, notAt, notNumber, notName⟩ := several_only several
  simp only [lexeme?, notBlank, noOperator, notLeft, notRight, notComma, notAt, notNumber, notName, if_false,
    Bool.false_eq_true]

/-- Whatever a lexeme spells is cut out at boundaries of characters. -/
theorem lexeme?_eq (agree : Agree (c :: rest) (d :: bytes)) (whole : source.toList = early ++ c :: rest) :
    lexeme? source (byteLength early) d bytes = some (lexeme (byteLength early) c rest) := by
  have sameNumber := agree.numberText_eq
  cases agree with
  | several several => rw [lexeme_of_several several, lexeme?_of_several (not_single_leadingByte several)]
  | single single others =>
      -- the digits of a position stand behind its mark, all else begins at the character itself
      have next : source.toList = (early ++ [c]) ++ rest := by rw [whole, List.append_assoc, List.singleton_append]
      have step : byteLength (early ++ [c]) = byteLength early + 1 := by
        rw [byteLength_append, byteLength_cons, single.utf8Size]
        rfl
      have digits := Front.slice?_eq next front_digits
      have number := Front.slice?_eq whole front_numberText
      have name := Front.slice?_eq whole (front_name.cons single)
      rw [step] at digits
      rw [List.length_cons, Nat.add_comm _ 1, ← Nat.add_assoc] at name
      simp only [lexeme?, lexeme, others.digits_eq, others.name_eq, sameNumber, digits, number, name, Option.map_some,
        String.toList_ofList]
      have same : leadingByte c = c := if_pos single
      rw [same]
      cases operatorOf? c with
      | some op => simp only [← apply_ite some]
      | none => cases Decimal.readFloat? (numberText (c :: rest)) <;> simp only [← apply_ite some]

/-- A text and its bytes agree behind a lexeme. -/
theorem Agree.behind (agree : Agree (c :: rest) (d :: bytes)) (read : lexeme offset c rest = .ok (token?, more)) :
    ∃ front, c :: rest = front ++ rest.drop more ∧ byteLength front = 1 + more ∧
      Agree (rest.drop more) (bytes.drop more) := by
  obtain ⟨front, atFront, rfl⟩ := front_lexeme read
  refine ⟨c :: front, ?_, ?_, agree.drop atFront⟩
  · obtain ⟨late, split⟩ := atFront.leads
    have parts : front ++ late = rest := (List.cons.inj split).2
    rw [← parts, List.drop_left, List.cons_append]
  · rw [atFront.byteLength_eq, List.length_cons, Nat.add_comm]

/-- One lexeme more is read from the bytes as it is from the text. -/
theorem run?_cons (cut : lexeme? source offset d bytes = some (lexeme offset c rest))
    (others : ∀ token? more, lexeme offset c rest = .ok (token?, more) →
      run? source (offset + 1 + more) (bytes.drop more) = some (run (offset + 1 + more) (rest.drop more))) :
    run? source offset (d :: bytes) = some (run offset (c :: rest)) := by
  rw [run?, run, cut]
  cases read : lexeme offset c rest with
  | error fault => rfl
  | ok result =>
      obtain ⟨token?, more⟩ := result
      dsimp only
      rw [others token? more read]
      cases run (offset + 1 + more) (rest.drop more) <;> rfl

theorem run?_eq {text bytes early : List Char} (agree : Agree text bytes) (whole : source.toList = early ++ text) :
    run? source (byteLength early) bytes = some (run (byteLength early) text) := by
  match text, bytes with
  | [], [] => rw [run?, run]
  | c :: rest, d :: bytes =>
      apply run?_cons (lexeme?_eq agree whole)
      intro token? more read
      obtain ⟨front, split, width, behind⟩ := agree.behind read
      rw [split, ← List.append_assoc] at whole
      have ran := run?_eq behind whole
      rwa [byteLength_append, width, ← Nat.add_assoc] at ran
termination_by text.length
decreasing_by simp only [List.length_cons, List.length_drop]; omega

/-- No text is cut within a character, and its bytes give the tokens that its characters give. -/
theorem tokenize?_eq (source : String) : tokenize? source = some (tokenize source) := by
  have ran := @run?_eq source _ _ [] (agree_characters source.toList) rfl
  rw [tokenize?, tokenize, ← show byteLength [] = 0 from rfl, ran, Option.map_some]

end DensityGraph.Formula.Bytewise
