import DensityGraph.Json.Reader
import DensityGraph.Json.Writer

/-!
# Steps of reading JSON

What the reader does with a text that begins in a known way.  Quoted texts are
read as they are written, and a number does not depend on what follows it.
-/

namespace DensityGraph.Json

open DensityGraph.Decimal (isDigit digitsValue)
open Reader (isSpace)

/-- Nothing but blanks. -/
def Blank (text : List Char) : Prop := ∀ c ∈ text, isSpace c = true

/-- The number that all of a text spells. -/
def Number.ofText? (text : List Char) : Option Number :=
  let spelled? :=
    if text.head? = some '-' then Reader.number? true text.tail else Reader.number? false text
  (spelled?.filter fun result => result.2.isEmpty).map (·.1)

namespace Reader

variable {text rest after more blanks before : List Char} {c : Char} {bound : Nat}

theorem skip_append (blank : Blank blanks) : skip (blanks ++ text) = skip text := by
  induction blanks with
  | nil => rfl
  | cons first others ih =>
      rw [Blank, List.forall_mem_cons] at blank
      rw [skip, List.cons_append, List.dropWhile_cons_of_pos blank.1]
      exact ih blank.2

theorem skip_cons (visible : isSpace c = false) : skip (c :: text) = c :: text :=
  List.dropWhile_cons_of_neg (by rw [visible]; decide)

theorem unit?_hexDigit : ∀ n < 0x20, unit? '0' '0' (hexDigit (n / 16)) (hexDigit (n % 16)) = some n := by
  decide

/-- The reader undoes what the writer does to a character. -/
theorem inside_escapeChar (c : Char) : inside before (escapeChar c ++ rest) = inside (c :: before) rest := by
  unfold escapeChar
  split
  · subst_vars; rfl
  split
  · subst_vars; rfl
  split
  · subst_vars; rfl
  split
  · subst_vars; rfl
  split
  · subst_vars; rfl
  split
  · subst_vars; rfl
  split
  · subst_vars; rfl
  split
  · rename_i control
    have spelled := unit?_hexDigit c.toNat control
    have notLeading : isLeading c.toNat = false := by simp [isLeading]; omega
    have notTrailing : isTrailing c.toNat = false := by simp [isTrailing]; omega
    simp only [List.cons_append, List.nil_append]
    rw [inside]
    simp only [spelled, notLeading, notTrailing, Char.ofNat_toNat]
    rfl
  · rename_i notQuote notSlash _ _ _ _ _ visible
    rw [List.singleton_append, inside, if_neg]
    all_goals simp_all

theorem inside_flatMap (s : List Char) :
    inside before (s.flatMap escapeChar ++ '"' :: rest) = some (String.ofList (before.reverse ++ s), rest) := by
  induction s generalizing before with
  | nil => simp [inside]
  | cons c others ih => 
      rw [List.flatMap_cons, List.append_assoc, inside_escapeChar, ih]
      simp

variable {digits fraction : List Char} {exponent : Option Int} {negative : Bool} {n : Number}

/-- What stops a run of digits. -/
def NoDigit (text : List Char) : Prop := ∀ c ∈ text.head?, isDigit c = false

/-- What stops a number. -/
def Stops (text : List Char) : Prop :=
  ∀ c ∈ text.head?, isDigit c = false ∧ c ≠ '.' ∧ c ≠ 'e' ∧ c ≠ 'E'

theorem NoDigit.append (noDigit : NoDigit rest) (stops : Stops more) : NoDigit (rest ++ more) := by
  cases rest with
  | nil => exact fun c first => (stops c first).1
  | cons first others => exact noDigit

theorem digits?_eq_some : digits? text = some (digits, rest) ↔
    digits ≠ [] ∧ (∀ c ∈ digits, isDigit c = true) ∧ NoDigit rest ∧ text = digits ++ rest := by
  constructor
  · intro read
    unfold digits? at read
    split at read
    case h_1 => cases read
    case h_2 nonempty =>
      obtain ⟨rfl, rfl⟩ := Prod.mk.inj (Option.some.inj read)
      refine ⟨nonempty, List.all_eq_true.mp List.all_takeWhile, ?_, List.takeWhile_append_dropWhile.symm⟩
      intro c first
      have stopped := List.head?_dropWhile_not isDigit text
      rw [Option.mem_def.mp first] at stopped
      simpa using stopped
  · rintro ⟨nonempty, all, noDigit, rfl⟩
    have taken : (digits ++ rest).takeWhile isDigit = digits ∧ (digits ++ rest).dropWhile isDigit = rest := by
      rw [List.takeWhile_append_of_pos all, List.dropWhile_append_of_pos all]
      cases rest with
      | nil => simp
      | cons first others =>
          have stopped := noDigit first rfl
          simp [stopped]
    unfold digits?
    rw [taken.1, taken.2]
    cases digits with
    | nil => exact absurd rfl nonempty
    | cons first others => rfl

theorem digits?_append (read : digits? text = some (digits, rest)) (stops : Stops more) :
    digits? (text ++ more) = some (digits, rest ++ more) := by
  obtain ⟨nonempty, all, noDigit, rfl⟩ := digits?_eq_some.1 read
  exact digits?_eq_some.2 ⟨nonempty, all, noDigit.append stops, List.append_assoc ..⟩

theorem fraction?_append (read : fraction? text = some (fraction, rest)) (stops : Stops more) :
    fraction? (text ++ more) = some (fraction, rest ++ more) := by
  unfold fraction? at read
  split at read
  case h_1 behind => exact digits?_append read stops
  case h_2 noPoint =>
    obtain ⟨rfl, rfl⟩ := Prod.mk.inj (Option.some.inj read)
    unfold fraction?
    split
    case h_1 behind same =>
      cases text with
      | nil => exact absurd rfl (stops '.' (by rw [← List.nil_append more, same]; rfl)).2.1
      | cons first others => exact absurd (List.cons.inj same).1 (fun point => noPoint others (by rw [point]))
    case h_2 => rfl

theorem takeSign_append (nonempty : text ≠ []) :
    Decimal.takeSign (text ++ more) = ((Decimal.takeSign text).1, (Decimal.takeSign text).2 ++ more) := by
  cases text with
  | nil => exact absurd rfl nonempty
  | cons first others =>
      by_cases minus : first = '-'
      · subst minus
        rfl
      by_cases plus : first = '+'
      · subst plus
        rfl
      simp [Decimal.takeSign, minus, plus]

theorem exponent?_append (read : exponent? text = some (exponent, rest)) (stops : Stops more) :
    exponent? (text ++ more) = some (exponent, rest ++ more) := by
  cases text with
  | nil =>
      obtain ⟨rfl, rfl⟩ := Prod.mk.inj (Option.some.inj read)
      cases more with
      | nil => rfl
      | cons first others =>
          have noMark := (stops first rfl).2.2
          simp [exponent?, noMark]
  | cons mark others =>
      rw [exponent?] at read
      rw [List.cons_append, exponent?]
      split at read
      · rename_i marked
        rw [if_pos marked]
        have nonempty : others ≠ [] := by
          rintro rfl
          cases read
        rw [takeSign_append nonempty]
        obtain ⟨⟨digits, behind⟩, digitsRead, same⟩ := Option.map_eq_some_iff.mp read
        obtain ⟨rfl, rfl⟩ := Prod.mk.inj same
        exact Option.map_eq_some_iff.mpr ⟨_, digits?_append digitsRead stops, rfl⟩
      · rename_i notMarked
        rw [if_neg notMarked]
        obtain ⟨rfl, rfl⟩ := Prod.mk.inj (Option.some.inj read)
        rfl

theorem number?_append (read : number? negative text = some (n, rest)) (stops : Stops more) :
    number? negative (text ++ more) = some (n, rest ++ more) := by
  unfold number? at read ⊢
  simp only [Option.bind_eq_bind, Option.bind_eq_some_iff] at read ⊢
  obtain ⟨⟨digits, behindDigits⟩, digitsRead, read⟩ := read
  refine ⟨_, digits?_append digitsRead stops, ?_⟩
  dsimp only at read ⊢
  split at read
  · cases read
  · rename_i noZero
    rw [if_neg noZero]
    simp only [Option.bind_eq_some_iff] at read ⊢
    obtain ⟨⟨fraction, behindFraction⟩, fractionRead, ⟨exponent, behindExponent⟩, exponentRead, made⟩ := read
    refine ⟨_, fraction?_append fractionRead stops, _, exponent?_append exponentRead stops, ?_⟩
    dsimp only at made ⊢
    split at made
    all_goals
      obtain ⟨rfl, rfl⟩ := Prod.mk.inj (Option.some.inj made)
      simp_all

variable {v item : Json} {s key : String} {reversed : List Json} {reversedFields : List (String × Json)}

/-- The value is read whole, and `rest` is left behind it. -/
def Read.Gives (read : Read bound) (v : Json) (rest : List Char) : Prop :=
  ∃ shorter, read = ⟨v, some ⟨rest, shorter⟩⟩

theorem shorterThan_gives (shorter : rest.length < bound) : (shorterThan bound v rest).Gives v rest :=
  ⟨shorter, dif_pos shorter⟩

theorem word_gives (letters : List Char) (fits : letters.length + 1 + rest.length ≤ bound) :
    (word bound letters v (letters ++ rest)).Gives v rest := by
  have isNext : letters.isPrefixOf (letters ++ rest) = true := by simp
  rw [word, if_pos isNext, List.drop_left]
  exact shorterThan_gives (by omega)

theorem ofText?_eq_some : Number.ofText? (c :: text) = some n ↔
    (c = '-' ∧ number? true text = some (n, [])) ∨
      (c ≠ '-' ∧ isDigit c = true ∧ number? false (c :: text) = some (n, [])) := by
  have whole (spelled? : Option (Number × List Char)) :
      (spelled?.filter fun result => result.2.isEmpty).map (·.1) = some n ↔ spelled? = some (n, []) := by
    cases spelled? with
    | none => simp
    | some result =>
        obtain ⟨m, behind⟩ := result
        cases behind <;> simp [Option.filter]
  by_cases minus : c = '-'
  · subst minus
    simp [Number.ofText?, whole]
  · have digitFirst : number? false (c :: text) = some (n, []) → isDigit c = true := by
      intro read
      simp only [number?, Option.bind_eq_bind, Option.bind_eq_some_iff] at read
      obtain ⟨⟨digits, behind⟩, digitsRead, _⟩ := read
      obtain ⟨nonempty, all, _, same⟩ := digits?_eq_some.1 digitsRead
      obtain ⟨first, others, rfl⟩ := List.exists_cons_of_ne_nil nonempty
      rw [(List.cons.inj same).1]
      exact all first List.mem_cons_self
    simp only [Number.ofText?, List.head?_cons, Option.some.injEq, minus, if_false, whole, false_and, false_or,
      ne_eq, not_false_eq_true, true_and]
    exact ⟨fun read => ⟨digitFirst read, read⟩, fun both => both.2⟩

theorem simple_number (spelled : Number.ofText? (c :: text) = some n) (stops : Stops rest)
    (fits : text.length + rest.length < bound) : (simple bound c (text ++ rest)).Gives (.number n) rest := by
  rcases ofText?_eq_some.1 spelled with ⟨rfl, read⟩ | ⟨notMinus, isDigit, read⟩
  · have readAll := number?_append read stops
    simp only [simple, readAll]
    exact shorterThan_gives (by simp; omega)
  · have readAll := number?_append read stops
    have notQuote : c ≠ '"' := by
      rintro rfl
      cases isDigit
    rw [List.cons_append] at readAll
    simp only [simple, notQuote, notMinus, isDigit, readAll, if_false, if_true]
    exact shorterThan_gives (by simp; omega)

theorem simple_string (fits : rest.length < bound) :
    (simple bound '"' (s.toList.flatMap escapeChar ++ '"' :: rest)).Gives (.string s) rest := by
  simp only [simple, if_true, inside_flatMap, List.reverse_nil, List.nil_append, String.ofList_toList]
  exact shorterThan_gives fits

theorem value_of_skip (start : skip text = c :: rest) : value text =
    if c = '[' then
      match g : skip rest with
      | ']' :: after => ⟨.array [], some ⟨after,
          Nat.lt_trans (length_lt_of_skip g) (length_lt_of_skip start)⟩⟩
      | _ => items text.length [] rest (length_lt_of_skip start)
    else if c = '\x7b' then
      match g : skip rest with
      | '\x7d' :: after => ⟨.object [], some ⟨after,
          Nat.lt_trans (length_lt_of_skip g) (length_lt_of_skip start)⟩⟩
      | _ => fields text.length [] rest (length_lt_of_skip start)
    else simple text.length c rest := by
  rw [value.eq_def]
  split
  · rename_i nothing
    cases nothing.symm.trans start
  · rename_i first others same
    obtain ⟨rfl, rfl⟩ := List.cons.inj (same.symm.trans start)
    rfl

theorem value_simple (start : skip text = c :: rest) (notArray : c ≠ '[') (notObject : c ≠ '\x7b')
    (gives : (simple text.length c rest).Gives v after) : (value text).Gives v after := by
  rwa [value_of_skip start, if_neg notArray, if_neg notObject]

theorem value_emptyArray (start : skip text = '[' :: rest) (closed : skip rest = ']' :: after) :
    (value text).Gives (.array []) after := by
  rw [value_of_skip start, if_pos rfl]
  split
  case h_1 behind closing =>
    obtain ⟨_, rfl⟩ := List.cons.inj (closing.symm.trans closed)
    exact ⟨_, rfl⟩
  case h_2 unclosed => exact absurd closed (unclosed _)

theorem value_array (start : skip text = '[' :: rest) (full : ∀ behind, skip rest ≠ ']' :: behind)
    (gives : ∀ fits, (items text.length [] rest fits).Gives v after) : (value text).Gives v after := by
  rw [value_of_skip start, if_pos rfl]
  split
  case h_1 behind closing => exact absurd closing (full behind)
  case h_2 => exact gives _

theorem items_last (fits : text.length < bound) (first : (value text).Gives item rest)
    (closed : skip rest = ']' :: after) :
    (items bound reversed text fits).Gives (.array (item :: reversed).reverse) after := by
  obtain ⟨shorter, valueEq⟩ := first
  rw [items.eq_def, valueEq]
  dsimp only
  split
  case h_1 behind goesOn => cases goesOn.symm.trans closed
  case h_2 behind closing =>
    obtain ⟨_, rfl⟩ := List.cons.inj (closing.symm.trans closed)
    exact ⟨_, rfl⟩
  case h_3 unclosed => exact absurd closed (unclosed _)

theorem items_next (fits : text.length < bound) (first : (value text).Gives item rest)
    (goesOn : skip rest = ',' :: more)
    (gives : ∀ fits, (items bound (item :: reversed) more fits).Gives v after) :
    (items bound reversed text fits).Gives v after := by
  obtain ⟨shorter, valueEq⟩ := first
  rw [items.eq_def, valueEq]
  dsimp only
  split
  case h_1 behind comma =>
    obtain ⟨_, rfl⟩ := List.cons.inj (comma.symm.trans goesOn)
    exact gives _
  case h_2 behind closing => cases closing.symm.trans goesOn
  case h_3 stops _ => exact absurd goesOn (stops _)

theorem value_emptyObject (start : skip text = '\x7b' :: rest) (closed : skip rest = '\x7d' :: after) :
    (value text).Gives (.object []) after := by
  rw [value_of_skip start, if_neg (by decide), if_pos rfl]
  split
  case h_1 behind closing =>
    obtain ⟨_, rfl⟩ := List.cons.inj (closing.symm.trans closed)
    exact ⟨_, rfl⟩
  case h_2 unclosed => exact absurd closed (unclosed _)

theorem value_object (start : skip text = '\x7b' :: rest) (full : ∀ behind, skip rest ≠ '\x7d' :: behind)
    (gives : ∀ fits, (fields text.length [] rest fits).Gives v after) : (value text).Gives v after := by
  rw [value_of_skip start, if_neg (by decide), if_pos rfl]
  split
  case h_1 behind closing => exact absurd closing (full behind)
  case h_2 => exact gives _

/-- What comes after a field is shorter than the fields. -/
theorem length_lt_of_field {quoted behindKey valueText behind : List Char} {c : Char}
    (start : skip text = '"' :: quoted) (named : inside [] quoted = some (key, behindKey))
    (colon : skip behindKey = ':' :: valueText) (shorter : rest.length < valueText.length)
    (next : skip rest = c :: behind) : behind.length < text.length := by
  have := length_lt_of_inside named
  have := length_lt_of_skip next
  have := length_lt_of_skip colon
  have := length_lt_of_skip start
  omega

theorem fields_of_key {quoted behindKey valueText : List Char} (fits : text.length < bound)
    (start : skip text = '"' :: quoted) (named : inside [] quoted = some (key, behindKey))
    (colon : skip behindKey = ':' :: valueText) (shorter : rest.length < valueText.length)
    (first : value valueText = ⟨item, some ⟨rest, shorter⟩⟩) :
    fields bound reversedFields text fits =
      match e : skip rest with
      | ',' :: more =>
        fields bound ((key, item) :: reversedFields) more
          (Nat.lt_trans (length_lt_of_field start named colon shorter e) fits)
      | '\x7d' :: after =>
        ⟨.object ((key, item) :: reversedFields).reverse,
          some ⟨after, Nat.lt_trans (length_lt_of_field start named colon shorter e) fits⟩⟩
      | _ => ⟨.object (("", .broken) :: (key, item) :: reversedFields).reverse, none⟩ := by
  rw [fields.eq_def]
  split
  case h_1 quoted' start' =>
    obtain ⟨_, rfl⟩ := List.cons.inj (start'.symm.trans start)
    split
    case h_1 nameless => cases nameless.symm.trans named
    case h_2 key' behind named' =>
      obtain ⟨rfl, rfl⟩ := Prod.mk.inj (Option.some.inj (named'.symm.trans named))
      split
      case h_1 valueText' colon' =>
        obtain ⟨_, rfl⟩ := List.cons.inj (colon'.symm.trans colon)
        generalize value valueText' = read at first
        subst first
        rfl
      case h_2 noColon => exact absurd colon (noColon _)
  case h_2 noKey => exact absurd start (noKey _)

theorem fields_last {quoted behindKey valueText : List Char} (fits : text.length < bound)
    (start : skip text = '"' :: quoted) (named : inside [] quoted = some (key, behindKey))
    (colon : skip behindKey = ':' :: valueText) (first : (value valueText).Gives item rest)
    (closed : skip rest = '\x7d' :: after) :
    (fields bound reversedFields text fits).Gives (.object ((key, item) :: reversedFields).reverse) after := by
  obtain ⟨shorter, valueEq⟩ := first
  rw [fields_of_key fits start named colon shorter valueEq]
  split
  case h_1 behind comma => cases comma.symm.trans closed
  case h_2 behind closing =>
    obtain ⟨_, rfl⟩ := List.cons.inj (closing.symm.trans closed)
    exact ⟨_, rfl⟩
  case h_3 unclosed => exact absurd closed (unclosed _)

theorem fields_next {quoted behindKey valueText : List Char} (fits : text.length < bound)
    (start : skip text = '"' :: quoted) (named : inside [] quoted = some (key, behindKey))
    (colon : skip behindKey = ':' :: valueText) (first : (value valueText).Gives item rest)
    (goesOn : skip rest = ',' :: more)
    (gives : ∀ fits, (fields bound ((key, item) :: reversedFields) more fits).Gives v after) :
    (fields bound reversedFields text fits).Gives v after := by
  obtain ⟨shorter, valueEq⟩ := first
  rw [fields_of_key fits start named colon shorter valueEq]
  split
  case h_1 behind comma =>
    obtain ⟨_, rfl⟩ := List.cons.inj (comma.symm.trans goesOn)
    exact gives _
  case h_2 behind closing => cases closing.symm.trans goesOn
  case h_3 stops _ => exact absurd goesOn (stops _)

end Reader

end DensityGraph.Json
