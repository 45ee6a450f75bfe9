import DensityGraph.Decimal.Reading
import DensityGraph.Json.Value

/-! # Reading JSON

Reading never fails: where the text stops being JSON the value read so far ends with `Json.broken`.
-/

namespace DensityGraph.Json

open DensityGraph.Decimal (isDigit digitsValue)

namespace Reader

/-- A value that may be broken off, and what follows if it is not. -/
structure Read (bound : Nat) where
  value : Json
  rest? : Option { rest : List Char // rest.length < bound }

/-- A blank between the tokens of a document. -/
def isSpace (c : Char) : Bool := c == ' ' || c == '\t' || c == '\n' || c == '\r'

def skip (text : List Char) : List Char := text.dropWhile isSpace

theorem length_skip_le (text : List Char) : (skip text).length ≤ text.length :=
  (List.dropWhile_suffix _).length_le

theorem length_lt_of_skip {text rest : List Char} {c : Char} (h : skip text = c :: rest) :
    rest.length < text.length := by
  have shorter := length_skip_le text
  rw [h, List.length_cons] at shorter
  omega

def hexValue? (c : Char) : Option Nat :=
  if isDigit c then some (c.toNat - '0'.toNat)
  else if 'a' ≤ c && c ≤ 'f' then some (c.toNat - 'a'.toNat + 10)
  else if 'A' ≤ c && c ≤ 'F' then some (c.toNat - 'A'.toNat + 10)
  else none

/-- The number that four hexadecimal digits spell. -/
def unit? (a b c d : Char) : Option Nat := do
  let a ← hexValue? a
  let b ← hexValue? b
  let c ← hexValue? c
  let d ← hexValue? d
  return ((a * 16 + b) * 16 + c) * 16 + d

/-- The character behind a backslash, other than `u`. -/
def escaped? : Char → Option Char
  | '"' => some '"'
  | '\\' => some '\\'
  | '/' => some '/'
  | 'b' => some '\x08'
  | 'f' => some '\x0c'
  | 'n' => some '\n'
  | 'r' => some '\r'
  | 't' => some '\t'
  | _ => none

/-- A 16-bit unit that is the first half of a pair. -/
def isLeading (n : Nat) : Bool := 0xd800 ≤ n && n < 0xdc00

/-- A 16-bit unit that is the second half of a pair. -/
def isTrailing (n : Nat) : Bool := 0xdc00 ≤ n && n < 0xe000

/-- The inside of a quoted text and what follows its closing quote; `before` is what has been read,
backwards. -/
def inside (before : List Char) : List Char → Option (String × List Char)
  | [] => none
  | '"' :: rest => some (String.ofList before.reverse, rest)
  | '\\' :: 'u' :: a :: b :: c :: d :: rest =>
    match unit? a b c d with
    | none => none
    | some n =>
      if isLeading n then
        match rest with
        | '\\' :: 'u' :: a' :: b' :: c' :: d' :: rest =>
          match unit? a' b' c' d' with
          | none => none
          | some m =>
            if isTrailing m then
              inside (Char.ofNat (0x10000 + (n - 0xd800) * 0x400 + (m - 0xdc00)) :: before) rest
            else none
        | _ => none
      else if isTrailing n then none
      else inside (Char.ofNat n :: before) rest
  | '\\' :: c :: rest =>
    match escaped? c with
    | none => none
    | some e => inside (e :: before) rest
  | c :: rest => if c = '\\' || c.toNat < 0x20 then none else inside (c :: before) rest

theorem length_lt_of_inside {before text rest : List Char} {s : String}
    (h : inside before text = some (s, rest)) : rest.length < text.length := by
  fun_induction inside before text with
  | case2 before rest' =>
    obtain ⟨-, rfl⟩ := Prod.mk.injEq .. ▸ Option.some.inj h
    exact Nat.lt_succ_self _
  | case5 | case9 | case11 | case13 =>
    rename_i shorter
    have := shorter h
    simp only [List.length_cons]
    omega
  | _ => cases h

/-- Digits in front of a text, one at least. -/
def digits? (text : List Char) : Option (List Char × List Char) :=
  match text.takeWhile isDigit with
  | [] => none
  | digits => some (digits, text.dropWhile isDigit)

/-- An exponent with its mark, if one comes next. -/
def exponent? : List Char → Option (Option Int × List Char)
  | mark :: rest =>
    if mark = 'e' || mark = 'E' then
      let (negative, rest) := Decimal.takeSign rest
      (digits? rest).map fun (digits, rest) =>
        let size : Int := digitsValue 0 digits
        (some (if negative then -size else size), rest)
    else some (none, mark :: rest)
  | [] => some (none, [])

/-- A fraction with its point, if one comes next. -/
def fraction? : List Char → Option (List Char × List Char)
  | '.' :: rest => digits? rest
  | rest => some ([], rest)

/-- A number behind its sign, and what follows. -/
def number? (negative : Bool) (text : List Char) : Option (Number × List Char) := do
  let (whole, rest) ← digits? text
  if 1 < whole.length && whole.head? == some '0' then none
  let (fraction, rest) ← fraction? rest
  let (exponent, rest) ← exponent? rest
  let magnitude := digitsValue (digitsValue 0 whole) fraction
  match fraction, exponent with
  | [], none => return (.whole negative magnitude, rest)
  | fraction, exponent =>
    return (.real (Decimal.Literal.toFloat ⟨negative, magnitude, exponent.getD 0 - fraction.length⟩), rest)

/-- Keeps what follows only if it is shorter than the text was. -/
def shorterThan (bound : Nat) (value : Json) (rest : List Char) : Read bound :=
  if h : rest.length < bound then ⟨value, some ⟨rest, h⟩⟩ else ⟨.broken, none⟩

/-- The value that a word stands for, if the text goes on with the word. -/
def word (bound : Nat) (letters : List Char) (value : Json) (text : List Char) : Read bound :=
  if letters.isPrefixOf text then shorterThan bound value (text.drop letters.length) else ⟨.broken, none⟩

/-- A value that is neither an array nor an object, from its first character on. -/
def simple (bound : Nat) (c : Char) (rest : List Char) : Read bound :=
  if c = '"' then
    match inside [] rest with
    | none => ⟨.broken, none⟩
    | some (quoted, after) => shorterThan bound (.string quoted) after
  else if c = '-' then
    match number? true rest with
    | none => ⟨.broken, none⟩
    | some (n, after) => shorterThan bound (.number n) after
  else if isDigit c then
    match number? false (c :: rest) with
    | none => ⟨.broken, none⟩
    | some (n, after) => shorterThan bound (.number n) after
  else if c = 't' then word bound ['r', 'u', 'e'] (.bool true) rest
  else if c = 'f' then word bound ['a', 'l', 's', 'e'] (.bool false) rest
  else if c = 'n' then word bound ['u', 'l', 'l'] .null rest
  else ⟨.broken, none⟩

mutual

/-- A value, with blanks in front. -/
def value (text : List Char) : Read text.length :=
  match h : skip text with
  | [] => ⟨.broken, none⟩
  | c :: rest =>
    if c = '[' then
      match g : skip rest with
      | ']' :: after => ⟨.array [], some ⟨after,
          Nat.lt_trans (length_lt_of_skip g) (length_lt_of_skip h)⟩⟩
      | _ => items text.length [] rest (length_lt_of_skip h)
    else if c = '\x7b' then
      match g : skip rest with
      | '\x7d' :: after => ⟨.object [], some ⟨after,
          Nat.lt_trans (length_lt_of_skip g) (length_lt_of_skip h)⟩⟩
      | _ => fields text.length [] rest (length_lt_of_skip h)
    else simple text.length c rest
termination_by 2 * text.length
decreasing_by
  all_goals
    have := length_lt_of_skip h
    omega

/-- The items of an array from the next one on; `before` are those read, backwards. -/
def items (bound : Nat) (before : List Json) (text : List Char) (h : text.length < bound) : Read bound :=
  match value text with
  | ⟨item, none⟩ => ⟨.array (item :: before).reverse, none⟩
  | ⟨item, some rest⟩ =>
    match g : skip rest.val with
    | ',' :: more => items bound (item :: before) more (by
        have := rest.property; have := length_lt_of_skip g; omega)
    | ']' :: after => ⟨.array (item :: before).reverse, some ⟨after, by
        have := rest.property; have := length_lt_of_skip g; omega⟩⟩
    | _ => ⟨.array (.broken :: item :: before).reverse, none⟩
termination_by 2 * text.length + 1
decreasing_by
  · exact Nat.lt_succ_self _
  · have := rest.property; have := length_lt_of_skip g; omega

/-- The fields of an object from the next one on; `before` are those read, backwards. -/
def fields (bound : Nat) (before : List (String × Json)) (text : List Char) (h : text.length < bound) :
    Read bound :=
  match g : skip text with
  | '"' :: quoted =>
    match k : inside [] quoted with
    | none => ⟨.object (("", .broken) :: before).reverse, none⟩
    | some (key, after) =>
      match f : skip after with
      | ':' :: text' =>
        match value text' with
        | ⟨item, none⟩ => ⟨.object ((key, item) :: before).reverse, none⟩
        | ⟨item, some rest⟩ =>
          match e : skip rest.val with
          | ',' :: more => fields bound ((key, item) :: before) more (by
              have := rest.property; have := length_lt_of_inside k; have := length_lt_of_skip e
              have := length_lt_of_skip f; have := length_lt_of_skip g; omega)
          | '\x7d' :: after => ⟨.object ((key, item) :: before).reverse, some ⟨after, by
              have := rest.property; have := length_lt_of_inside k; have := length_lt_of_skip e
              have := length_lt_of_skip f; have := length_lt_of_skip g; omega⟩⟩
          | _ => ⟨.object (("", .broken) :: (key, item) :: before).reverse, none⟩
      | _ => ⟨.object ((key, .broken) :: before).reverse, none⟩
  | _ => ⟨.object (("", .broken) :: before).reverse, none⟩
termination_by 2 * text.length + 1
decreasing_by
  · have := length_lt_of_inside k; have := length_lt_of_skip f; have := length_lt_of_skip g; omega
  · have := rest.property; have := length_lt_of_inside k; have := length_lt_of_skip e
    have := length_lt_of_skip f; have := length_lt_of_skip g; omega

end

end Reader

/-- A value read from a text, and whether nothing but blanks follows it. -/
structure Document where
  value : Json
  complete : Bool

def read (text : List Char) : Document :=
  match Reader.value text with
  | ⟨value, none⟩ => ⟨value, false⟩
  | ⟨value, some rest⟩ => ⟨value, (Reader.skip rest.val).isEmpty⟩

end DensityGraph.Json
