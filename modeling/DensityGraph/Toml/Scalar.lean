import DensityGraph.Decimal.Reading
import DensityGraph.Json.Reader
import DensityGraph.Timestamp
import DensityGraph.Toml.Value

/-! # Texts, numbers and moments of TOML documents -/

namespace DensityGraph.Toml

open DensityGraph.Decimal (isDigit digitsValue takeSign)
open DensityGraph.Json.Reader (hexValue?)

/-- A character that can stand in a comment and, apart from its quotes, in a text. -/
def isPlain (c : Char) : Bool := c == '\t' || (0x20 ≤ c.toNat && c.toNat != 0x7f)

def isSpace (c : Char) : Bool := c == ' ' || c == '\t'

def newline? : List Char → Option (List Char)
  | '\n' :: rest => some rest
  | '\r' :: '\n' :: rest => some rest
  | _ => none

/-- The character of a number in hexadecimal digits. -/
def charOf? (digits : List Char) : Option Char := do
  let n := (← digits.mapM hexValue?).foldl (fun n d => 16 * n + d) 0
  if n.isValidChar then some (Char.ofNat n) else none

/-- The character that an escape behind a backslash stands for, and its length. -/
def escape? : List Char → Option (Char × Nat)
  | 'b' :: _ => some ('\x08', 1)
  | 't' :: _ => some ('\t', 1)
  | 'n' :: _ => some ('\n', 1)
  | 'f' :: _ => some ('\x0c', 1)
  | 'r' :: _ => some ('\r', 1)
  | '"' :: _ => some ('"', 1)
  | '\\' :: _ => some ('\\', 1)
  | 'u' :: rest => if 4 ≤ rest.length then (charOf? (rest.take 4)).map fun c => (c, 5) else none
  | 'U' :: rest => if 8 ≤ rest.length then (charOf? (rest.take 8)).map fun c => (c, 9) else none
  | _ => none

/-- A text with escapes on one line, up to its closing quote; `before` is what has been read, backwards. -/
def basic? (before : List Char) : List Char → Option (String × List Char)
  | [] => none
  | c :: rest =>
    if c = '"' then some (String.ofList before.reverse, rest)
    else if c = '\\' then
      match escape? rest with
      | some (e, length) => basic? (e :: before) (rest.drop length)
      | none => none
    else if isPlain c then basic? (c :: before) rest
    else none
termination_by text => text.length
decreasing_by all_goals simp; try omega

/-- A text without escapes on one line, up to its closing apostrophe. -/
def literal? (text : List Char) : Option (String × List Char) :=
  let inside := text.takeWhile fun c => c != '\'' && isPlain c
  match text.drop inside.length with
  | '\'' :: rest => some (String.ofList inside, rest)
  | _ => none

/-- What follows blanks and ends of lines. -/
def skipBlankLines : List Char → List Char
  | [] => []
  | c :: rest =>
    if isSpace c || c == '\n' then skipBlankLines rest
    else if c = '\r' then
      match rest with
      | '\n' :: rest => skipBlankLines rest
      | _ => c :: rest
    else c :: rest

/-- What follows a backslash at the end of a line, and all blanks behind it. -/
def continuation? (text : List Char) : Option (List Char) :=
  match newline? (text.dropWhile isSpace) with
  | some rest => some (skipBlankLines rest)
  | none => none

/-- A text on several lines between three quotes each, up to the closing ones.  Two more quotes may stand in front
of those and belong to the text.  Escapes are read only with `escapes`. -/
def multiline? (quote : Char) (escapes : Bool) (before : List Char) : List Char → Option (String × List Char)
  | [] => none
  | c :: rest =>
    if c = quote then
      let count := min 5 (1 + (rest.takeWhile (· == quote)).length)
      if count < 3 then multiline? quote escapes (c :: before) rest
      else some (String.ofList (List.replicate (count - 3) quote ++ before).reverse, rest.drop (count - 1))
    else if c = '\\' && escapes then
      match continuation? rest with
      | some after =>
        if after.length ≤ rest.length then multiline? quote escapes before after else none
      | none =>
        match escape? rest with
        | some (e, length) => multiline? quote escapes (e :: before) (rest.drop length)
        | none => none
    else if c = '\n' then multiline? quote escapes ('\n' :: before) rest
    else if c = '\r' then
      match rest with
      | '\n' :: rest => multiline? quote escapes ('\n' :: before) rest
      | _ => none
    else if isPlain c then multiline? quote escapes (c :: before) rest
    else none
termination_by text => text.length
decreasing_by all_goals simp_all; try omega

/-- A text of any kind, and what follows. -/
def text? : List Char → Option (String × List Char)
  | '"' :: '"' :: '"' :: rest => multiline? '"' true [] ((newline? rest).getD rest)
  | '"' :: rest => basic? [] rest
  | '\'' :: '\'' :: '\'' :: rest => multiline? '\'' false [] ((newline? rest).getD rest)
  | '\'' :: rest => literal? rest
  | _ => none

/-- Digits that may have single underscores between them. -/
def grouped? (digit : Char → Bool) : List Char → Option (List Char)
  | [] => none
  | [d] => if digit d then some [d] else none
  | d :: '_' :: rest => if digit d then (grouped? digit rest).map (d :: ·) else none
  | d :: rest => if digit d then (grouped? digit rest).map (d :: ·) else none

/-- Decimal digits without zeros in front. -/
def whole? (text : List Char) : Option (List Char) := do
  let digits ← grouped? isDigit text
  if 1 < digits.length && digits.head? == some '0' then none else some digits

/-- An integer of 64 bits. -/
def fitting? (value : Int) : Option Toml :=
  if -0x8000000000000000 ≤ value && value < 0x8000000000000000 then some (.integer value) else none

/-- An integer behind a mark for its base. -/
def based? (base : Nat) (digits : List Char) : Option Toml := do
  let digits ← grouped? (fun c => (hexValue? c).any (· < base)) digits
  let n := (← digits.mapM hexValue?).foldl (fun n d => base * n + d) 0
  fitting? n

def exponent? : List Char → Option Int
  | [] => some 0
  | mark :: rest =>
    if mark = 'e' || mark = 'E' then
      let (negative, rest) := takeSign rest
      (grouped? isDigit rest).map fun digits =>
        let size : Int := digitsValue 0 digits
        if negative then -size else size
    else none

/-- A character of a group of decimal digits. -/
def isGroupDigit (c : Char) : Bool := isDigit c || c == '_'

/-- A number with a fraction or an exponent behind its sign. -/
def real? (negative : Bool) (text : List Char) : Option Toml := do
  let whole ← whole? (text.takeWhile isGroupDigit)
  let (fraction, rest) ← match text.dropWhile isGroupDigit with
    | '.' :: rest =>
      (grouped? isDigit (rest.takeWhile isGroupDigit)).map fun digits => (digits, rest.dropWhile isGroupDigit)
    | rest => some ([], rest)
  let exponent ← exponent? rest
  let value := Decimal.Literal.toFloat
    ⟨negative, digitsValue (digitsValue 0 whole) fraction, exponent - fraction.length⟩
  if value == Float.ofBits 0x7ff0000000000000 then none else some (.float value)

/-- The number that a word spells. -/
def number? (word : List Char) : Option Toml :=
  let (negative, rest) := takeSign word
  match rest with
  | ['i', 'n', 'f'] => some (.float (Float.ofBits (if negative then 0xfff0000000000000 else 0x7ff0000000000000)))
  | ['n', 'a', 'n'] => some (.float (Float.ofBits 0x7ff8000000000000))
  | _ =>
    match word with
    | '0' :: 'x' :: digits => based? 16 digits
    | '0' :: 'o' :: digits => based? 8 digits
    | '0' :: 'b' :: digits => based? 2 digits
    | _ =>
      match whole? rest with
      | some digits =>
        let size : Int := digitsValue 0 digits
        fitting? (if negative then -size else size)
      | none => real? negative rest

/-- The number of two digits at the front of a text that is at most `most`, and what follows. -/
def pair? (most : Nat) (text : List Char) : Option (Nat × List Char) :=
  (Timestamp.twoDigits? text).filter fun (n, _) => n ≤ most

def after? (c : Char) : List Char → Option (List Char)
  | first :: rest => if first = c then some rest else none
  | [] => none

def date? (text : List Char) : Option (List Char) := do
  let (century, rest) ← pair? 99 text
  let (year, rest) ← pair? 99 rest
  let (month, rest) ← pair? 12 (← after? '-' rest)
  let (day, rest) ← pair? 31 (← after? '-' rest)
  if 1 ≤ month && 1 ≤ day && day ≤ Timestamp.daysInMonth (100 * century + year : Nat) month then some rest
  else none

def time? (text : List Char) : Option (List Char) := do
  let (_, rest) ← pair? 23 text
  let (_, rest) ← pair? 59 (← after? ':' rest)
  let (_, rest) ← pair? 60 (← after? ':' rest)
  let (_, rest) ← Timestamp.fraction? rest
  return rest

/-- A text that is nothing or an offset from universal time. -/
def isOffset : List Char → Bool
  | [] => true
  | ['Z'] => true
  | ['z'] => true
  | sign :: rest =>
    (sign == '+' || sign == '-') &&
      (do let (_, rest) ← pair? 23 rest
          let (_, rest) ← pair? 59 (← after? ':' rest)
          return rest.isEmpty : Option Bool).getD false

/-- A text that is a time of day with or without an offset. -/
def isClock (text : List Char) : Bool := (time? text).any isOffset

/-- A word that is a moment. -/
def isMoment (word : List Char) : Bool :=
  match date? word with
  | some [] => true
  | some (mark :: rest) => (mark == 'T' || mark == 't') && isClock rest
  | none => (time? word).any (·.isEmpty)

/-- A character of a number or a moment. -/
def isWordChar (c : Char) : Bool :=
  c.isAlphanum || c == '_' || c == '+' || c == '-' || c == '.' || c == ':'

/-- What follows a date that a time of day follows behind a blank, or the same text. -/
def skipClock (word : List Char) : List Char → List Char
  | ' ' :: rest =>
    let clock := rest.takeWhile isWordChar
    if date? word == some [] && isClock clock then rest.drop clock.length else ' ' :: rest
  | rest => rest

/-- A value that is a word, and what follows. -/
def word? (text : List Char) : Option (Toml × List Char) :=
  let word := text.takeWhile isWordChar
  let rest := text.drop word.length
  match word with
  | ['t', 'r', 'u', 'e'] => some (.boolean true, rest)
  | ['f', 'a', 'l', 's', 'e'] => some (.boolean false, rest)
  | _ =>
    if isMoment word then some (.moment, skipClock word rest)
    else (number? word).map fun value => (value, rest)

/-- A value that holds no others, and what follows. -/
def scalar? (text : List Char) : Option (Toml × List Char) :=
  match text with
  | '"' :: _ | '\'' :: _ => (text? text).map fun (value, rest) => (.string value, rest)
  | _ => word? text

end DensityGraph.Toml
