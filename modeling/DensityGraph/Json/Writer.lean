import DensityGraph.Json.Value

/-! # Writing JSON -/

namespace DensityGraph.Json

/-- A hexadecimal digit, in lower case. -/
def hexDigit (n : Nat) : Char :=
  Char.ofNat (if n < 10 then '0'.toNat + n else 'a'.toNat + (n - 10))

/-- One character inside a quoted text. -/
def escapeChar (c : Char) : List Char :=
  if c = '"' then ['\\', '"']
  else if c = '\\' then ['\\', '\\']
  else if c = '\n' then ['\\', 'n']
  else if c = '\r' then ['\\', 'r']
  else if c = '\t' then ['\\', 't']
  else if c = '\x08' then ['\\', 'b']
  else if c = '\x0c' then ['\\', 'f']
  else if c.toNat < 0x20 then ['\\', 'u', '0', '0', hexDigit (c.toNat / 16), hexDigit (c.toNat % 16)]
  else [c]

def quote (text : String) : String :=
  "\"" ++ String.ofList (text.toList.flatMap escapeChar) ++ "\""

/-- A number; one that is not finite has no JSON form and is null. -/
def numberText : Number → String
  | .whole negative magnitude => (if negative then "-" else "") ++ toString magnitude
  | .real value => if value.isFinite then Decimal.text Decimal.document value else "null"

mutual

/-- A value without blanks. -/
def compact : Json → String
  | null => "null"
  | bool value => if value then "true" else "false"
  | number value => numberText value
  | string text => quote text
  | array items => "[" ++ compactItems items ++ "]"
  | object fields => "\x7b" ++ compactFields fields ++ "\x7d"
  | broken => "null"

def compactItems : List Json → String
  | [] => ""
  | [item] => item.compact
  | item :: rest => item.compact ++ "," ++ compactItems rest

def compactFields : List (String × Json) → String
  | [] => ""
  | [(key, value)] => quote key ++ ":" ++ value.compact
  | (key, value) :: rest => quote key ++ ":" ++ value.compact ++ "," ++ compactFields rest

end

/-- The number of bytes that a character takes inside a quoted text. -/
def escapedSize (c : Char) : Nat :=
  if c.toNat < 0x20 ∨ c = '"' ∨ c = '\\' then (escapeChar c).length else c.utf8Size

def quotedSize (text : String) : Nat := text.toList.foldl (fun size c => size + escapedSize c) 2

mutual

/-- The number of bytes of a value without blanks, which is known before they are written. -/
def compactSize : Json → Nat
  | null | broken => 4
  | bool value => if value then 4 else 5
  | number value => (numberText value).utf8ByteSize
  | string text => quotedSize text
  | array items => compactItemsSize items + 2
  | object fields => compactFieldsSize fields + 2

def compactItemsSize : List Json → Nat
  | [] => 0
  | [item] => item.compactSize
  | item :: rest => item.compactSize + 1 + compactItemsSize rest

def compactFieldsSize : List (String × Json) → Nat
  | [] => 0
  | [(key, value)] => quotedSize key + 1 + value.compactSize
  | (key, value) :: rest => quotedSize key + 1 + value.compactSize + 1 + compactFieldsSize rest

end

/-- The start of a line that is `depth` levels deep. -/
def indent (depth : Nat) : String := "\n" ++ String.ofList (List.replicate (2 * depth) ' ')

mutual

/-- A value on several lines, `depth` levels deep, two blanks a level. -/
def prettyAt (depth : Nat) : Json → String
  | array items =>
    if items.isEmpty then "[]" else "[" ++ prettyItems (depth + 1) items ++ indent depth ++ "]"
  | object fields =>
    if fields.isEmpty then "\x7b\x7d"
    else "\x7b" ++ prettyFields (depth + 1) fields ++ indent depth ++ "\x7d"
  | null => "null"
  | bool value => if value then "true" else "false"
  | number value => numberText value
  | string text => quote text
  | broken => "null"

def prettyItems (depth : Nat) : List Json → String
  | [] => ""
  | [item] => indent depth ++ item.prettyAt depth
  | item :: rest => indent depth ++ item.prettyAt depth ++ "," ++ prettyItems depth rest

def prettyFields (depth : Nat) : List (String × Json) → String
  | [] => ""
  | [(key, value)] => indent depth ++ quote key ++ ": " ++ value.prettyAt depth
  | (key, value) :: rest =>
    indent depth ++ quote key ++ ": " ++ value.prettyAt depth ++ "," ++ prettyFields depth rest

end

/-- A value on several lines. -/
def pretty (value : Json) : String := value.prettyAt 0

end DensityGraph.Json
