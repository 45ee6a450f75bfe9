import DensityGraph.Json.Writer
import DensityGraph.Proofs.Json.Value
import Mathlib.Algebra.Ring.Nat

/-!
# Sizes of written JSON

The size of a value is counted from its parts before anything is written.  It is the
number of bytes of the text that is written without blanks.
-/

namespace DensityGraph.Json

variable {values : List Json} {entries : List (String × Json)}

theorem utf8ByteSize_ofList (text : List Char) :
    (String.ofList text).utf8ByteSize = (text.map Char.utf8Size).sum := by
  induction text with
  | nil => rfl
  | cons c rest ih =>
      rw [String.ofList_cons, String.utf8ByteSize_append, String.utf8ByteSize_singleton, ih, List.map_cons,
        List.sum_cons]

/-- Every character of an escape takes one byte. -/
theorem utf8Size_escape {c d : Char} (escaped : c.toNat < 0x20 ∨ c = '"' ∨ c = '\\')
    (member : d ∈ escapeChar c) : d.utf8Size = 1 := by
  have digits : ∀ n < 16, (hexDigit n).utf8Size = 1 := by decide
  unfold escapeChar at member
  repeat' split at member
  case isFalse.isFalse.isFalse.isFalse.isFalse.isFalse.isFalse.isTrue control =>
    have high := digits (c.toNat / 16) (by omega)
    have low := digits (c.toNat % 16) (by omega)
    simp only [List.mem_cons, List.not_mem_nil, or_false] at member
    rcases member with rfl | rfl | rfl | rfl | rfl | rfl
    all_goals first | rfl | assumption
  case isFalse.isFalse.isFalse.isFalse.isFalse.isFalse.isFalse.isFalse => simp_all
  all_goals
    simp only [List.mem_cons, List.not_mem_nil, or_false] at member
    rcases member with rfl | rfl <;> rfl

theorem escapeChar_of_plain {c : Char} (plain : ¬ (c.toNat < 0x20 ∨ c = '"' ∨ c = '\\')) : escapeChar c = [c] := by
  obtain ⟨printable, notQuote, notBackslash⟩ : ¬ c.toNat < 0x20 ∧ c ≠ '"' ∧ c ≠ '\\' := by simpa using plain
  have notControl : ∀ d : Char, d.toNat < 0x20 → c ≠ d := fun d control same => printable (same ▸ control)
  unfold escapeChar
  simp only [notQuote, notBackslash, printable, notControl '\n' (by decide), notControl '\r' (by decide),
    notControl '\t' (by decide), notControl '\x08' (by decide), notControl '\x0c' (by decide), if_false]

theorem escapedSize_eq (c : Char) : escapedSize c = ((escapeChar c).map Char.utf8Size).sum := by
  unfold escapedSize
  split
  case isTrue escaped =>
    have ones : (escapeChar c).map Char.utf8Size = (escapeChar c).map fun _ => 1 :=
      List.map_congr_left fun d member => utf8Size_escape escaped member
    rw [ones, List.map_const', List.sum_replicate_nat, Nat.mul_one]
  case isFalse plain => simp [escapeChar_of_plain plain]

theorem quotedSize_eq (text : String) : quotedSize text = (quote text).utf8ByteSize := by
  have folded : ∀ (rest : List Char) (size : Nat), rest.foldl (fun size c => size + escapedSize c) size =
      size + ((rest.flatMap escapeChar).map Char.utf8Size).sum := by
    intro rest
    induction rest with
    | nil => exact fun _ => rfl
    | cons c rest ih =>
        intro size
        rw [List.foldl_cons, ih, List.flatMap_cons, List.map_append, List.sum_append, escapedSize_eq, Nat.add_assoc]
  have mark : ("\"" : String).utf8ByteSize = 1 := rfl
  rw [quotedSize, folded, ← utf8ByteSize_ofList, quote, String.utf8ByteSize_append, String.utf8ByteSize_append, mark]
  omega

theorem compactItemsSize_eq (each : ∀ item ∈ values, item.compactSize = item.compact.utf8ByteSize) :
    compactItemsSize values = (compactItems values).utf8ByteSize := by
  induction values with
  | nil => rfl
  | cons first others ih =>
      rw [List.forall_mem_cons] at each
      cases others with
      | nil => exact each.1
      | cons second later =>
          have comma : ("," : String).utf8ByteSize = 1 := rfl
          change first.compactSize + 1 + compactItemsSize (second :: later) =
            (first.compact ++ "," ++ compactItems (second :: later)).utf8ByteSize
          rw [each.1, ih each.2, String.utf8ByteSize_append, String.utf8ByteSize_append, comma]

theorem compactFieldsSize_eq (each : ∀ field ∈ entries, field.2.compactSize = field.2.compact.utf8ByteSize) :
    compactFieldsSize entries = (compactFields entries).utf8ByteSize := by
  have colon : (":" : String).utf8ByteSize = 1 := rfl
  induction entries with
  | nil => rfl
  | cons first others ih =>
      rw [List.forall_mem_cons] at each
      have own : quotedSize first.1 + 1 + first.2.compactSize =
          (quote first.1 ++ ":" ++ first.2.compact).utf8ByteSize := by
        simp only [String.utf8ByteSize_append, quotedSize_eq, each.1, colon]
      cases others with
      | nil => exact own
      | cons second later =>
          have comma : ("," : String).utf8ByteSize = 1 := rfl
          change quotedSize first.1 + 1 + first.2.compactSize + 1 + compactFieldsSize (second :: later) =
            (quote first.1 ++ ":" ++ first.2.compact ++ "," ++ compactFields (second :: later)).utf8ByteSize
          rw [own, ih each.2]
          simp only [String.utf8ByteSize_append, comma]

/-- The size of a value is the number of bytes that are written for it without blanks. -/
theorem compactSize_eq (v : Json) : v.compactSize = v.compact.utf8ByteSize := by
  induction v using Json.induct with
  | null => rfl
  | bool b => cases b <;> rfl
  | number n => rfl
  | string s => exact quotedSize_eq s
  | array values ih =>
      have marks : ("[" : String).utf8ByteSize = 1 ∧ ("]" : String).utf8ByteSize = 1 := ⟨rfl, rfl⟩
      rw [compactSize, compactItemsSize_eq ih, compact, String.utf8ByteSize_append, String.utf8ByteSize_append,
        marks.1, marks.2]
      omega
  | object entries ih =>
      have marks : ("\x7b" : String).utf8ByteSize = 1 ∧ ("\x7d" : String).utf8ByteSize = 1 := ⟨rfl, rfl⟩
      rw [compactSize, compactFieldsSize_eq ih, compact, String.utf8ByteSize_append, String.utf8ByteSize_append,
        marks.1, marks.2]
      omega
  | broken => rfl

end DensityGraph.Json
