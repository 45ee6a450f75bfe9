import DensityGraph.Proofs.Declaration.Elaboration
import DensityGraph.Proofs.Declaration.Names
import DensityGraph.Proofs.Declaration.Numerals
import DensityGraph.Proofs.Declaration.ProductText
import DensityGraph.Proofs.Number.Midpoint

/-!
# Declared ranges

A name with two numbers declares a free parameter whose value is their midpoint.
The midpoint lies between the numbers unless their sum is too large for a number,
and then the declaration is refused.
-/

namespace DensityGraph

variable {table : Table} {x lo hi : String} {value lower upper : Float}

namespace Declaration

open DensityGraph.Text (Placed Tokens)

/-- The text that declares a name with a range. -/
def rangeText (x lo hi : String) : String := x ++ "[" ++ lo ++ "," ++ hi ++ "]"

/-- What is read from the tokens of a range. -/
theorem ofTokens_range {start opened first comma second close ends : Nat} :
    ofTokens ⟨[⟨.identifier x, start⟩, ⟨.leftBracket, opened⟩, ⟨.number lower lo, first⟩, ⟨.comma, comma⟩,
      ⟨.number upper hi, second⟩, ⟨.rightBracket, close⟩], ends⟩ =
        .ok (.free x (Bounds.midpoint ⟨lower, upper⟩) lower upper start) := by
  simp [ofTokens, Parser.body, Parser.free, Parser.number, Parser.numbersTail, Parser.expect, Parser.freeOf,
    Text.Parsed.replace]

theorem parse_range (isName : isIdentifier x.toList = true) (lowerRead : Decimal.readFinite? lo.toList = some lower)
    (upperRead : Decimal.readFinite? hi.toList = some upper) :
    ∃ offset, parse (rangeText x lo hi) = .ok (.free x (Bounds.midpoint ⟨lower, upper⟩) lower upper offset) := by
  have text : (rangeText x lo hi).toList = x.toList ++ '[' :: (lo.toList ++ ',' :: (hi.toList ++ [']'])) := by
    simp [rangeText]
  have spells : Lexer.Spells (rangeText x lo hi).toList
      [.identifier x, .leftBracket, .number lower lo, .comma, .number upper hi, .rightBracket] := by
    rw [text]
    apply Lexer.Spells.identifier isName (Lexer.delimited_cons (by decide))
    apply Lexer.Spells.punctuation (by decide) rfl
    apply Lexer.Spells.number lowerRead (Lexer.endsNumber_cons (by decide))
    apply Lexer.Spells.punctuation (by decide) rfl
    apply Lexer.Spells.number upperRead (Lexer.endsNumber_cons (by decide))
    exact Lexer.Spells.punctuation (by decide) rfl Lexer.spells_nil
  obtain ⟨items, ran, values⟩ := spells 0
  obtain ⟨start, _, rfl, afterName⟩ := exists_placed values
  obtain ⟨opened, _, rfl, afterOpened⟩ := exists_placed afterName
  obtain ⟨first, _, rfl, afterFirst⟩ := exists_placed afterOpened
  obtain ⟨comma, _, rfl, afterComma⟩ := exists_placed afterFirst
  obtain ⟨second, _, rfl, afterSecond⟩ := exists_placed afterComma
  obtain ⟨close, _, rfl, none⟩ := exists_placed afterSecond
  obtain rfl := List.map_eq_nil_iff.mp none
  refine ⟨start, ?_⟩
  rw [parse, tokenize, ran]
  exact ofTokens_range

theorem elaborate_free (offset : Nat) : elaborate (.free x value lower upper offset) table = (do
    let p ← Parameter.free x value lower upper
    let changed ← table.declareParameter p
    return (x, changed)) := by
  have noCycle : (!table.contains x && namesItself (.free x value lower upper offset)) = false :=
    Bool.and_false _
  rw [elaborate, elaborateWith]
  change (if (!table.contains x && namesItself (.free x value lower upper offset)) = true then
    _ else _ : Elaborator String) table = _
  rw [if_neg (Bool.eq_false_iff.mp noCycle)]
  change (Elaborator.check (fun _ => Parameter.free x value lower upper) >>= fun p =>
    Elaborator.change (fun table => table.declareParameter p) >>= fun _ => pure x : Elaborator String) table = _
  cases made : Parameter.free x value lower upper with
  | error e => simp [Elaborator.check, bind, StateT.bind, Except.bind]
  | ok p =>
      cases declared : table.declareParameter p with
      | error e => simp [declared, Elaborator.check, Elaborator.change, bind, StateT.bind, Except.bind]
      | ok changed =>
          simp [declared, Elaborator.check, Elaborator.change, bind, StateT.bind, Except.bind, pure, StateT.pure,
            Except.pure]

end Declaration

namespace Parameter

/-- A free parameter with its value at the midpoint can be made exactly if the sum of its bounds is finite. -/
theorem free_midpoint (valid : Bounds.valid ⟨lower, upper⟩ = true) :
    free x (Bounds.midpoint ⟨lower, upper⟩) lower upper =
      if (lower + upper).isFinite then .ok ⟨x, .free (Bounds.midpoint ⟨lower, upper⟩) ⟨lower, upper⟩⟩
      else .error (.outOfBounds x (Bounds.midpoint ⟨lower, upper⟩) lower upper) := by
  have admitted := Bounds.admits_midpoint valid
  simp only [free, checkedBounds, valid, if_true, admitted]

end Parameter

namespace Table

/-- A range declares a free parameter at its midpoint, which is finite and lies within
it, if the sum of its ends is finite; otherwise the declaration is refused.  The same
condition decides about the midpoint of any bounds that are accepted. -/
theorem declare_range (isName : isIdentifier x.toList = true) (new : x ∉ table.names)
    (lowerRead : Decimal.readFinite? lo.toList = some lower) (upperRead : Decimal.readFinite? hi.toList = some upper)
    (ordered : lower ≤ upper) :
    ((lower + upper).isFinite = true → ∃ middle, middle = Bounds.midpoint ⟨lower, upper⟩ ∧
        middle.isFinite = true ∧ lower ≤ middle ∧ middle ≤ upper ∧
          table.declare (Declaration.rangeText x lo hi) =
            .ok (x, table.push (.parameter ⟨x, .free middle ⟨lower, upper⟩⟩))) ∧
      ((lower + upper).isFinite = false → table.declare (Declaration.rangeText x lo hi) =
        .error (.outOfBounds x (Bounds.midpoint ⟨lower, upper⟩) lower upper)) ∧
      ∀ name least greatest bounds, Parameter.checkedBounds name least greatest = .ok bounds →
        bounds = ⟨least, greatest⟩ ∧
          ((bounds.midpoint.isFinite = true ∧ least ≤ bounds.midpoint ∧ bounds.midpoint ≤ greatest) ↔
            (least + greatest).isFinite = true) := by
  have finite {text : List Char} {number : Float} (read : Decimal.readFinite? text = some number) :
      number.isFinite = true := (Option.filter_eq_some_iff.mp read).2
  have valid : Bounds.valid ⟨lower, upper⟩ = true :=
    Bounds.valid_iff.2 ⟨finite lowerRead, finite upperRead, ordered⟩
  obtain ⟨offset, parsed⟩ := Declaration.parse_range isName lowerRead upperRead
  have declares : table.declare (Declaration.rangeText x lo hi) = (do
      let p ← Parameter.free x (Bounds.midpoint ⟨lower, upper⟩) lower upper
      let changed ← table.declareParameter p
      return (x, changed)) := by
    rw [declare, parsed]
    exact Declaration.elaborate_free offset
  refine ⟨fun sumFinite => ?_, fun sumInfinite => ?_, fun name least greatest bounds accepted => ?_⟩
  · obtain ⟨above, below⟩ := Number.midpoint_between (finite lowerRead) (finite upperRead) ordered sumFinite
    refine ⟨_, rfl, Number.isFinite_of_between (finite lowerRead) (finite upperRead) above below, above, below, ?_⟩
    have declared : table.declareParameter ⟨x, .free (Bounds.midpoint ⟨lower, upper⟩) ⟨lower, upper⟩⟩ =
        .ok (table.push (.parameter ⟨x, .free (Bounds.midpoint ⟨lower, upper⟩) ⟨lower, upper⟩⟩)) :=
      declareParameter_eq_ok.2 ⟨isValidName_of_isIdentifier isName, new, by simp [Parameter.dependencies], rfl⟩
    rw [declares, Parameter.free_midpoint valid, if_pos sumFinite, ok_bind, declared]
    rfl
  · rw [declares, Parameter.free_midpoint valid, if_neg (by simp [sumInfinite])]
    rfl
  · unfold Parameter.checkedBounds at accepted
    dsimp only at accepted
    split at accepted
    · rename_i validToo
      obtain rfl := Except.ok.inj accepted
      refine ⟨rfl, ?_⟩
      rw [← Bounds.admits_midpoint validToo, Parameter.admits_iff, Bounds.contains_iff]
    · cases accepted

/-- The widest range with short ends has a midpoint, which is zero. -/
theorem declare_range_widest : ∃ middle : Float, middle.isFinite = true ∧ -1.7e308 ≤ middle ∧ middle ≤ 1.7e308 ∧
    empty.declare (Declaration.rangeText "x" "-1.7e308" "1.7e308") =
      .ok ("x", empty.push (.parameter ⟨"x", .free middle ⟨-1.7e308, 1.7e308⟩⟩)) := by
  obtain ⟨midpoint, _⟩ := @declare_range empty "x" "-1.7e308" "1.7e308" (-1.7e308) 1.7e308 (by decide +kernel)
    (by decide) (by decide +kernel) (by decide +kernel) (by decide +kernel)
  obtain ⟨middle, _, found⟩ := midpoint (by decide +kernel)
  exact ⟨middle, found⟩

/-- The sum of two large ends is no finite number, and nor is the midpoint. -/
theorem not_declared_largeRange : isIdentifier "x".toList = true ∧ "x" ∉ empty.names ∧
    Decimal.readFinite? "1e308".toList = some 1e308 ∧ Decimal.readFinite? "1.7e308".toList = some 1.7e308 ∧
    (1e308 : Float) ≤ 1.7e308 ∧
    (empty.declare (Declaration.rangeText "x" "1e308" "1.7e308")).toOption.isSome = false ∧
    ∃ bounds, Parameter.checkedBounds "x" 1e308 1.7e308 = .ok bounds ∧ bounds.midpoint.isFinite = false := by
  refine ⟨by decide +kernel, by decide, by decide +kernel, by decide +kernel, by decide +kernel, by decide +kernel,
    ⟨1e308, 1.7e308⟩, by decide +kernel, by decide +kernel⟩

end Table

end DensityGraph
