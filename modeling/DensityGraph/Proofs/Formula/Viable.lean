import DensityGraph.Formula.Parser

/-!
# Beginnings of formulas

A text may stop being the beginning of a formula long before it ends.  A walk over the tokens, which keeps
which parentheses are open and whether an operand has to come next, ends where no formula can go on: every
formula is walked to its end.
-/

namespace DensityGraph.Formula

namespace Grammar

/-- The kinds of phrase that the grammar names. -/
inductive Part where
  | sum
  | product
  | unary
  | power
  | atom
  | arguments

/-- Tokens that spell a phrase, whatever its names stand for and however many arguments its functions take. -/
inductive Phrase : Part → List Token → Prop where
  | product {tokens : List Token} (inside : Phrase .product tokens) : Phrase .sum tokens
  | addition {before after : List Token} (op : Operator) (additive : op = .add ∨ op = .sub)
      (first : Phrase .sum before) (second : Phrase .product after) : Phrase .sum (before ++ .operator op :: after)
  | unary {tokens : List Token} (inside : Phrase .unary tokens) : Phrase .product tokens
  | multiplication {before after : List Token} (op : Operator) (multiplicative : op = .mul ∨ op = .div)
      (first : Phrase .product before) (second : Phrase .unary after) :
      Phrase .product (before ++ .operator op :: after)
  | sign {tokens : List Token} (op : Operator) (additive : op = .add ∨ op = .sub) (operand : Phrase .unary tokens) :
      Phrase .unary (.operator op :: tokens)
  | power {tokens : List Token} (inside : Phrase .power tokens) : Phrase .unary tokens
  | atom {tokens : List Token} (inside : Phrase .atom tokens) : Phrase .power tokens
  | raised {before after : List Token} (base : Phrase .atom before) (exponent : Phrase .unary after) :
      Phrase .power (before ++ .operator .pow :: after)
  | number (value : Float) : Phrase .atom [.number value]
  | positional (index : Nat) : Phrase .atom [.positional index]
  | name (name : String) : Phrase .atom [.identifier name]
  | emptyCall (name : String) : Phrase .atom [.identifier name, .leftParen, .rightParen]
  | call {tokens : List Token} (name : String) (inside : Phrase .arguments tokens) :
      Phrase .atom (.identifier name :: .leftParen :: (tokens ++ [.rightParen]))
  | parentheses {tokens : List Token} (inside : Phrase .sum tokens) :
      Phrase .atom (.leftParen :: (tokens ++ [.rightParen]))
  | single {tokens : List Token} (inside : Phrase .sum tokens) : Phrase .arguments tokens
  | more {before after : List Token} (earlier : Phrase .arguments before) (last : Phrase .sum after) :
      Phrase .arguments (before ++ .comma :: after)

/-- Tokens that a formula can begin with. -/
def Viable (tokens : List Token) : Prop := ∃ more, Phrase .sum (tokens ++ more)

/-- The tokens before the rest can be continued to a formula.  With the first token of the rest they cannot, or
they are no formula and nothing is left. -/
def Breaks (before : List Token) : List Token → Prop
  | [] => Viable before ∧ ¬ Phrase .sum before
  | next :: _ => Viable before ∧ ¬ Viable (before ++ [next])

variable {tokens before after rest : List Token} {token : Token} {part : Part}

theorem Viable.of_append (viable : Viable (before ++ after)) : Viable before := by
  obtain ⟨more, phrase⟩ := viable
  exact ⟨after ++ more, by rwa [← List.append_assoc]⟩

theorem Breaks.viable (breaks : Breaks before rest) : Viable before := by
  cases rest with
  | nil => exact breaks.1
  | cons => exact breaks.1

/-- No split behind a break is a break. -/
theorem Breaks.eq_nil (breaks : Breaks before (after ++ rest)) (later : Breaks (before ++ after) rest) :
    after = [] := by
  cases after with
  | nil => rfl
  | cons next others =>
      have viable := later.viable
      rw [← List.singleton_append, ← List.append_assoc] at viable
      exact absurd viable.of_append breaks.2

/-- The tokens of a text break in one place at most. -/
theorem Breaks.unique {other otherRest : List Token} (breaks : Breaks before rest)
    (otherBreaks : Breaks other otherRest) (same : before ++ rest = other ++ otherRest) :
    before = other ∧ rest = otherRest := by
  obtain ⟨between, rfl, rfl⟩ | ⟨between, rfl, rfl⟩ := List.append_eq_append_iff.mp same
  · obtain rfl := breaks.eq_nil otherBreaks
    exact ⟨(List.append_nil _).symm, List.nil_append _⟩
  · obtain rfl := otherBreaks.eq_nil breaks
    exact ⟨List.append_nil _, (List.nil_append _).symm⟩

/-- Where a walk is. -/
inductive Place where
  /-- an operand has to come next -/
  | operand
  /-- the parenthesis of a call has just been opened -/
  | opened
  /-- behind a name, which may be that of a function -/
  | name
  /-- behind any other operand -/
  | done
  deriving DecidableEq

/-- A place in a walk and the open parentheses, the innermost one first: which of them are those of calls. -/
structure Walk where
  place : Place
  calls : List Bool
  deriving DecidableEq

namespace Walk

/-- The step to a token where an operand has to come next. -/
def intoOperand (calls : List Bool) : Token → Option Walk
  | .number _ | .positional _ => some ⟨.done, calls⟩
  | .identifier _ => some ⟨.name, calls⟩
  | .operator .add | .operator .sub => some ⟨.operand, calls⟩
  | .leftParen => some ⟨.operand, false :: calls⟩
  | _ => none

/-- The step to a token behind an operand. -/
def behindOperand : List Bool → Token → Option Walk
  | calls, .operator _ => some ⟨.operand, calls⟩
  | true :: calls, .comma => some ⟨.operand, true :: calls⟩
  | _ :: calls, .rightParen => some ⟨.done, calls⟩
  | _, _ => none

/-- The step to a token, if a formula can go on with it. -/
def step : Walk → Token → Option Walk
  | ⟨.operand, calls⟩, token => intoOperand calls token
  | ⟨.opened, _ :: calls⟩, .rightParen => some ⟨.done, calls⟩
  | ⟨.opened, calls⟩, token => intoOperand calls token
  | ⟨.name, calls⟩, .leftParen => some ⟨.opened, true :: calls⟩
  | ⟨.name, calls⟩, token => behindOperand calls token
  | ⟨.done, calls⟩, token => behindOperand calls token

/-- The steps over some tokens. -/
def run : Walk → List Token → Option Walk
  | walk, [] => some walk
  | walk, token :: rest => (walk.step token).bind (run · rest)

end Walk

/-- An operand has been read. -/
def Place.Behind (place : Place) : Prop := place = .name ∨ place = .done

/-- Where the walk over a phrase begins. -/
def Part.entry (calls : List Bool) : Part → Walk
  | .arguments => ⟨.opened, true :: calls⟩
  | _ => ⟨.operand, calls⟩

variable {calls last : List Bool} {place : Place} {walk middle finish : Walk} {op : Operator} {name : String}

theorem Walk.run_append : walk.run (before ++ after) = (walk.run before).bind (run · after) := by
  induction before generalizing walk with
  | nil => rfl
  | cons token others ih =>
      rw [List.cons_append, run, run]
      cases walk.step token with
      | none => rfl
      | some next => exact ih

theorem Walk.run_trans (first : walk.run before = some middle) (second : middle.run after = some finish) :
    walk.run (before ++ after) = some finish := by
  rw [run_append, first, Option.bind_some, second]

theorem Walk.run_operator (behind : place.Behind) :
    run ⟨place, calls⟩ (.operator op :: after) = run ⟨.operand, calls⟩ after := by
  obtain rfl | rfl := behind <;> cases calls <;> rfl

theorem Walk.run_comma (behind : place.Behind) :
    run ⟨place, true :: calls⟩ (.comma :: after) = run ⟨.operand, true :: calls⟩ after := by
  obtain rfl | rfl := behind <;> rfl

theorem Walk.run_rightParen {call : Bool} (behind : place.Behind) :
    run ⟨place, call :: calls⟩ [.rightParen] = some ⟨.done, calls⟩ := by
  obtain rfl | rfl := behind <;> cases call <;> rfl

theorem Walk.step_opened (notClosed : token ≠ .rightParen) :
    step ⟨.opened, calls⟩ token = step ⟨.operand, calls⟩ token := by
  cases calls <;> cases token <;> first | rfl | exact absurd rfl notClosed

/-- Only behind a name can the parenthesis of a call follow. -/
theorem Walk.eq_identifier_of_step (stepped : walk.step token = some ⟨.name, calls⟩) :
    ∃ name, token = .identifier name := by
  obtain ⟨place, outer⟩ := walk
  cases token with
  | identifier name => exact ⟨name, rfl⟩
  | operator op => cases place <;> cases outer <;> cases op <;> cases stepped
  | _ => cases place <;> rcases outer with _ | ⟨_ | _, outer⟩ <;> cases stepped

/-- No phrase begins with a closing parenthesis, and none is empty. -/
theorem Phrase.begins (phrase : Phrase part tokens) :
    ∃ first others, tokens = first :: others ∧ first ≠ .rightParen := by
  induction phrase with
  | product _ ih | unary _ ih | power _ ih | atom _ ih | single _ ih => exact ih
  | addition _ _ _ _ ih | multiplication _ _ _ _ ih | raised _ _ ih | more _ _ ih =>
      obtain ⟨first, others, rfl, notClosed⟩ := ih
      exact ⟨first, _, rfl, notClosed⟩
  | sign | number | positional | name | emptyCall | call | parentheses => exact ⟨_, _, rfl, by simp⟩

/-- The walk over a phrase comes back to the parentheses that were open before it. -/
theorem Phrase.walks (phrase : Phrase part tokens) (calls : List Bool) :
    ∃ place : Place, place.Behind ∧ (part.entry calls).run tokens = some ⟨place, (part.entry calls).calls⟩ := by
  induction phrase generalizing calls with
  | product _ ih | unary _ ih | power _ ih | atom _ ih => exact ih calls
  | addition op _ _ _ first second | multiplication op _ _ _ first second | raised _ _ first second =>
      obtain ⟨place, behind, walked⟩ := first calls
      obtain ⟨last, lastBehind, walkedOn⟩ := second calls
      exact ⟨last, lastBehind, Walk.run_trans walked ((Walk.run_operator behind).trans walkedOn)⟩
  | sign op additive _ ih =>
      obtain ⟨place, behind, walked⟩ := ih calls
      refine ⟨place, behind, ?_⟩
      rw [Walk.run]
      obtain rfl | rfl := additive <;> exact walked
  | number | positional => exact ⟨.done, .inr rfl, rfl⟩
  | name => exact ⟨.name, .inl rfl, rfl⟩
  | emptyCall => exact ⟨.done, .inr rfl, rfl⟩
  | call name _ ih =>
      obtain ⟨place, behind, walked⟩ := ih calls
      exact ⟨.done, .inr rfl, Walk.run_trans walked (Walk.run_rightParen behind)⟩
  | parentheses _ ih =>
      obtain ⟨place, behind, walked⟩ := ih (false :: calls)
      exact ⟨.done, .inr rfl, Walk.run_trans walked (Walk.run_rightParen behind)⟩
  | single inside ih =>
      obtain ⟨first, others, rfl, notClosed⟩ := inside.begins
      obtain ⟨place, behind, walked⟩ := ih (true :: calls)
      refine ⟨place, behind, ?_⟩
      rw [Part.entry, Walk.run, Walk.step_opened notClosed]
      exact walked
  | more _ _ first second =>
      obtain ⟨place, behind, walked⟩ := first calls
      obtain ⟨last, lastBehind, walkedOn⟩ := second (true :: calls)
      exact ⟨last, lastBehind, Walk.run_trans walked ((Walk.run_comma behind).trans walkedOn)⟩

/-- No formula goes on from here with the first of some tokens, or ends here if there are none. -/
def Walk.Blocked (walk : Walk) : List Token → Prop
  | [] => ¬ (walk.place.Behind ∧ walk.calls = [])
  | next :: _ => walk.step next = none

/-- A beginning of a formula behind which the walk is blocked is where the tokens break. -/
theorem breaks_of_blocked (viable : Viable before) (walked : (Part.entry [] .sum).run before = some walk)
    (blocked : walk.Blocked rest) : Breaks before rest := by
  cases rest with
  | nil =>
      refine ⟨viable, fun phrase => ?_⟩
      obtain ⟨place, behind, finished⟩ := phrase.walks []
      obtain rfl := Option.some.inj (walked.symm.trans finished)
      exact blocked ⟨behind, rfl⟩
  | cons next others =>
      refine ⟨viable, ?_⟩
      rintro ⟨more, phrase⟩
      obtain ⟨place, _, finished⟩ := phrase.walks []
      rw [List.append_assoc, List.singleton_append, Walk.run_append, walked, Option.bind_some, Walk.run,
        show walk.step next = none from blocked] at finished
      cases finished

theorem Walk.step_behind (behind : place.Behind) (noCall : place = .name → token ≠ .leftParen) :
    step ⟨place, calls⟩ token = behindOperand calls token := by
  obtain rfl | rfl := behind
  · cases token with
    | leftParen => exact absurd rfl (noCall rfl)
    | _ => rfl
  · rfl

/-- The walk is blocked behind an operand if the next token is no operator, calls nothing, separates no
arguments and closes nothing. -/
theorem Walk.blocked_of_behind (behind : place.Behind) (ends : rest = [] → calls ≠ [])
    (noOperator : ∀ op, rest.head? ≠ some (.operator op)) (noCall : place = .name → rest.head? ≠ some .leftParen)
    (noComma : calls.head? = some true → rest.head? ≠ some .comma)
    (notClosed : calls ≠ [] → rest.head? ≠ some .rightParen) :
    Blocked ⟨place, calls⟩ rest := by
  cases rest with
  | nil => exact fun finished => ends rfl finished.2
  | cons next others =>
      simp only [List.head?_cons, ne_eq, Option.some.injEq] at noOperator noCall noComma notClosed
      rw [Blocked, step_behind behind noCall]
      cases next with
      | operator op => exact absurd rfl (noOperator op)
      | comma =>
          rcases calls with _ | ⟨_ | _, calls⟩
          · rfl
          · rfl
          · exact absurd rfl (noComma rfl)
      | rightParen =>
          rcases calls with _ | ⟨call, calls⟩
          · rfl
          · exact absurd rfl (notClosed (List.cons_ne_nil _ _))
      | _ => rcases calls with _ | ⟨_ | _, calls⟩ <;> rfl

/-- Tokens of which the last one is a name. -/
def EndsInName (tokens : List Token) : Prop := ∃ name, tokens.getLast? = some (.identifier name)

theorem EndsInName.of_append (ends : EndsInName (before ++ after)) (notEmpty : after ≠ []) : EndsInName after := by
  obtain ⟨name, last⟩ := ends
  rw [List.getLast?_append, List.getLast?_eq_some_getLast notEmpty, Option.some_or] at last
  exact ⟨name, by rw [List.getLast?_eq_some_getLast notEmpty, last]⟩

/-- A walk that is behind a name has read this name last. -/
theorem endsInName_of_run (walked : (part.entry calls).run tokens = some ⟨.name, last⟩) : EndsInName tokens := by
  obtain rfl | ⟨front, token, rfl⟩ := List.eq_nil_or_concat tokens
  · cases part <;> cases walked
  · rw [List.concat_eq_append, Walk.run_append] at walked
    obtain ⟨middle, _, stepped⟩ := Option.bind_eq_some_iff.mp walked
    rw [Walk.run] at stepped
    obtain ⟨reached, steppedThere, nothing⟩ := Option.bind_eq_some_iff.mp stepped
    obtain rfl := Option.some.inj nothing
    obtain ⟨name, rfl⟩ := Walk.eq_identifier_of_step steppedThere
    exact ⟨name, by rw [List.concat_eq_append, List.getLast?_concat]⟩

end Grammar

end DensityGraph.Formula
