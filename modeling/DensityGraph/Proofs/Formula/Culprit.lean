import DensityGraph.Proofs.Formula.Bytewise
import DensityGraph.Proofs.Formula.Grammar
import DensityGraph.Proofs.Formula.Viable

/-!
# The place of an error in a formula

A text that is malformed for its tokens breaks at the first of them behind which it is the beginning of no
formula.  One lemma for each reader says what it has taken when it succeeds and where the tokens break when it
fails.
-/

namespace DensityGraph.Formula

open DensityGraph.Text (Placed Tokens offsetOf Begins begins_nil_iff begins_cons_iff begins_append_iff begins_all_iff
  begins_single Avoids avoids_cons_iff avoids_nil avoids_none avoids_token_iff byteLength byteLength_append
  byteLength_toList)
open Grammar (Part Phrase Place Walk Breaks EndsInName)

/-- What would continue a phrase that has been read. -/
def Grammar.Part.stops : Part → List Token
  | .atom => []
  | .power | .unary => [.operator .pow]
  | .product => [.operator .mul, .operator .div, .operator .pow]
  | .sum => [.operator .add, .operator .sub, .operator .mul, .operator .div, .operator .pow]
  | .arguments => [.comma, .operator .add, .operator .sub, .operator .mul, .operator .div, .operator .pow]

/-- The offset that is given with a reason that complains about the first of some tokens, or about their end.  A
token that cannot begin an operand is reported at the offset of what stands behind it. -/
def Complains (ends offset : Nat) : Reason → List (Placed Token) → Prop
  | .unexpected token, culprit :: rest => culprit.value = token ∧ offset = offsetOf ends rest
  | .unexpectedAfter token, culprit :: _ => culprit.value = token ∧ offset = culprit.offset
  | .unexpectedEnd, [] => offset = ends
  | .expected parenthesis, rest => parenthesis = ')' ∧ Avoids [.rightParen] rest ∧ offset = offsetOf ends rest
  | _, _ => False

theorem Complains.offset_eq {ends offset : Nat} {reason : Reason} {rest : List (Placed Token)}
    (complains : Complains ends offset reason rest) (known : ∀ token, reason ≠ .unexpected token) :
    offset = offsetOf ends rest := by
  cases reason with
  | unexpected token => exact absurd rfl (known token)
  | expected parenthesis => exact complains.2.2
  | unexpectedAfter token =>
      cases rest with
      | nil => exact complains.elim
      | cons culprit others => exact complains.2
  | unexpectedEnd =>
      cases rest with
      | nil => exact complains
      | cons culprit others => exact complains.elim
  | unexpectedCharacter | missingDigits | invalidNumber => exact complains.elim

theorem Complains.culprit {ends offset : Nat} {token : Token} {rest : List (Placed Token)}
    (complains : Complains ends offset (.unexpected token) rest) :
    ∃ culprit others, rest = culprit :: others ∧ offset = offsetOf ends others := by
  cases rest with
  | nil => exact complains.elim
  | cons culprit others => exact ⟨culprit, others, rfl, complains.2⟩

namespace Parser

variable {α β : Type} {ctx : Context} {bound offset : Nat} {reason : Reason} {part inner : Part}
variable {tokens middle rest : List (Placed Token)} {values before after : List Token}

/-- What follows the tokens of a phrase could not have continued it. -/
structure Halts (part : Part) (values : List Token) (rest : List (Placed Token)) : Prop where
  avoids : Avoids part.stops rest
  uncalled : EndsInName values → Avoids [.leftParen] rest

theorem Halts.append (halts : Halts part after rest) (notEmpty : after ≠ []) : Halts part (before ++ after) rest :=
  ⟨halts.avoids, fun ends => halts.uncalled (ends.of_append notEmpty)⟩

theorem Halts.cons {token : Token} (halts : Halts part after rest) (notEmpty : after ≠ []) :
    Halts part (token :: after) rest := by
  rw [← List.singleton_append]
  exact halts.append notEmpty

/-- Some tokens can begin a phrase, and break with the next one or because there is none. -/
def Fails (ctx : Context) (part : Part) (tokens : List (Placed Token)) (offset : Nat) (reason : Reason) : Prop :=
  ∃ values rest, Begins values tokens rest ∧ (∃ more, Phrase part (values ++ more)) ∧
    (∀ calls, ∃ walk, (part.entry calls).run values = some walk ∧ walk.Blocked (rest.map (·.value))) ∧
      Complains ctx.ends offset reason rest

/-- A reader takes a phrase as far as it goes, or complains about where the tokens break. -/
structure Accounts (ctx : Context) (part : Part) (tokens : List (Placed Token))
    (result : Except Fault (Parsed α bound)) : Prop where
  reads : ∀ read, result = .ok read →
    ∃ values, Begins values tokens read.rest ∧ Phrase part values ∧ Halts part values read.rest
  breaks : ∀ offset reason, result = .error (.malformed offset reason) → Fails ctx part tokens offset reason

theorem accounts_ok {read : Parsed α bound} (begun : Begins values tokens read.rest) (phrase : Phrase part values)
    (halts : Halts part values read.rest) : Accounts ctx part tokens (.ok read : Except Fault (Parsed α bound)) := by
  constructor
  · rintro _ ⟨⟩
    exact ⟨values, begun, phrase, halts⟩
  · rintro _ _ ⟨⟩

theorem accounts_error {fault : Fault}
    (fails : ∀ offset reason, fault = .malformed offset reason → Fails ctx part tokens offset reason) :
    Accounts ctx part tokens (.error fault : Except Fault (Parsed α bound)) := by
  constructor
  · rintro _ ⟨⟩
  · rintro offset reason ⟨⟩
    exact fails offset reason rfl

/-- A break within a phrase is one within the phrase around it. -/
theorem Fails.within (fails : Fails ctx inner middle offset reason) (begun : Begins values tokens middle)
    (enters : ∀ calls, ∃ outer, (part.entry calls).run values = some (inner.entry outer))
    (completes : ∀ inside, Phrase inner inside → ∃ more, Phrase part (values ++ inside ++ more)) :
    Fails ctx part tokens offset reason := by
  obtain ⟨inside, rest, begunInside, ⟨more, phrase⟩, blocks, complains⟩ := fails
  refine ⟨values ++ inside, rest, begun.append begunInside, ?_, fun calls => ?_, complains⟩
  · obtain ⟨moreStill, whole⟩ := completes _ phrase
    exact ⟨more ++ moreStill, by simpa only [List.append_assoc] using whole⟩
  · obtain ⟨outer, entered⟩ := enters calls
    obtain ⟨walk, walked, blocked⟩ := blocks outer
    exact ⟨walk, Walk.run_trans entered walked, blocked⟩

/-- A break at the front of a phrase is one at the front of what begins with it. -/
theorem Fails.front (fails : Fails ctx inner tokens offset reason)
    (enters : ∀ calls, part.entry calls = inner.entry calls)
    (completes : ∀ inside, Phrase inner inside → Phrase part inside) : Fails ctx part tokens offset reason := by
  apply fails.within (begins_nil_iff.mpr rfl)
  · exact fun calls => ⟨calls, congrArg some (enters calls)⟩
  · exact fun inside phrase => ⟨[], by simpa using completes inside phrase⟩

/-- A break behind an operator is one within the operation. -/
theorem Fails.behind {op : Operator} {place : Nat} (fails : Fails ctx inner middle offset reason)
    (begun : Begins before tokens (⟨.operator op, place⟩ :: middle)) (first : Phrase part before)
    (entersPart : ∀ calls, part.entry calls = ⟨.operand, calls⟩)
    (entersInner : ∀ calls, inner.entry calls = ⟨.operand, calls⟩)
    {whole : Part} (entersWhole : ∀ calls, whole.entry calls = ⟨.operand, calls⟩)
    (completes : ∀ inside, Phrase inner inside → Phrase whole (before ++ .operator op :: inside)) :
    Fails ctx whole tokens offset reason := by
  apply fails.within (begun.append (begins_single _ _))
  · intro calls
    obtain ⟨last, behind, walked⟩ := first.walks calls
    rw [entersPart] at walked
    rw [entersWhole]
    refine ⟨calls, Walk.run_trans walked ?_⟩
    rw [Walk.run_operator behind, entersInner]
    rfl
  · intro inside phrase
    exact ⟨[], by simpa using completes inside phrase⟩

theorem closing_eq_error {inside : Parsed α bound} {fault : Fault} (failed : closing ctx inside = .error fault) :
    fault = .malformed (offsetOf ctx.ends inside.rest) (.expected ')') ∧ Avoids [.rightParen] inside.rest := by
  obtain ⟨value, rest, shorter⟩ := inside
  match rest with
  | [] =>
      simp only [closing, Except.error.injEq] at failed
      exact ⟨failed.symm, avoids_nil⟩
  | ⟨token, offset⟩ :: rest =>
      cases token with
      | rightParen => simp [closing] at failed
      | _ =>
          simp only [closing, Except.error.injEq] at failed
          exact ⟨failed.symm, avoids_cons_iff.mpr (by simp)⟩

theorem head?_ne_of_avoids {token : Token} {stops : List Token} (avoids : Avoids stops rest) (among : token ∈ stops) :
    (rest.map (·.value)).head? ≠ some token := by
  intro first
  rw [List.head?_map, Option.map_eq_some_iff] at first
  obtain ⟨next, isFirst, rfl⟩ := first
  exact avoids next isFirst among

/-- The walk is blocked behind a phrase if nothing closes the parentheses around it. -/
theorem Halts.blocked {place : Place} {calls outer : List Bool} (halts : Halts inner values rest)
    (sums : ∀ op, .operator op ∈ inner.stops) (commas : calls.head? = some true → .comma ∈ inner.stops)
    (ends : rest = [] → calls ≠ []) (notClosed : calls ≠ [] → Avoids [.rightParen] rest) (behind : place.Behind)
    (walked : (part.entry outer).run values = some ⟨place, calls⟩) :
    Walk.Blocked ⟨place, calls⟩ (rest.map (·.value)) := by
  apply Walk.blocked_of_behind behind
  · exact fun nothing => ends (List.map_eq_nil_iff.mp nothing)
  · exact fun op => head?_ne_of_avoids halts.avoids (sums op)
  · rintro rfl
    exact head?_ne_of_avoids (halts.uncalled (Grammar.endsInName_of_run walked)) (List.mem_singleton_self _)
  · exact fun isCall => head?_ne_of_avoids halts.avoids (commas isCall)
  · exact fun isOpen => head?_ne_of_avoids (notClosed isOpen) (List.mem_singleton_self _)

theorem operator_mem_stops (op : Operator) : .operator op ∈ Part.sum.stops := by
  cases op <;> simp [Part.stops]

/-- What is called is closed or breaks. -/
theorem fails_of_unclosed_call {name : String} {first second : Nat} (begun : Begins values middle rest)
    (phrase : Phrase .arguments values) (halts : Halts .arguments values rest) (notClosed : Avoids [.rightParen] rest) :
    Fails ctx .atom (⟨.identifier name, first⟩ :: ⟨.leftParen, second⟩ :: middle) (offsetOf ctx.ends rest)
      (.expected ')') := by
  refine ⟨.identifier name :: .leftParen :: values, rest, (begun.behind rfl).behind rfl,
    ⟨[.rightParen], .call name phrase⟩,
    fun calls => ?_, rfl, notClosed, rfl⟩
  obtain ⟨place, behind, walked⟩ := phrase.walks calls
  refine ⟨⟨place, true :: calls⟩, walked, halts.blocked ?_ ?_ ?_ ?_ behind walked⟩
  · exact fun op => List.mem_cons_of_mem _ (operator_mem_stops op)
  · exact fun _ => List.mem_cons_self
  · exact fun _ => List.cons_ne_nil _ _
  · exact fun _ => notClosed

theorem fails_of_unclosed {first : Nat} (begun : Begins values middle rest) (phrase : Phrase .sum values)
    (halts : Halts .sum values rest) (notClosed : Avoids [.rightParen] rest) :
    Fails ctx .atom (⟨.leftParen, first⟩ :: middle) (offsetOf ctx.ends rest) (.expected ')') := by
  refine ⟨.leftParen :: values, rest, begun.behind rfl, ⟨[.rightParen], .parentheses phrase⟩, fun calls => ?_, rfl,
    notClosed, rfl⟩
  obtain ⟨place, behind, walked⟩ := phrase.walks (false :: calls)
  refine ⟨⟨place, false :: calls⟩, walked, halts.blocked operator_mem_stops ?_ ?_ ?_ behind walked⟩
  · rintro ⟨⟩
  · exact fun _ => List.cons_ne_nil _ _
  · exact fun _ => notClosed

/-- Arguments break where their first sum does, if there is one. -/
theorem Fails.arguments (fails : Fails ctx .sum tokens offset reason) (notClosed : Avoids [.rightParen] tokens) :
    Fails ctx .arguments tokens offset reason := by
  obtain ⟨values, rest, begun, ⟨more, phrase⟩, blocks, complains⟩ := fails
  refine ⟨values, rest, begun, ⟨more, .single phrase⟩, fun calls => ?_, complains⟩
  obtain ⟨walk, walked, blocked⟩ := blocks (true :: calls)
  cases values with
  | nil =>
      obtain rfl := Option.some.inj walked
      obtain rfl := begins_nil_iff.mp begun
      refine ⟨⟨.opened, true :: calls⟩, rfl, ?_⟩
      cases tokens with
      | nil => simp [Walk.Blocked, Place.Behind]
      | cons next others =>
          have other : next.value ≠ .rightParen := fun same => notClosed next rfl (List.mem_singleton.mpr same)
          exact (Walk.step_opened other).trans blocked
  | cons first others =>
      obtain ⟨place, _, rfl, _⟩ := begins_cons_iff.mp begun
      have other : first ≠ .rightParen := by simpa [avoids_cons_iff] using notClosed
      refine ⟨walk, ?_, blocked⟩
      rw [Part.entry, Walk.run, Walk.step_opened other]
      exact walked

theorem not_endsInName (before : List Token) {token : Token} (other : ∀ name, token ≠ .identifier name) :
    ¬ EndsInName (before ++ [token]) := by
  rintro ⟨name, last⟩
  rw [List.getLast?_concat, Option.some_inj] at last
  exact other name last

theorem avoids_of_sumOperator? (nothing : sumOperator? rest = none) (avoids : Avoids Part.product.stops rest) :
    Avoids Part.sum.stops rest := by
  match rest with
  | [] => exact avoids_nil
  | ⟨.operator op, place⟩ :: others =>
      rw [avoids_cons_iff] at avoids ⊢
      cases op <;> simp_all [Part.stops, sumOperator?]
  | ⟨.number _, _⟩ :: _ | ⟨.identifier _, _⟩ :: _ | ⟨.positional _, _⟩ :: _ | ⟨.leftParen, _⟩ :: _
  | ⟨.rightParen, _⟩ :: _ | ⟨.comma, _⟩ :: _ => exact avoids_cons_iff.mpr (by simp [Part.stops])

theorem avoids_of_productOperator? (nothing : productOperator? rest = none) (avoids : Avoids Part.unary.stops rest) :
    Avoids Part.product.stops rest := by
  match rest with
  | [] => exact avoids_nil
  | ⟨.operator op, place⟩ :: others =>
      rw [avoids_cons_iff] at avoids ⊢
      cases op <;> simp_all [Part.stops, productOperator?]
  | ⟨.number _, _⟩ :: _ | ⟨.identifier _, _⟩ :: _ | ⟨.positional _, _⟩ :: _ | ⟨.leftParen, _⟩ :: _
  | ⟨.rightParen, _⟩ :: _ | ⟨.comma, _⟩ :: _ => exact avoids_cons_iff.mpr (by simp [Part.stops])

/-- What halts behind a phrase halts behind an operation that ends with it. -/
theorem Halts.operation {token : Token} {phrasePart : Part} (halts : Halts part after rest)
    (phrase : Phrase phrasePart after) : Halts part (before ++ token :: after) rest := by
  obtain ⟨first, others, rfl, _⟩ := phrase.begins
  exact (halts.cons (List.cons_ne_nil _ _)).append (List.cons_ne_nil _ _)

theorem Fails.sign {op : Operator} {place : Nat} (fails : Fails ctx .unary middle offset reason)
    (additive : op = .add ∨ op = .sub) : Fails ctx .unary (⟨.operator op, place⟩ :: middle) offset reason := by
  apply fails.within (begins_single _ _)
  · intro calls
    exact ⟨calls, by obtain rfl | rfl := additive <;> rfl⟩
  · exact fun inside phrase => ⟨[], by simpa using phrase.sign op additive⟩

theorem fails_of_end : Fails ctx .atom [] ctx.ends .unexpectedEnd := by
  refine ⟨[], [], begins_nil_iff.mpr rfl, ⟨[.number 0], .number 0⟩, fun calls => ⟨_, rfl, ?_⟩, rfl⟩
  simp [Walk.Blocked, Part.entry, Place.Behind]

/-- A token that the walk refuses where an operand is expected is reported at what stands behind it. -/
theorem fails_of_noOperand {token : Token} {place : Nat}
    (refused : ∀ calls, Walk.step ⟨.operand, calls⟩ token = none) :
    Fails ctx .atom (⟨token, place⟩ :: rest) (offsetOf ctx.ends rest) (.unexpected token) := by
  refine ⟨[], ⟨token, place⟩ :: rest, begins_nil_iff.mpr rfl, ⟨[.number 0], .number 0⟩, ?_, rfl, rfl⟩
  exact fun calls => ⟨_, rfl, refused calls⟩

/-- A call is an operand if what it calls is known, its arguments are a phrase and a parenthesis closes them. -/
theorem accounts_call {name : String} {place second : Nat}
    (inside : Avoids [.rightParen] rest → Accounts ctx .arguments rest (arguments ctx rest)) :
    Accounts ctx .atom (⟨.identifier name, place⟩ :: ⟨.leftParen, second⟩ :: rest)
      (atom ctx (⟨.identifier name, place⟩ :: ⟨.leftParen, second⟩ :: rest)) := by
  rw [atom]
  split
  case h_1 unknown =>
    apply accounts_error
    rintro _ _ ⟨⟩
  case h_2 function known =>
    by_cases empty : ∃ third others, rest = ⟨.rightParen, third⟩ :: others
    · obtain ⟨third, others, rfl⟩ := empty
      simp only [arguments, closing]
      split
      · refine accounts_ok (((begins_single _ third).behind rfl).behind rfl) (.emptyCall name)
          ⟨avoids_none, fun ends => ?_⟩
        exact absurd ends (not_endsInName [.identifier name, .leftParen] (by simp))
      · apply accounts_error
        rintro _ _ ⟨⟩
    have inside := inside (avoids_token_iff.mpr ⟨by simpa using empty, avoids_none⟩)
    split
    case h_1 fault ran =>
      apply accounts_error
      rintro offset reason rfl
      apply (inside.breaks offset reason ran).within ((begins_single _ second).behind rfl)
      · exact fun calls => ⟨calls, rfl⟩
      · exact fun values phrase => ⟨[.rightParen], .call name phrase⟩
    case h_2 read ran =>
      obtain ⟨values, begun, phrase, halts⟩ := inside.reads read ran
      split
      case h_1 fault failed =>
        obtain ⟨rfl, notClosed⟩ := closing_eq_error failed
        apply accounts_error
        rintro offset reason ⟨⟩
        exact fails_of_unclosed_call begun phrase halts notClosed
      case h_2 close closed =>
        split
        · refine accounts_ok (((begun.append (begins_of_closing closed).1).behind rfl).behind rfl)
            (.call name phrase) ⟨avoids_none, fun ends => ?_⟩
          exact absurd ends (not_endsInName (.identifier name :: .leftParen :: values) (by simp))
        · apply accounts_error
          rintro _ _ ⟨⟩

/-- A sum is an operand if parentheses stand around it. -/
theorem accounts_parentheses {place : Nat} (inside : Accounts ctx .sum rest (sum ctx rest)) :
    Accounts ctx .atom (⟨.leftParen, place⟩ :: rest) (atom ctx (⟨.leftParen, place⟩ :: rest)) := by
  rw [atom]
  split
  case h_1 fault ran =>
    apply accounts_error
    rintro offset reason rfl
    apply (inside.breaks offset reason ran).within (begins_single _ place)
    · exact fun calls => ⟨false :: calls, rfl⟩
    · exact fun values phrase => ⟨[.rightParen], .parentheses phrase⟩
  case h_2 read ran =>
    obtain ⟨values, begun, phrase, halts⟩ := inside.reads read ran
    split
    case h_1 fault failed =>
      obtain ⟨rfl, notClosed⟩ := closing_eq_error failed
      apply accounts_error
      rintro offset reason ⟨⟩
      exact fails_of_unclosed begun phrase halts notClosed
    case h_2 close closed =>
      refine accounts_ok ((begun.append (begins_of_closing closed).1).behind rfl) (.parentheses phrase)
        ⟨avoids_none, fun ends => ?_⟩
      exact absurd ends (not_endsInName (.leftParen :: values) (by simp))

mutual

theorem accounts_sum (ctx : Context) (tokens : List (Placed Token)) : Accounts ctx .sum tokens (sum ctx tokens) := by
  have first := accounts_product ctx tokens
  rw [sum.eq_def]
  split
  · rename_i fault ran
    apply accounts_error
    rintro offset reason rfl
    exact (first.breaks offset reason ran).front (fun _ => rfl) fun _ => .product
  · rename_i left ran
    have fewer := left.shorter
    obtain ⟨values, begun, phrase, halts⟩ := first.reads left ran
    exact accounts_sumTail ctx tokens.length left begun (.product phrase) halts
termination_by 7 * tokens.length + 4
decreasing_by all_goals omega

theorem accounts_sumTail (ctx : Context) (bound : Nat) (left : Parsed Expr bound) {tokens : List (Placed Token)}
    {values : List Token} (begun : Begins values tokens left.rest) (phrase : Phrase .sum values)
    (halts : Halts .product values left.rest) : Accounts ctx .sum tokens (sumTail ctx bound left) := by
  rw [sumTail.eq_def]
  split
  · rename_i nothing
    exact accounts_ok begun phrase ⟨avoids_of_sumOperator? nothing halts.avoids, halts.uncalled⟩
  · rename_i op found
    obtain ⟨additive, place, shape⟩ := sumOperator?_eq_some found
    have fewer := tail_lt_of_sumOperator? found
    have second := accounts_product ctx left.rest.tail
    rw [shape] at begun
    split
    · rename_i fault ran
      apply accounts_error
      rintro offset reason rfl
      exact (second.breaks offset reason ran).behind begun phrase (fun _ => rfl) (fun _ => rfl) (fun _ => rfl)
        fun _ => .addition op additive phrase
    · rename_i right ran
      have fewerStill := right.shorter
      obtain ⟨more, begunMore, phraseMore, haltsMore⟩ := second.reads right ran
      exact accounts_sumTail ctx bound _ (begun.append (begunMore.behind rfl))
        (.addition op additive phrase phraseMore) (haltsMore.operation phraseMore)
termination_by 7 * left.rest.length + 5
decreasing_by all_goals omega

theorem accounts_product (ctx : Context) (tokens : List (Placed Token)) :
    Accounts ctx .product tokens (product ctx tokens) := by
  have first := accounts_unary ctx tokens
  rw [product.eq_def]
  split
  · rename_i fault ran
    apply accounts_error
    rintro offset reason rfl
    exact (first.breaks offset reason ran).front (fun _ => rfl) fun _ => .unary
  · rename_i left ran
    have fewer := left.shorter
    obtain ⟨values, begun, phrase, halts⟩ := first.reads left ran
    exact accounts_productTail ctx tokens.length left begun (.unary phrase) halts
termination_by 7 * tokens.length + 3
decreasing_by all_goals omega

theorem accounts_productTail (ctx : Context) (bound : Nat) (left : Parsed Expr bound) {tokens : List (Placed Token)}
    {values : List Token} (begun : Begins values tokens left.rest) (phrase : Phrase .product values)
    (halts : Halts .unary values left.rest) : Accounts ctx .product tokens (productTail ctx bound left) := by
  rw [productTail.eq_def]
  split
  · rename_i nothing
    exact accounts_ok begun phrase ⟨avoids_of_productOperator? nothing halts.avoids, halts.uncalled⟩
  · rename_i op found
    obtain ⟨multiplicative, place, shape⟩ := productOperator?_eq_some found
    have fewer := tail_lt_of_productOperator? found
    have second := accounts_unary ctx left.rest.tail
    rw [shape] at begun
    split
    · rename_i fault ran
      apply accounts_error
      rintro offset reason rfl
      exact (second.breaks offset reason ran).behind begun phrase (fun _ => rfl) (fun _ => rfl) (fun _ => rfl)
        fun _ => .multiplication op multiplicative phrase
    · rename_i right ran
      have fewerStill := right.shorter
      obtain ⟨more, begunMore, phraseMore, haltsMore⟩ := second.reads right ran
      exact accounts_productTail ctx bound _ (begun.append (begunMore.behind rfl))
        (.multiplication op multiplicative phrase phraseMore) (haltsMore.operation phraseMore)
termination_by 7 * left.rest.length + 4
decreasing_by all_goals omega

theorem accounts_unary (ctx : Context) (tokens : List (Placed Token)) :
    Accounts ctx .unary tokens (unary ctx tokens) := by
  rw [unary.eq_def]
  split
  · rename_i place rest
    have operand := accounts_unary ctx rest
    split
    · rename_i fault ran
      apply accounts_error
      rintro offset reason rfl
      exact (operand.breaks offset reason ran).sign (.inr rfl)
    · rename_i read ran
      obtain ⟨values, begun, phrase, halts⟩ := operand.reads read ran
      obtain ⟨first, others, rfl, _⟩ := phrase.begins
      exact accounts_ok (begun.behind rfl) (phrase.sign .sub (.inr rfl)) (halts.cons (List.cons_ne_nil _ _))
  · rename_i place rest
    have operand := accounts_unary ctx rest
    split
    · rename_i fault ran
      apply accounts_error
      rintro offset reason rfl
      exact (operand.breaks offset reason ran).sign (.inl rfl)
    · rename_i read ran
      obtain ⟨values, begun, phrase, halts⟩ := operand.reads read ran
      obtain ⟨first, others, rfl, _⟩ := phrase.begins
      exact accounts_ok (begun.behind rfl) (phrase.sign .add (.inl rfl)) (halts.cons (List.cons_ne_nil _ _))
  · rename_i notMinus notPlus
    have unsigned : Avoids [.operator .add, .operator .sub] tokens :=
      avoids_token_iff.mpr ⟨notPlus, avoids_token_iff.mpr ⟨notMinus, avoids_none⟩⟩
    have raised := accounts_power ctx unsigned
    constructor
    · intro read ran
      obtain ⟨values, begun, phrase, halts⟩ := raised.reads read ran
      exact ⟨values, begun, .power phrase, halts.avoids, halts.uncalled⟩
    · intro offset reason ran
      exact (raised.breaks offset reason ran).front (fun _ => rfl) fun _ => .power
termination_by 7 * tokens.length + 2

theorem accounts_power (ctx : Context) {tokens : List (Placed Token)}
    (unsigned : Avoids [.operator .add, .operator .sub] tokens) : Accounts ctx .power tokens (power ctx tokens) := by
  have first := accounts_atom ctx unsigned
  rw [power.eq_def]
  split
  · rename_i fault ran
    apply accounts_error
    rintro offset reason rfl
    exact (first.breaks offset reason ran).front (fun _ => rfl) fun _ => .atom
  · rename_i base ran
    obtain ⟨values, begun, phrase, halts⟩ := first.reads base ran
    split
    · rename_i place rest shape
      have fewer : rest.length < tokens.length := by
        have := base.shorter
        rw [shape, List.length_cons] at this
        omega
      have second := accounts_unary ctx rest
      rw [shape] at begun
      split
      · rename_i fault ranExponent
        apply accounts_error
        rintro offset reason rfl
        exact (second.breaks offset reason ranExponent).behind begun phrase (fun _ => rfl) (fun _ => rfl) (fun _ => rfl)
          fun _ => .raised phrase
      · rename_i exponent ranExponent
        obtain ⟨more, begunMore, phraseMore, haltsMore⟩ := second.reads exponent ranExponent
        have halted : Halts .unary (values ++ .operator .pow :: more) exponent.rest := haltsMore.operation phraseMore
        exact accounts_ok (begun.append (begunMore.behind rfl)) (.raised phrase phraseMore)
          ⟨halted.avoids, halted.uncalled⟩
    · rename_i notRaised
      exact accounts_ok begun (.atom phrase) ⟨avoids_token_iff.mpr ⟨notRaised, avoids_none⟩, halts.uncalled⟩
termination_by 7 * tokens.length + 1
decreasing_by all_goals omega

theorem accounts_atom (ctx : Context) {tokens : List (Placed Token)}
    (unsigned : Avoids [.operator .add, .operator .sub] tokens) : Accounts ctx .atom tokens (atom ctx tokens) := by
  rw [atom.eq_def]
  split
  case h_1 =>
    apply accounts_error
    rintro offset reason ⟨⟩
    exact fails_of_end
  case h_2 value place rest =>
    exact accounts_ok (begins_single _ place) (.number value)
      ⟨avoids_none, fun ends => absurd ends (not_endsInName [] (by simp))⟩
  case h_3 index place rest =>
    split
    · exact accounts_ok (begins_single _ place) (.positional index)
        ⟨avoids_none, fun ends => absurd ends (not_endsInName [] (by simp))⟩
    · apply accounts_error
      rintro _ _ ⟨⟩
  case h_4 name place second rest =>
    have called := @accounts_call ctx rest name place second fun opened => accounts_arguments ctx opened
    rwa [atom] at called
  case h_5 name place rest notCalled =>
    split
    · rename_i fault missing
      apply accounts_error
      rintro offset reason rfl
      unfold slotOf at missing
      split at missing <;> cases missing
    · exact accounts_ok (begins_single _ place) (.name name)
        ⟨avoids_none, fun _ => avoids_token_iff.mpr ⟨notCalled, avoids_none⟩⟩
  case h_6 place rest =>
    have grouped := @accounts_parentheses ctx rest place (accounts_sum ctx rest)
    rwa [atom] at grouped
  case h_7 token place rest notNumber notPositional _ notName notOpened =>
    apply accounts_error
    rintro offset reason ⟨⟩
    apply fails_of_noOperand
    rw [avoids_cons_iff] at unsigned
    cases token with
    | number value => exact absurd rfl (notNumber value)
    | positional index => exact absurd rfl (notPositional index)
    | identifier name => exact absurd rfl (notName name)
    | leftParen => exact absurd rfl notOpened
    | rightParen | comma => exact fun _ => rfl
    | operator op =>
        cases op with
        | add | sub => simp at unsigned
        | mul | div | pow => exact fun _ => rfl
termination_by 7 * tokens.length + 0

theorem accounts_arguments (ctx : Context) {tokens : List (Placed Token)} (opened : Avoids [.rightParen] tokens) :
    Accounts ctx .arguments tokens (arguments ctx tokens) := by
  have first := accounts_sum ctx tokens
  rw [arguments.eq_def]
  split
  · simp [avoids_cons_iff] at opened
  · split
    · rename_i fault ran
      apply accounts_error
      rintro offset reason rfl
      exact (first.breaks offset reason ran).arguments opened
    · rename_i read ran
      have fewer := read.shorter
      obtain ⟨values, begun, phrase, halts⟩ := first.reads read ran
      exact accounts_argumentsTail ctx (tokens.length + 1) _ begun (.single phrase) halts
termination_by 7 * tokens.length + 6
decreasing_by all_goals omega

theorem accounts_argumentsTail (ctx : Context) (bound : Nat) (earlier : Parsed (List Expr) bound)
    {tokens : List (Placed Token)} {values : List Token} (begun : Begins values tokens earlier.rest)
    (phrase : Phrase .arguments values) (halts : Halts .sum values earlier.rest) :
    Accounts ctx .arguments tokens (argumentsTail ctx bound earlier) := by
  rw [argumentsTail.eq_def]
  split
  · rename_i place rest shape
    have fewer : rest.length < earlier.rest.length := by
      rw [shape, List.length_cons]
      exact Nat.lt_succ_self _
    have next := accounts_sum ctx rest
    rw [shape] at begun
    split
    · rename_i fault ran
      apply accounts_error
      rintro offset reason rfl
      apply (next.breaks offset reason ran).within (begun.append (begins_single _ place))
      · intro calls
        obtain ⟨last, behind, walked⟩ := phrase.walks calls
        exact ⟨true :: calls, Walk.run_trans walked (Walk.run_comma behind)⟩
      · exact fun inside last => ⟨[], by simpa using phrase.more last⟩
    · rename_i read ran
      have fewerStill := read.shorter
      obtain ⟨more, begunMore, phraseMore, haltsMore⟩ := next.reads read ran
      exact accounts_argumentsTail ctx bound _ (begun.append (begunMore.behind rfl)) (phrase.more phraseMore)
        (haltsMore.operation phraseMore)
  · rename_i noComma
    exact accounts_ok begun phrase ⟨avoids_token_iff.mpr ⟨noComma, halts.avoids⟩, halts.uncalled⟩
termination_by 7 * earlier.rest.length + 6
decreasing_by all_goals omega

end

end Parser

variable {tokens : Tokens Token} {names : List String} {source : String} {offset : Nat} {reason : Reason}

/-- The offset of the first token with which the tokens of a text are no longer the beginning of a formula, or of
the end of the text if there is no such token and they are no formula. -/
def BreaksAt (tokens : Tokens Token) (offset : Nat) : Prop :=
  ∃ before rest, tokens.items = before ++ rest ∧ Breaks (before.map (·.value)) (rest.map (·.value)) ∧
    offset = offsetOf tokens.ends rest

/-- Malformed tokens break where the reason says. -/
theorem breaks_of_parse (failed : parse names tokens = .error (.malformed offset reason)) :
    ∃ before rest, tokens.items = before ++ rest ∧ Breaks (before.map (·.value)) (rest.map (·.value)) ∧
      Complains tokens.ends offset reason rest := by
  have accounts := Parser.accounts_sum ⟨names, tokens.ends⟩ tokens.items
  unfold parse at failed
  split at failed
  · rename_i fault ran
    cases failed
    obtain ⟨_, rest, ⟨before, split, rfl⟩, viable, blocks, complains⟩ := accounts.breaks offset reason ran
    obtain ⟨walk, walked, blocked⟩ := blocks []
    exact ⟨before, rest, split, Grammar.breaks_of_blocked viable walked blocked, complains⟩
  · rename_i read ran
    obtain ⟨_, ⟨before, split, rfl⟩, phrase, halts⟩ := accounts.reads read ran
    split at failed
    · cases failed
    · rename_i culprit others shape
      cases failed
      refine ⟨before, read.rest, split, ?_, by rw [shape]; exact ⟨rfl, rfl⟩⟩
      obtain ⟨place, behind, walked⟩ := phrase.walks []
      apply Grammar.breaks_of_blocked ⟨[], by rwa [List.append_nil]⟩ walked
      apply halts.blocked Parser.operator_mem_stops _ _ _ behind walked
      · rintro ⟨⟩
      · simp [shape]
      · exact fun isOpen => absurd rfl isOpen

/-- What is parsed is a phrase. -/
theorem phrase_of_parse {tree : Expr} (parsed : parse names tokens = .ok tree) :
    Phrase .sum (tokens.items.map (·.value)) := by
  unfold parse at parsed
  split at parsed
  · cases parsed
  · rename_i read ran
    split at parsed
    · rename_i nothing
      obtain ⟨values, begun, phrase, _⟩ :=
        (Parser.accounts_sum ⟨names, tokens.ends⟩ tokens.items).reads read ran
      rw [nothing, begins_all_iff] at begun
      rwa [begun]
    · cases parsed

/-- A phrase is refused for its names and the numbers of its arguments only. -/
theorem not_malformed_of_phrase (phrase : Phrase .sum (tokens.items.map (·.value))) :
    parse names tokens ≠ .error (.malformed offset reason) := by
  intro failed
  obtain ⟨before, rest, split, breaks, _⟩ := breaks_of_parse failed
  rw [split, List.map_append] at phrase
  cases rest with
  | nil => exact breaks.2 (by rwa [List.map_nil, List.append_nil] at phrase)
  | cons culprit others => exact breaks.2 ⟨others.map (·.value), by simpa using phrase⟩

/-- What is read at the offset of a token is the token. -/
def StandsIn (offset : Nat) (text : List Char) (placed : Placed Token) : Prop :=
  ∃ front c back more, text = front ++ c :: back ∧ offset + byteLength front = placed.offset ∧
    Lexer.lexeme placed.offset c back = .ok (some placed.value, more)

/-- Tokens stand in a text in order, and begin before it ends. -/
structure Located (offset : Nat) (text : List Char) (items : List (Placed Token)) : Prop where
  stands : ∀ placed ∈ items, StandsIn offset text placed
  inOrder : (items.map (·.offset)).Pairwise (· < ·)
  inside : ∀ placed ∈ items, offset ≤ placed.offset ∧ placed.offset < offset + byteLength text

theorem Lexer.byteLength_of_lexeme {c : Char} {rest : List Char} {token? : Option Token} {more : Nat}
    (read : lexeme offset c rest = .ok (token?, more)) : byteLength (c :: rest.take more) = 1 + more := by
  obtain ⟨front, isFront, rfl⟩ := Bytewise.front_lexeme read
  have taken : rest.take front.length = front := by
    obtain ⟨others, rfl⟩ := (List.cons_prefix_cons.mp isFront.leads).2
    exact List.take_left
  rw [taken, isFront.byteLength_eq, List.length_cons, Nat.add_comm]

theorem Lexer.located_of_run {text : List Char} {items : List (Placed Token)} (read : run offset text = .ok items) :
    Located offset text items := by
  induction offset, text using run.induct generalizing items with
  | case1 offset =>
      unfold run at read
      cases read
      exact ⟨by simp, .nil, by simp⟩
  | case2 offset c rest e failed =>
      unfold run at read
      simp only [failed] at read
      cases read
  | case3 offset c rest token? more found e failed =>
      unfold run at read
      simp only [found, failed] at read
      cases read
  | case4 offset c rest token? more found later ran ih =>
      unfold run at read
      simp only [found, ran] at read
      have taken := byteLength_of_lexeme found
      have split : c :: rest = (c :: rest.take more) ++ rest.drop more := by
        rw [List.cons_append, List.take_append_drop]
      have whole : byteLength (c :: rest) = 1 + more + byteLength (rest.drop more) := by
        rw [split, byteLength_append, taken]
      have others := ih ran
      have stands : ∀ placed ∈ later, StandsIn offset (c :: rest) placed := by
        intro placed member
        obtain ⟨front, d, back, length, text, place, here⟩ := others.stands placed member
        refine ⟨(c :: rest.take more) ++ front, d, back, length, ?_, ?_, here⟩
        · rw [split, text, List.append_assoc]
        · rw [byteLength_append, taken, ← place]
          omega
      have inside : ∀ placed ∈ later, offset < placed.offset ∧ placed.offset < offset + byteLength (c :: rest) := by
        intro placed member
        have := others.inside placed member
        omega
      cases token? with
      | none =>
          cases read
          refine ⟨stands, others.inOrder, fun placed member => ?_⟩
          obtain ⟨behind, before⟩ := inside placed member
          exact ⟨Nat.le_of_lt behind, before⟩
      | some token =>
          cases read
          refine ⟨List.forall_mem_cons.mpr ⟨⟨[], c, rest, more, rfl, rfl, found⟩, stands⟩, ?_, ?_⟩
          · rw [List.map_cons, List.pairwise_cons]
            refine ⟨fun place isLater => ?_, others.inOrder⟩
            obtain ⟨placed, member, rfl⟩ := List.mem_map.mp isLater
            exact (inside placed member).1
          · refine List.forall_mem_cons.mpr ⟨⟨Nat.le_refl _, ?_⟩, fun placed member => ?_⟩
            · dsimp only
              omega
            · obtain ⟨behind, before⟩ := inside placed member
              exact ⟨Nat.le_of_lt behind, before⟩

theorem located_of_tokenize (tokenized : tokenize source = .ok tokens) :
    Located 0 source.toList tokens.items ∧ tokens.ends = source.utf8ByteSize := by
  obtain ⟨items, ran, rfl⟩ := map_eq_ok.1 tokenized
  exact ⟨Lexer.located_of_run ran, rfl⟩

/-- What is behind a token begins behind it. -/
theorem offset_lt_offsetOf {before others : List (Placed Token)} {culprit : Placed Token}
    (tokenized : tokenize source = .ok tokens) (split : tokens.items = before ++ culprit :: others) :
    culprit.offset < offsetOf tokens.ends others := by
  obtain ⟨located, ends⟩ := located_of_tokenize tokenized
  cases others with
  | nil =>
      have inside := (located.inside culprit (by simp [split])).2
      rw [byteLength_toList, Nat.zero_add] at inside
      rw [offsetOf, ends]
      exact inside
  | cons next others =>
      have inOrder := located.inOrder
      rw [split, List.map_append, List.pairwise_append, List.map_cons, List.pairwise_cons] at inOrder
      exact inOrder.2.1.1 next.offset List.mem_cons_self

theorem breaksAt_unique {other : Nat} (breaks : BreaksAt tokens offset) (otherBreaks : BreaksAt tokens other) :
    offset = other := by
  obtain ⟨before, rest, split, broken, rfl⟩ := breaks
  obtain ⟨beforeToo, restToo, splitToo, brokenToo, rfl⟩ := otherBreaks
  have same : before.map (·.value) ++ rest.map (·.value) = beforeToo.map (·.value) ++ restToo.map (·.value) := by
    rw [← List.map_append, ← List.map_append, ← split, ← splitToo]
  have lengths := congrArg List.length (broken.unique brokenToo same).1
  rw [List.length_map, List.length_map] at lengths
  obtain ⟨_, rfl⟩ := List.append_inj (split.symm.trans splitToo) lengths
  rfl

/-- A text that is malformed, though it has tokens, breaks at one of them or at its end, and this is what the
reason complains about.  The offset is that of the break, unless the reason is a token that cannot begin an
operand: then it is the offset of what stands behind that token, and not where the text breaks. -/
theorem compile_malformed (failed : compile source names = .error (.fault source (.malformed offset reason)))
    (tokenized : tokenize source = .ok tokens) :
    (∃ before rest, tokens.items = before ++ rest ∧ Breaks (before.map (·.value)) (rest.map (·.value)) ∧
        (∀ placed ∈ rest.head?, StandsIn 0 source.toList placed) ∧ tokens.ends = source.utf8ByteSize ∧
        Complains tokens.ends offset reason rest) ∧
      (BreaksAt tokens offset ↔ ∀ token, reason ≠ .unexpected token) ∧
      ∀ place, BreaksAt tokens place → place ≤ offset := by
  have parseFailed : parse names tokens = .error (.malformed offset reason) := by
    unfold compile at failed
    split at failed
    · cases failed
    · rw [tokenized] at failed
      cases parsed : parse names tokens with
      | ok tree => simp [Except.bind, parsed] at failed
      | error fault => simpa [Except.bind, parsed] using failed
  obtain ⟨before, rest, split, breaks, complains⟩ := breaks_of_parse parseFailed
  obtain ⟨located, ends⟩ := located_of_tokenize tokenized
  have broken : BreaksAt tokens (offsetOf tokens.ends rest) := ⟨before, rest, split, breaks, rfl⟩
  refine ⟨⟨before, rest, split, breaks, fun placed first => ?_, ends, complains⟩, ?_, ?_⟩
  · apply located.stands
    rw [split]
    exact List.mem_append_right _ (List.mem_of_mem_head? first)
  · constructor
    · rintro breaksHere token rfl
      obtain ⟨culprit, others, rfl, rfl⟩ := complains.culprit
      have later := offset_lt_offsetOf tokenized split
      have same : offsetOf tokens.ends others = culprit.offset := breaksAt_unique breaksHere broken
      omega
    · intro known
      rwa [complains.offset_eq known]
  · intro place breaksThere
    rw [breaksAt_unique breaksThere broken]
    by_cases known : ∀ token, reason ≠ .unexpected token
    · exact Nat.le_of_eq (complains.offset_eq known).symm
    · obtain ⟨token, same⟩ := not_forall.mp known
      obtain rfl := not_not.mp same
      obtain ⟨culprit, others, rfl, rfl⟩ := complains.culprit
      exact Nat.le_of_lt (offset_lt_offsetOf tokenized split)

/-- A missing parenthesis is reported at the end of the text. -/
theorem compile_malformed_unclosed :
    compile "(1 + 2" [] = .error (.fault "(1 + 2" (.malformed 6 (.expected ')'))) ∧
      ∃ tokens, tokenize "(1 + 2" = .ok tokens ∧ BreaksAt tokens 6 := by
  have refused : (compile "(1 + 2" []).map (fun _ => ()) =
      .error (.fault "(1 + 2" (.malformed 6 (.expected ')'))) := by decide +kernel
  have failed := map_eq_error.1 refused
  have tokenized : tokenize "(1 + 2" =
      .ok ⟨[⟨.leftParen, 0⟩, ⟨.number 1, 1⟩, ⟨.operator .add, 3⟩, ⟨.number 2, 5⟩], 6⟩ := by decide +kernel
  exact ⟨failed, _, tokenized, (compile_malformed failed tokenized).2.1.mpr (by simp)⟩

/-- The second operator is reported where the number behind it begins. -/
theorem not_breaksAt_reported :
    compile "1+*2" [] = .error (.fault "1+*2" (.malformed 3 (.unexpected (.operator .mul)))) ∧
      ∃ tokens, tokenize "1+*2" = .ok tokens ∧ BreaksAt tokens 2 ∧ ¬ BreaksAt tokens 3 := by
  have refused : (compile "1+*2" []).map (fun _ => ()) =
      .error (.fault "1+*2" (.malformed 3 (.unexpected (.operator .mul)))) := by decide +kernel
  have tokenized : tokenize "1+*2" =
      .ok ⟨[⟨.number 1, 0⟩, ⟨.operator .add, 1⟩, ⟨.operator .mul, 2⟩, ⟨.number 2, 3⟩], 4⟩ := by decide +kernel
  have one : Phrase .sum [.number 1] := .product (.unary (.power (.atom (.number 1))))
  have two : Phrase .product [.number 2] := .unary (.power (.atom (.number 2)))
  have breaks : Breaks [.number 1, .operator .add] [.operator .mul, .number 2] :=
    Grammar.breaks_of_blocked ⟨[.number 2], one.addition .add (.inl rfl) two⟩ rfl rfl
  have breaksAtTwo : BreaksAt ⟨[⟨.number 1, 0⟩, ⟨.operator .add, 1⟩, ⟨.operator .mul, 2⟩, ⟨.number 2, 3⟩], 4⟩ 2 :=
    ⟨[⟨.number 1, 0⟩, ⟨.operator .add, 1⟩], [⟨.operator .mul, 2⟩, ⟨.number 2, 3⟩], rfl, breaks, rfl⟩
  refine ⟨map_eq_error.1 refused, _, tokenized, breaksAtTwo, fun breaksAtThree => ?_⟩
  exact absurd (breaksAt_unique breaksAtTwo breaksAtThree) (by decide)

end DensityGraph.Formula
