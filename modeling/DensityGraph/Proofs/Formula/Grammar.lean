import DensityGraph.Formula.Basic
import DensityGraph.Proofs.Result
import DensityGraph.Proofs.Text.Taken

/-!
# The grammar of formulas

The grammar is a family of derivations that know nothing of how a text is read: they say which tokens
spell which expression.  The parser is sound for it, since the tokens that each reader takes derive what
it returns, and complete, since it finds every derivation.  Completeness has to say what may follow the
tokens that are read: a reader stops where the next token cannot continue what it has read.
-/

namespace DensityGraph.Formula

open DensityGraph.Text (Placed Tokens Begins begins_nil_iff begins_cons_iff begins_append_iff begins_all_iff begins_single
  Takes takes_error takes_ok Gives Avoids avoids_cons_iff avoids_nil lt_of_behind)

/-- What a function is called in a formula. -/
def Builtin.name : Builtin → String
  | .sqrt => "sqrt"
  | .exp => "exp"
  | .log => "log"
  | .abs => "abs"
  | .sin => "sin"
  | .cos => "cos"
  | .pow => "pow"
  | .min => "min"
  | .max => "max"

theorem Builtin.ofName?_name (function : Builtin) : ofName? function.name = some function := by
  cases function <;> rfl

theorem Builtin.name_of_ofName? {name : String} {function : Builtin} (found : ofName? name = some function) :
    name = function.name := by
  unfold ofName? at found
  split at found <;> cases found <;> rfl

theorem Builtin.arity_pos (function : Builtin) : 0 < function.arity := by
  cases function <;> decide

namespace Grammar

/-- A name stands at the index in the list, and nowhere before it. -/
def FirstAt (names : List String) (name : String) (index : Nat) : Prop :=
  names[index]? = some name ∧ ∀ earlier < index, names[earlier]? ≠ some name

theorem FirstAt.unique {names : List String} {name : String} {index other : Nat}
    (first : FirstAt names name index) (second : FirstAt names name other) : index = other := by
  rcases Nat.lt_trichotomy index other with lower | same | higher
  · exact absurd first.1 (second.2 index lower)
  · exact same
  · exact absurd second.1 (first.2 other higher)

mutual

/-- Products joined by `+` and `-`, grouped to the left. -/
inductive Sum (names : List String) : List Token → Expr → Prop where
  | product {tokens : List Token} {tree : Expr} (derived : Product names tokens tree) : Sum names tokens tree
  | operation {before after : List Token} {left right : Expr} (op : Operator)
      (additive : op = .add ∨ op = .sub) (first : Sum names before left)
      (second : Product names after right) :
      Sum names (before ++ .operator op :: after) (.binary op left right)

/-- Signed powers joined by `*` and `/`, grouped to the left. -/
inductive Product (names : List String) : List Token → Expr → Prop where
  | unary {tokens : List Token} {tree : Expr} (derived : Unary names tokens tree) : Product names tokens tree
  | operation {before after : List Token} {left right : Expr} (op : Operator)
      (multiplicative : op = .mul ∨ op = .div) (first : Product names before left)
      (second : Unary names after right) :
      Product names (before ++ .operator op :: after) (.binary op left right)

/-- Signs in front of a power, of which `+` leaves no trace in the tree. -/
inductive Unary (names : List String) : List Token → Expr → Prop where
  | minus {tokens : List Token} {tree : Expr} (operand : Unary names tokens tree) :
      Unary names (.operator .sub :: tokens) (.negate tree)
  | plus {tokens : List Token} {tree : Expr} (operand : Unary names tokens tree) :
      Unary names (.operator .add :: tokens) tree
  | power {tokens : List Token} {tree : Expr} (derived : Power names tokens tree) : Unary names tokens tree

/-- An atom, which may be raised to an exponent that may have signs and may be a power itself. -/
inductive Power (names : List String) : List Token → Expr → Prop where
  | atom {tokens : List Token} {tree : Expr} (derived : Atom names tokens tree) : Power names tokens tree
  | raised {before after : List Token} {left right : Expr} (base : Atom names before left)
      (exponent : Unary names after right) :
      Power names (before ++ .operator .pow :: after) (.binary .pow left right)

/-- A number, a dependency by index or by name, a call or a sum in parentheses.  No parenthesis opens behind a
dependency: the grammar has none behind an atom. -/
inductive Atom (names : List String) : List Token → Expr → Prop where
  | number (value : Float) : Atom names [.number value] (.number value)
  | positional {index : Nat} (declared : index < names.length) : Atom names [.positional index] (.slot index)
  | name {name : String} {index : Nat} (first : FirstAt names name index) :
      Atom names [.identifier name] (.slot index)
  | call {tokens : List Token} {trees : List Expr} (function : Builtin)
      (derived : Arguments names tokens trees) (counted : trees.length = function.arity) :
      Atom names (.identifier function.name :: .leftParen :: (tokens ++ [.rightParen])) (.call function trees)
  | parentheses {tokens : List Token} {tree : Expr} (inside : Sum names tokens tree) :
      Atom names (.leftParen :: (tokens ++ [.rightParen])) tree

/-- One sum or more, with commas between them. -/
inductive Arguments (names : List String) : List Token → List Expr → Prop where
  | single {tokens : List Token} {tree : Expr} (derived : Sum names tokens tree) :
      Arguments names tokens [tree]
  | more {before after : List Token} {trees : List Expr} {tree : Expr} (earlier : Arguments names before trees)
      (last : Sum names after tree) :
      Arguments names (before ++ .comma :: after) (trees ++ [tree])

end

end Grammar

variable {α : Type} {ctx : Context} {names : List String} {name : String} {bound : Nat}
variable {tokens rest middle : List (Placed Token)} {values before after : List Token} {token : Token}
variable {tree left right : Expr} {trees : List Expr}

namespace Parser

theorem sumOperator?_eq_some {op : Operator} (found : sumOperator? tokens = some op) :
    (op = .add ∨ op = .sub) ∧ ∃ offset, tokens = ⟨.operator op, offset⟩ :: tokens.tail := by
  unfold sumOperator? at found
  split at found <;> cases found <;> exact ⟨by simp, _, rfl⟩

theorem productOperator?_eq_some {op : Operator} (found : productOperator? tokens = some op) :
    (op = .mul ∨ op = .div) ∧ ∃ offset, tokens = ⟨.operator op, offset⟩ :: tokens.tail := by
  unfold productOperator? at found
  split at found <;> cases found <;> exact ⟨by simp, _, rfl⟩

theorem slotOf_eq_ok : slotOf ctx name = .ok tree ↔
    ∃ index, Grammar.FirstAt ctx.dependencies name index ∧ tree = .slot index := by
  unfold slotOf
  cases found : ctx.dependencies.idxOf? name with
  | none =>
      simp only [reduceCtorEq, false_iff, not_exists, not_and]
      rintro index ⟨here, -⟩ -
      exact List.idxOf?_eq_none_iff.mp found (List.mem_of_getElem? here)
  | some index =>
      have first : Grammar.FirstAt ctx.dependencies name index := by
        obtain ⟨inside, here, notBefore⟩ := List.idxOf?_eq_some_iff.mp found
        refine ⟨List.getElem?_eq_some_iff.mpr ⟨inside, here⟩, fun earlier before there => ?_⟩
        exact notBefore earlier before (List.getElem?_eq_some_iff.mp there).2
      constructor
      · rintro ⟨⟩
        exact ⟨index, first, rfl⟩
      · rintro ⟨other, otherFirst, rfl⟩
        rw [first.unique otherFirst]

theorem closing_eq_ok {inside read : Parsed α bound} : closing ctx inside = .ok read ↔
    ∃ offset, inside.rest = ⟨.rightParen, offset⟩ :: read.rest ∧ read.value = inside.value := by
  obtain ⟨value, rest, shorter⟩ := inside
  obtain ⟨readValue, readRest, readShorter⟩ := read
  match rest with
  | [] => simp [closing]
  | ⟨token, offset⟩ :: rest =>
    cases token <;> simp [closing, and_comm, eq_comm]

theorem begins_of_closing {inside read : Parsed α bound} (closed : closing ctx inside = .ok read) :
    Begins [.rightParen] inside.rest read.rest ∧ read.value = inside.value := by
  obtain ⟨offset, shape, same⟩ := closing_eq_ok.mp closed
  exact ⟨(begins_nil_iff.mpr rfl).behind shape, same⟩

mutual

theorem sum_sound (ctx : Context) (tokens : List (Placed Token)) :
    Takes (sum ctx tokens) tokens (Grammar.Sum ctx.dependencies) := by
  rw [sum.eq_def]
  split
  · exact takes_error
  · rename_i left ran
    obtain ⟨values, begun, derived⟩ := product_sound ctx tokens left ran
    have fewer := left.shorter
    exact sumTail_sound ctx tokens.length left begun (.product derived)
termination_by 7 * tokens.length + 4
decreasing_by all_goals omega

theorem sumTail_sound (ctx : Context) (bound : Nat) (before : Parsed Expr bound) {tokens : List (Placed Token)}
    {values : List Token} (begun : Begins values tokens before.rest)
    (derived : Grammar.Sum ctx.dependencies values before.value) :
    Takes (sumTail ctx bound before) tokens (Grammar.Sum ctx.dependencies) := by
  rw [sumTail.eq_def]
  split
  · exact takes_ok begun derived
  · rename_i op found
    split
    · exact takes_error
    · rename_i next ran
      obtain ⟨additive, offset, shape⟩ := sumOperator?_eq_some found
      have fewer := tail_lt_of_sumOperator? found
      have fewerStill := next.shorter
      obtain ⟨taken, begunNext, derivedNext⟩ := product_sound ctx before.rest.tail next ran
      have wholly : Begins (values ++ .operator op :: taken) tokens next.rest :=
        begun.append (begunNext.behind shape)
      exact sumTail_sound ctx bound _ wholly (.operation op additive derived derivedNext)
termination_by 7 * before.rest.length + 5
decreasing_by all_goals omega

theorem product_sound (ctx : Context) (tokens : List (Placed Token)) :
    Takes (product ctx tokens) tokens (Grammar.Product ctx.dependencies) := by
  rw [product.eq_def]
  split
  · exact takes_error
  · rename_i left ran
    obtain ⟨values, begun, derived⟩ := unary_sound ctx tokens left ran
    have fewer := left.shorter
    exact productTail_sound ctx tokens.length left begun (.unary derived)
termination_by 7 * tokens.length + 3
decreasing_by all_goals omega

theorem productTail_sound (ctx : Context) (bound : Nat) (before : Parsed Expr bound)
    {tokens : List (Placed Token)} {values : List Token} (begun : Begins values tokens before.rest)
    (derived : Grammar.Product ctx.dependencies values before.value) :
    Takes (productTail ctx bound before) tokens (Grammar.Product ctx.dependencies) := by
  rw [productTail.eq_def]
  split
  · exact takes_ok begun derived
  · rename_i op found
    split
    · exact takes_error
    · rename_i next ran
      obtain ⟨multiplicative, offset, shape⟩ := productOperator?_eq_some found
      have fewer := tail_lt_of_productOperator? found
      have fewerStill := next.shorter
      obtain ⟨taken, begunNext, derivedNext⟩ := unary_sound ctx before.rest.tail next ran
      have wholly : Begins (values ++ .operator op :: taken) tokens next.rest :=
        begun.append (begunNext.behind shape)
      exact productTail_sound ctx bound _ wholly (.operation op multiplicative derived derivedNext)
termination_by 7 * before.rest.length + 4
decreasing_by all_goals omega

theorem unary_sound (ctx : Context) (tokens : List (Placed Token)) :
    Takes (unary ctx tokens) tokens (Grammar.Unary ctx.dependencies) := by
  rw [unary.eq_def]
  split
  · rename_i offset rest
    split
    · exact takes_error
    · rename_i operand ran
      obtain ⟨values, begun, derived⟩ := unary_sound ctx rest operand ran
      exact takes_ok (begun.behind rfl) (.minus derived)
  · rename_i offset rest
    split
    · exact takes_error
    · rename_i operand ran
      obtain ⟨values, begun, derived⟩ := unary_sound ctx rest operand ran
      exact takes_ok (begun.behind rfl) (.plus derived)
  · intro read ran
    obtain ⟨values, begun, derived⟩ := power_sound ctx tokens read ran
    exact ⟨values, begun, .power derived⟩
termination_by 7 * tokens.length + 2

theorem power_sound (ctx : Context) (tokens : List (Placed Token)) :
    Takes (power ctx tokens) tokens (Grammar.Power ctx.dependencies) := by
  rw [power.eq_def]
  split
  · exact takes_error
  · rename_i base ran
    obtain ⟨values, begun, derived⟩ := atom_sound ctx tokens base ran
    split
    · rename_i offset rest behind
      have fewer : rest.length < tokens.length := by
        have := base.shorter
        rw [behind, List.length_cons] at this
        omega
      split
      · exact takes_error
      · rename_i exponent ranExponent
        obtain ⟨taken, begunExponent, derivedExponent⟩ := unary_sound ctx rest exponent ranExponent
        rw [behind] at begun
        exact takes_ok (begun.append (begunExponent.behind rfl)) (.raised derived derivedExponent)
    · exact takes_ok begun (.atom derived)
termination_by 7 * tokens.length + 1
decreasing_by all_goals omega

theorem atom_sound (ctx : Context) (tokens : List (Placed Token)) :
    Takes (atom ctx tokens) tokens (Grammar.Atom ctx.dependencies) := by
  rw [atom.eq_def]
  split
  case h_1 => exact takes_error
  case h_2 value offset rest => exact takes_ok (begins_single _ offset) (.number value)
  case h_3 index offset rest =>
    split
    · rename_i declared
      exact takes_ok (begins_single _ offset) (.positional declared)
    · exact takes_error
  case h_4 name offset second rest =>
    split
    · exact takes_error
    · rename_i function found
      split
      · exact takes_error
      · rename_i inside ran
        split
        · exact takes_error
        · rename_i read closed
          split
          · rename_i counted
            obtain ⟨values, begun, empty | derived⟩ := arguments_sound ctx rest inside ran
            · have none_given : read.value = [] := (begins_of_closing closed).2.trans empty
              have takes_some := function.arity_pos
              rw [← counted, none_given] at takes_some
              exact absurd takes_some (Nat.lt_irrefl 0)
            · obtain ⟨begunEnd, same⟩ := begins_of_closing closed
              obtain rfl := Builtin.name_of_ofName? found
              exact takes_ok (((begun.append begunEnd).behind rfl).behind rfl)
                (.call function (same ▸ derived) counted)
          · exact takes_error
  case h_5 name offset rest _ =>
    split
    · exact takes_error
    · rename_i slot found
      obtain ⟨index, first, rfl⟩ := slotOf_eq_ok.mp found
      exact takes_ok (begins_single _ offset) (.name first)
  case h_6 offset rest =>
    split
    · exact takes_error
    · rename_i inside ran
      split
      · exact takes_error
      · rename_i read closed
        obtain ⟨values, begun, derived⟩ := sum_sound ctx rest inside ran
        obtain ⟨begunEnd, same⟩ := begins_of_closing closed
        exact takes_ok ((begun.append begunEnd).behind rfl) (same ▸ .parentheses derived)
  case h_7 => exact takes_error
termination_by 7 * tokens.length + 0

theorem arguments_sound (ctx : Context) (tokens : List (Placed Token)) :
    Takes (arguments ctx tokens) tokens
      fun values trees => trees = [] ∨ Grammar.Arguments ctx.dependencies values trees := by
  rw [arguments.eq_def]
  split
  · exact takes_ok (begins_nil_iff.mpr rfl) (.inl rfl)
  · split
    · exact takes_error
    · rename_i first ran
      obtain ⟨values, begun, derived⟩ := sum_sound ctx tokens first ran
      have fewer := first.shorter
      intro read ranTail
      obtain ⟨taken, begunAll, derivedAll⟩ :=
        argumentsTail_sound ctx (tokens.length + 1) _ begun (.single derived) read ranTail
      exact ⟨taken, begunAll, .inr derivedAll⟩
termination_by 7 * tokens.length + 6
decreasing_by all_goals omega

theorem argumentsTail_sound (ctx : Context) (bound : Nat) (before : Parsed (List Expr) bound)
    {tokens : List (Placed Token)} {values : List Token} (begun : Begins values tokens before.rest)
    (derived : Grammar.Arguments ctx.dependencies values before.value) :
    Takes (argumentsTail ctx bound before) tokens (Grammar.Arguments ctx.dependencies) := by
  rw [argumentsTail.eq_def]
  split
  · rename_i offset rest behind
    have fewer : rest.length < before.rest.length := by
      rw [behind, List.length_cons]
      exact Nat.lt_succ_self _
    split
    · exact takes_error
    · rename_i next ran
      obtain ⟨taken, begunNext, derivedNext⟩ := sum_sound ctx rest next ran
      have fewerStill := next.shorter
      have wholly : Begins (values ++ .comma :: taken) tokens next.rest :=
        begun.append (begunNext.behind behind)
      exact argumentsTail_sound ctx bound _ wholly (.more derived derivedNext)
  · exact takes_ok begun derived
termination_by 7 * before.rest.length + 6
decreasing_by all_goals omega

end

/-- What would continue a power that is read. -/
abbrev powerStops : List Token := [.leftParen, .operator .pow]

/-- What would continue a product that is read. -/
abbrev productStops : List Token := .operator .mul :: .operator .div :: powerStops

/-- What would continue a sum that is read. -/
abbrev sumStops : List Token := .operator .add :: .operator .sub :: productStops

theorem sumTail_stops {read : Parsed Expr bound} (avoids : Avoids sumStops read.rest) :
    sumTail ctx bound read = .ok read := by
  rw [sumTail.eq_def]
  split
  · rfl
  · rename_i op found
    obtain ⟨additive, offset, shape⟩ := sumOperator?_eq_some found
    rw [shape, avoids_cons_iff] at avoids
    rcases additive with rfl | rfl <;> simp at avoids

theorem productTail_stops {read : Parsed Expr bound} (avoids : Avoids productStops read.rest) :
    productTail ctx bound read = .ok read := by
  rw [productTail.eq_def]
  split
  · rfl
  · rename_i op found
    obtain ⟨multiplicative, offset, shape⟩ := productOperator?_eq_some found
    rw [shape, avoids_cons_iff] at avoids
    rcases multiplicative with rfl | rfl <;> simp at avoids

theorem argumentsTail_stops {read : Parsed (List Expr) bound} (avoids : Avoids [.comma] read.rest) :
    argumentsTail ctx bound read = .ok read := by
  rw [argumentsTail.eq_def]
  split
  · rename_i offset rest behind
    rw [behind, avoids_cons_iff] at avoids
    simp at avoids
  · rfl

theorem sumTail_operation {op : Operator} {offset : Nat}
    {shorter : (⟨.operator op, offset⟩ :: middle).length < bound} (additive : op = .add ∨ op = .sub)
    (given : Gives (product ctx middle) right rest) :
    ∃ less, sumTail ctx bound ⟨left, ⟨.operator op, offset⟩ :: middle, shorter⟩ =
      sumTail ctx bound ⟨.binary op left right, rest, less⟩ := by
  obtain ⟨fewer, given⟩ := given
  refine ⟨lt_of_behind shorter fewer, ?_⟩
  rw [sumTail.eq_def]
  rcases additive with rfl | rfl <;> simp only [sumOperator?, List.tail_cons, given]

theorem productTail_operation {op : Operator} {offset : Nat}
    {shorter : (⟨.operator op, offset⟩ :: middle).length < bound} (multiplicative : op = .mul ∨ op = .div)
    (given : Gives (unary ctx middle) right rest) :
    ∃ less, productTail ctx bound ⟨left, ⟨.operator op, offset⟩ :: middle, shorter⟩ =
      productTail ctx bound ⟨.binary op left right, rest, less⟩ := by
  obtain ⟨fewer, given⟩ := given
  refine ⟨lt_of_behind shorter fewer, ?_⟩
  rw [productTail.eq_def]
  rcases multiplicative with rfl | rfl <;> simp only [productOperator?, List.tail_cons, given]

theorem argumentsTail_comma {offset : Nat} {shorter : (⟨.comma, offset⟩ :: middle).length < bound}
    (given : Gives (sum ctx middle) tree rest) :
    ∃ less, argumentsTail ctx bound ⟨trees, ⟨.comma, offset⟩ :: middle, shorter⟩ =
      argumentsTail ctx bound ⟨trees ++ [tree], rest, less⟩ := by
  obtain ⟨fewer, given⟩ := given
  refine ⟨lt_of_behind shorter fewer, ?_⟩
  rw [argumentsTail.eq_def]
  simp only [given]

/-- A product that is read up to where no product goes on. -/
theorem gives_product
    (read : ∃ shorter, product ctx tokens = productTail ctx tokens.length ⟨tree, rest, shorter⟩)
    (avoids : Avoids productStops rest) : Gives (product ctx tokens) tree rest := by
  obtain ⟨shorter, read⟩ := read
  exact ⟨shorter, read.trans (productTail_stops avoids)⟩

/-- A sum that is read up to where no sum goes on. -/
theorem gives_sum (read : ∃ shorter, sum ctx tokens = sumTail ctx tokens.length ⟨tree, rest, shorter⟩)
    (avoids : Avoids sumStops rest) : Gives (sum ctx tokens) tree rest := by
  obtain ⟨shorter, read⟩ := read
  exact ⟨shorter, read.trans (sumTail_stops avoids)⟩

theorem not_gives_sum_rightParen {offset : Nat} {more : List (Placed Token)} :
    ¬ Gives (sum ctx (⟨.rightParen, offset⟩ :: more)) tree rest := by
  rintro ⟨shorter, read⟩
  simp [sum, product, unary, power, atom] at read

theorem not_gives_power_operator {op : Operator} {offset : Nat} {more : List (Placed Token)} :
    ¬ Gives (power ctx (⟨.operator op, offset⟩ :: more)) tree rest := by
  rintro ⟨shorter, read⟩
  simp [power, atom] at read

/-- A power that begins with no sign is read as one without signs. -/
theorem gives_unary (given : Gives (power ctx tokens) tree rest) : Gives (unary ctx tokens) tree rest := by
  rw [unary.eq_def]
  split
  · exact absurd given not_gives_power_operator
  · exact absurd given not_gives_power_operator
  · exact given

/-- An atom without an exponent behind it is a power. -/
theorem gives_power (given : Gives (atom ctx tokens) tree rest) (avoids : Avoids powerStops rest) :
    Gives (power ctx tokens) tree rest := by
  obtain ⟨shorter, read⟩ := given
  refine ⟨shorter, ?_⟩
  rw [power.eq_def, read]
  dsimp only
  split
  · simp [avoids_cons_iff] at avoids
  · rfl

theorem gives_atom_name {index offset : Nat} (first : Grammar.FirstAt ctx.dependencies name index)
    (avoids : Avoids [.leftParen] rest) :
    Gives (atom ctx (⟨.identifier name, offset⟩ :: rest)) (.slot index) rest := by
  have slot : slotOf ctx name = .ok (.slot index) := slotOf_eq_ok.mpr ⟨index, first, rfl⟩
  refine ⟨by simp, ?_⟩
  rw [atom]
  · simp only [slot]
  · rintro second more rfl
    simp [avoids_cons_iff] at avoids

/-
The induction is on the derivation, through all six of its kinds.  Sums, products and arguments grow to the
left, so what their earlier part gives is the state in which the loop goes on, and not yet a result.
-/

mutual

theorem sum_complete {values : List Token} {tree : Expr} {tokens rest : List (Placed Token)}
    (derived : Grammar.Sum ctx.dependencies values tree)
    (begun : Begins values tokens rest) (avoids : Avoids productStops rest) :
    ∃ shorter, sum ctx tokens = sumTail ctx tokens.length ⟨tree, rest, shorter⟩ := by
  match derived with
  | .product derived =>
      obtain ⟨shorter, read⟩ := gives_product (product_complete derived begun (avoids.mono (by simp))) avoids
      exact ⟨shorter, by rw [sum.eq_def, read]⟩
  | .operation op additive first second =>
      obtain ⟨middle, begunFirst, begunBehind⟩ := begins_append_iff.mp begun
      obtain ⟨offset, more, rfl, begunSecond⟩ := begins_cons_iff.mp begunBehind
      have stops : Token.operator op ∉ productStops := by rcases additive with rfl | rfl <;> simp
      obtain ⟨_, readFirst⟩ := sum_complete first begunFirst (avoids_cons_iff.mpr stops)
      have given := gives_product (product_complete second begunSecond (avoids.mono (by simp))) avoids
      obtain ⟨shorter, read⟩ := sumTail_operation additive given
      exact ⟨shorter, readFirst.trans read⟩

theorem product_complete {values : List Token} {tree : Expr} {tokens rest : List (Placed Token)}
    (derived : Grammar.Product ctx.dependencies values tree)
    (begun : Begins values tokens rest) (avoids : Avoids powerStops rest) :
    ∃ shorter, product ctx tokens = productTail ctx tokens.length ⟨tree, rest, shorter⟩ := by
  match derived with
  | .unary derived =>
      obtain ⟨shorter, read⟩ := unary_complete derived begun avoids
      exact ⟨shorter, by rw [product.eq_def, read]⟩
  | .operation op multiplicative first second =>
      obtain ⟨middle, begunFirst, begunBehind⟩ := begins_append_iff.mp begun
      obtain ⟨offset, more, rfl, begunSecond⟩ := begins_cons_iff.mp begunBehind
      have stops : Token.operator op ∉ powerStops := by rcases multiplicative with rfl | rfl <;> simp
      obtain ⟨_, readFirst⟩ := product_complete first begunFirst (avoids_cons_iff.mpr stops)
      obtain ⟨shorter, read⟩ := productTail_operation multiplicative (unary_complete second begunSecond avoids)
      exact ⟨shorter, readFirst.trans read⟩

theorem unary_complete {values : List Token} {tree : Expr} {tokens rest : List (Placed Token)}
    (derived : Grammar.Unary ctx.dependencies values tree)
    (begun : Begins values tokens rest) (avoids : Avoids powerStops rest) :
    Gives (unary ctx tokens) tree rest := by
  match derived with
  | .minus operand =>
      obtain ⟨offset, more, rfl, begunOperand⟩ := begins_cons_iff.mp begun
      obtain ⟨shorter, read⟩ := unary_complete operand begunOperand avoids
      exact ⟨by rw [List.length_cons]; omega, by rw [unary.eq_def]; simp only [read]⟩
  | .plus operand =>
      obtain ⟨offset, more, rfl, begunOperand⟩ := begins_cons_iff.mp begun
      obtain ⟨shorter, read⟩ := unary_complete operand begunOperand avoids
      exact ⟨by rw [List.length_cons]; omega, by rw [unary.eq_def]; simp only [read]; rfl⟩
  | .power derived =>
      exact gives_unary (power_complete derived begun avoids)

theorem power_complete {values : List Token} {tree : Expr} {tokens rest : List (Placed Token)}
    (derived : Grammar.Power ctx.dependencies values tree)
    (begun : Begins values tokens rest) (avoids : Avoids powerStops rest) :
    Gives (power ctx tokens) tree rest := by
  match derived with
  | .atom derived =>
      exact gives_power (atom_complete derived begun (avoids.mono (by simp))) avoids
  | .raised base exponent =>
      obtain ⟨middle, begunBase, begunBehind⟩ := begins_append_iff.mp begun
      obtain ⟨offset, more, rfl, begunExponent⟩ := begins_cons_iff.mp begunBehind
      obtain ⟨shorterBase, readBase⟩ := atom_complete base begunBase (avoids_cons_iff.mpr (by simp))
      obtain ⟨shorter, read⟩ := unary_complete exponent begunExponent avoids
      rw [List.length_cons] at shorterBase
      exact ⟨by omega, by rw [power.eq_def]; simp only [readBase, read]⟩

theorem atom_complete {values : List Token} {tree : Expr} {tokens rest : List (Placed Token)}
    (derived : Grammar.Atom ctx.dependencies values tree)
    (begun : Begins values tokens rest) (avoids : Avoids [.leftParen] rest) :
    Gives (atom ctx tokens) tree rest := by
  match derived with
  | .number value =>
      obtain ⟨offset, _, rfl, nothing⟩ := begins_cons_iff.mp begun
      obtain rfl := begins_nil_iff.mp nothing
      exact ⟨by simp, by rw [atom.eq_def]⟩
  | .positional declared =>
      obtain ⟨offset, _, rfl, nothing⟩ := begins_cons_iff.mp begun
      obtain rfl := begins_nil_iff.mp nothing
      exact ⟨by simp, by rw [atom.eq_def]; simp only [declared, ↓reduceIte]⟩
  | .name first =>
      obtain ⟨offset, _, rfl, nothing⟩ := begins_cons_iff.mp begun
      obtain rfl := begins_nil_iff.mp nothing
      exact gives_atom_name first avoids
  | .call function derived counted =>
      obtain ⟨offset, _, rfl, begunBehind⟩ := begins_cons_iff.mp begun
      obtain ⟨second, _, rfl, begunInside⟩ := begins_cons_iff.mp begunBehind
      obtain ⟨middle, begunArguments, begunEnd⟩ := begins_append_iff.mp begunInside
      obtain ⟨third, _, rfl, nothing⟩ := begins_cons_iff.mp begunEnd
      obtain rfl := begins_nil_iff.mp nothing
      obtain ⟨shorter, read⟩ := arguments_complete derived begunArguments (avoids_cons_iff.mpr (by simp))
      rw [argumentsTail_stops (avoids_cons_iff.mpr (by simp))] at read
      rw [List.length_cons] at shorter
      refine ⟨by simp only [List.length_cons]; omega, ?_⟩
      rw [atom.eq_def]
      simp only [function.ofName?_name, read, closing, counted, ↓reduceIte]
  | .parentheses inside =>
      obtain ⟨offset, _, rfl, begunInside⟩ := begins_cons_iff.mp begun
      obtain ⟨middle, begunSum, begunEnd⟩ := begins_append_iff.mp begunInside
      obtain ⟨second, _, rfl, nothing⟩ := begins_cons_iff.mp begunEnd
      obtain rfl := begins_nil_iff.mp nothing
      obtain ⟨shorter, read⟩ :=
        gives_sum (sum_complete inside begunSum (avoids_cons_iff.mpr (by simp))) (avoids_cons_iff.mpr (by simp))
      rw [List.length_cons] at shorter
      refine ⟨by rw [List.length_cons]; omega, ?_⟩
      rw [atom.eq_def]
      simp only [read, closing]
      rfl

theorem arguments_complete {values : List Token} {trees : List Expr} {tokens rest : List (Placed Token)}
    (derived : Grammar.Arguments ctx.dependencies values trees)
    (begun : Begins values tokens rest) (avoids : Avoids sumStops rest) :
    ∃ shorter, arguments ctx tokens = argumentsTail ctx (tokens.length + 1) ⟨trees, rest, shorter⟩ := by
  match derived with
  | .single derived =>
      have given := gives_sum (sum_complete derived begun (avoids.mono (by simp))) avoids
      rw [arguments.eq_def]
      split
      · exact absurd given not_gives_sum_rightParen
      · obtain ⟨shorter, read⟩ := given
        exact ⟨by omega, by rw [read]⟩
  | .more earlier last =>
      obtain ⟨middle, begunEarlier, begunBehind⟩ := begins_append_iff.mp begun
      obtain ⟨offset, _, rfl, begunLast⟩ := begins_cons_iff.mp begunBehind
      obtain ⟨_, readEarlier⟩ := arguments_complete earlier begunEarlier (avoids_cons_iff.mpr (by simp))
      have given := gives_sum (sum_complete last begunLast (avoids.mono (by simp))) avoids
      obtain ⟨shorter, read⟩ := argumentsTail_comma given
      exact ⟨shorter, readEarlier.trans read⟩

end

end Parser

/-- What is parsed is derived from all tokens. -/
theorem derives_of_parse {placed : Tokens Token} (parsed : parse names placed = .ok tree) :
    Grammar.Sum names (placed.items.map (·.value)) tree := by
  unfold parse at parsed
  split at parsed
  · cases parsed
  · rename_i read ran
    split at parsed
    · rename_i nothing
      cases parsed
      obtain ⟨values, begun, derived⟩ := Parser.sum_sound ⟨names, placed.ends⟩ placed.items read ran
      rw [nothing, begins_all_iff] at begun
      exact begun ▸ derived
    · cases parsed

/-- Whatever all tokens derive is parsed. -/
theorem parse_of_derives {placed : Tokens Token} (derived : Grammar.Sum names (placed.items.map (·.value)) tree) :
    parse names placed = .ok tree := by
  have given : Gives (Parser.sum ⟨names, placed.ends⟩ placed.items) tree [] :=
    Parser.gives_sum (Parser.sum_complete derived (begins_all_iff.mpr rfl) avoids_nil) avoids_nil
  obtain ⟨shorter, read⟩ := given
  rw [parse, read]

/-- The grammar gives the tokens of a sum one tree at most. -/
theorem Grammar.Sum.tree_unique (first : Grammar.Sum names values left)
    (second : Grammar.Sum names values right) : left = right := by
  let placed : Tokens Token := ⟨values.map (⟨·, 0⟩), 0⟩
  have same : placed.items.map (·.value) = values := by simp [placed, Function.comp_def]
  have parsedFirst : parse names placed = .ok left := parse_of_derives (by rwa [same])
  have parsedSecond : parse names placed = .ok right := parse_of_derives (by rwa [same])
  exact Except.ok.inj (parsedFirst.symm.trans parsedSecond)

/-- The parser implements the grammar: it succeeds on the sentences of the grammar, with the tree of their
derivation, and on nothing else. -/
theorem parse_eq_ok_iff_derives (dependencies : List String) (tokens : Tokens Token) (tree : Expr) :
    parse dependencies tokens = .ok tree ↔ Grammar.Sum dependencies (tokens.items.map (·.value)) tree :=
  ⟨derives_of_parse, parse_of_derives⟩

/-- A formula is compiled from a text that is not blank and whose tokens have a tree. -/
theorem compile_eq_ok {source : String} {formula : Formula} : compile source names = .ok formula ↔
    Text.allBlank source = false ∧ formula.source = source ∧ formula.dependencies = names ∧
      ∃ tokens, tokenize source = .ok tokens ∧ parse names tokens = .ok formula.expr := by
  obtain ⟨ownSource, ownNames, expr⟩ := formula
  unfold compile
  rw [guard_eq_ok, Bool.not_eq_true]
  refine and_congr_right fun _ => ?_
  cases tokenize source with
  | error fault => simp [Except.bind]
  | ok tokens =>
      simp only [Except.bind, Except.ok.injEq, exists_eq_left']
      cases parse names tokens with
      | error fault => simp
      | ok tree => simp [eq_comm]

end DensityGraph.Formula
