import DensityGraph.Proofs.Formula.Bytewise
import DensityGraph.Proofs.Formula.Grammar
import DensityGraph.Table.Basic

/-!
# Formulas reach no further than their dependencies

What the grammar derives uses only slots that there are, and calls each function with as many arguments as
it takes.  This is just what makes an expression have a value, whatever the slots hold.  So the value of a
formula can fail in two ways only: a lookup of a dependency fails, or the value is not finite.
-/

namespace DensityGraph.Formula

universe u

variable {available : Nat} {slots values : List Float} {args : List Expr} {names : List String}

namespace Expr

theorem allWellScoped_iff : AllWellScoped available args ↔ ∀ arg ∈ args, arg.WellScoped available := by
  induction args with
  | nil => simp [AllWellScoped]
  | cons first rest ih => rw [AllWellScoped, ih, List.forall_mem_cons]

end Expr

namespace Grammar

/-
The induction is on the derivation.  Slots come from positions and names, which are in the list, and arguments
are counted where a call is derived.
-/

mutual

/-- A derived expression uses no slot that is not there, and no function with too few or too many arguments. -/
theorem Sum.wellScoped {tokens : List Token} {tree : Expr} (derived : Sum names tokens tree) :
    tree.WellScoped names.length := by
  match derived with
  | .product derived => exact derived.wellScoped
  | .operation _ _ first second => exact ⟨first.wellScoped, second.wellScoped⟩

theorem Product.wellScoped {tokens : List Token} {tree : Expr} (derived : Product names tokens tree) :
    tree.WellScoped names.length := by
  match derived with
  | .unary derived => exact derived.wellScoped
  | .operation _ _ first second => exact ⟨first.wellScoped, second.wellScoped⟩

theorem Unary.wellScoped {tokens : List Token} {tree : Expr} (derived : Unary names tokens tree) :
    tree.WellScoped names.length := by
  match derived with
  | .minus operand => exact operand.wellScoped
  | .plus operand => exact operand.wellScoped
  | .power derived => exact derived.wellScoped

theorem Power.wellScoped {tokens : List Token} {tree : Expr} (derived : Power names tokens tree) :
    tree.WellScoped names.length := by
  match derived with
  | .atom derived => exact derived.wellScoped
  | .raised base exponent => exact ⟨base.wellScoped, exponent.wellScoped⟩

theorem Atom.wellScoped {tokens : List Token} {tree : Expr} (derived : Atom names tokens tree) :
    tree.WellScoped names.length := by
  match derived with
  | .number value => trivial
  | .positional declared => exact declared
  | .name first => exact (List.getElem?_eq_some_iff.mp first.1).1
  | .call _ derived counted => exact ⟨counted, Expr.allWellScoped_iff.mpr derived.wellScoped⟩
  | .parentheses inside => exact inside.wellScoped

theorem Arguments.wellScoped {tokens : List Token} {trees : List Expr} (derived : Arguments names tokens trees) :
    ∀ tree ∈ trees, tree.WellScoped names.length := by
  match derived with
  | .single derived => exact List.forall_mem_singleton.mpr derived.wellScoped
  | .more earlier last =>
      exact List.forall_mem_append.mpr ⟨earlier.wellScoped, List.forall_mem_singleton.mpr last.wellScoped⟩

end

end Grammar

theorem Builtin.isSome_valueAt?_iff (function : Builtin) (values : List Float) :
    (function.valueAt? values).isSome = true ↔ values.length = function.arity := by
  match values with
  | [] => cases function <;> simp [valueAt?, arity]
  | [a] => cases function <;> simp [valueAt?, arity]
  | [a, b] => cases function <;> simp [valueAt?, arity]
  | a :: b :: c :: rest => cases function <;> simp [valueAt?, arity]

namespace Expr

theorem length_of_evalAll? (evaluated : evalAll? slots args = some values) : values.length = args.length := by
  induction args generalizing values with
  | nil =>
      cases evaluated
      rfl
  | cons first rest ih =>
      unfold evalAll? at evaluated
      split at evaluated
      · rename_i others
        cases evaluated
        rw [List.length_cons, List.length_cons, ih others]
      · cases evaluated

mutual

/-- An expression has a value just if it reaches neither beyond the slots nor beyond its arguments. -/
theorem isSome_eval?_iff (slots : List Float) :
    (expr : Expr) → ((expr.eval? slots).isSome = true ↔ expr.WellScoped slots.length)
  | .number value => by simp [eval?, WellScoped]
  | .slot index => by simp [eval?, WellScoped]
  | .negate operand => by rw [eval?, Option.isSome_map, isSome_eval?_iff slots operand, WellScoped]
  | .binary operator left right => by
      rw [WellScoped, ← isSome_eval?_iff slots left, ← isSome_eval?_iff slots right, eval?]
      cases left.eval? slots <;> cases right.eval? slots <;> simp
  | .call function args => by
      rw [WellScoped, ← isSome_evalAll?_iff slots args, eval?]
      cases evaluated : evalAll? slots args with
      | none => simp
      | some values => simp [function.isSome_valueAt?_iff, length_of_evalAll? evaluated]

theorem isSome_evalAll?_iff (slots : List Float) :
    (args : List Expr) → ((evalAll? slots args).isSome = true ↔ AllWellScoped slots.length args)
  | [] => by simp [evalAll?, AllWellScoped]
  | first :: rest => by
      rw [AllWellScoped, ← isSome_eval?_iff slots first, ← isSome_evalAll?_iff slots rest, evalAll?]
      cases first.eval? slots <;> cases evalAll? slots rest <;> simp

end

end Expr

/-- A lookup of values by name, in a state that each question may change. -/
abbrev Lookup (σ : Type u) := String → σ → Except ModelError Float × σ

/-- What has become of some questions: the names that were asked for, the values or an error, and the state. -/
structure Asked (σ : Type u) where
  names : List String
  values : Except ModelError (List Float)
  state : σ

variable {σ : Type u} {lookup : Lookup σ} {state middle last : σ} {before after : List String} {name : String}
variable {e : ModelError} {formula : Formula} {source : String}

/-- Asks for names in order until one fails. -/
def ask (lookup : Lookup σ) : List String → σ → Asked σ
  | [], state => ⟨[], .ok [], state⟩
  | name :: rest, state =>
    match lookup name state with
    | (.error e, next) => ⟨[name], .error e, next⟩
    | (.ok value, next) =>
      let others := ask lookup rest next
      ⟨name :: others.names, others.values.map (value :: ·), others.state⟩

/-- Every name has a value, asked for in the state that the names in front of it leave. -/
inductive Answers (lookup : Lookup σ) : σ → List String → List Float → σ → Prop where
  | nil (state : σ) : Answers lookup state [] [] state
  | cons {name : String} {value : Float} {rest : List String} {values : List Float} {state next last : σ}
      (answered : lookup name state = (.ok value, next)) (others : Answers lookup next rest values last) :
      Answers lookup state (name :: rest) (value :: values) last

theorem Answers.length_eq (answered : Answers lookup state names values last) : values.length = names.length := by
  induction answered with
  | nil => rfl
  | cons _ _ ih => rw [List.length_cons, List.length_cons, ih]

theorem Answers.ask_eq (answered : Answers lookup state names values last) :
    ask lookup names state = ⟨names, .ok values, last⟩ := by
  induction answered with
  | nil => rfl
  | cons answered _ ih =>
      rw [ask, answered]
      dsimp only
      rw [ih]
      rfl

/-- Nothing is asked for behind a name that fails. -/
theorem Answers.ask_eq_of_fails (answered : Answers lookup state before values middle)
    (fails : lookup name middle = (.error e, last)) :
    ask lookup (before ++ name :: after) state = ⟨before ++ [name], .error e, last⟩ := by
  induction answered with
  | nil => rw [List.nil_append, ask, fails, List.nil_append]
  | cons answered _ ih =>
      rw [List.cons_append, ask, answered]
      dsimp only
      rw [ih fails]
      rfl

/-- All names have values, or there is a first one that fails. -/
theorem answers_or_fails (lookup : Lookup σ) (names : List String) (state : σ) :
    (∃ values last, Answers lookup state names values last) ∨
      ∃ before name after values middle e last, names = before ++ name :: after ∧
        Answers lookup state before values middle ∧ lookup name middle = (.error e, last) := by
  induction names generalizing state with
  | nil => exact .inl ⟨[], state, .nil state⟩
  | cons first rest ih =>
      cases asked : lookup first state with
      | mk result next =>
          cases result with
          | error e => exact .inr ⟨[], first, rest, [], state, e, next, rfl, .nil state, asked⟩
          | ok value =>
              obtain ⟨values, last, others⟩ | ⟨before, name, after, values, middle, e, last, rfl, others, fails⟩ :=
                ih next
              · exact .inl ⟨value :: values, last, .cons asked others⟩
              · exact .inr ⟨first :: before, name, after, value :: values, middle, e, last, rfl, .cons asked others,
                  fails⟩

/-- The value of a formula with what a lookup gives.  There is none if it reaches beyond slots or arguments. -/
def evalWith? (formula : Formula) (lookup : Lookup σ) (state : σ) : Option (Except ModelError Float) :=
  match (ask lookup formula.dependencies state).values with
  | .error e => some (.error e)
  | .ok slots =>
    (formula.expr.eval? slots).map fun value =>
      if value.isFinite then .ok value else .error (.formula (.nonFinite formula.source))

/-- What an evaluation can come to: what it asks for, and its value or error. -/
inductive Outcome (formula : Formula) (lookup : Lookup σ) (state : σ) :
    Asked σ → Option (Except ModelError Float) → Prop where
  /-- a dependency has no value, and those behind it are not asked for -/
  | failed {before after : List String} {name : String} {values : List Float} {middle last : σ} {e : ModelError}
      (parts : formula.dependencies = before ++ name :: after) (answered : Answers lookup state before values middle)
      (fails : lookup name middle = (.error e, last)) :
      Outcome formula lookup state ⟨before ++ [name], .error e, last⟩ (some (.error e))
  | nonFinite {values : List Float} {last : σ} {value : Float}
      (answered : Answers lookup state formula.dependencies values last)
      (evaluated : formula.expr.eval? values = some value) (notFinite : value.isFinite = false) :
      Outcome formula lookup state ⟨formula.dependencies, .ok values, last⟩
        (some (.error (.formula (.nonFinite formula.source))))
  | finite {values : List Float} {last : σ} {value : Float}
      (answered : Answers lookup state formula.dependencies values last)
      (evaluated : formula.expr.eval? values = some value) (isFinite : value.isFinite = true) :
      Outcome formula lookup state ⟨formula.dependencies, .ok values, last⟩ (some (.ok value))

theorem Outcome.isSome {asked : Asked σ} {result : Option (Except ModelError Float)}
    (outcome : Outcome formula lookup state asked result) : result.isSome = true := by
  cases outcome <;> rfl

/-- Every evaluation of an expression in scope comes to one of the outcomes. -/
theorem outcome_of_wellScoped (inScope : formula.expr.WellScoped formula.dependencies.length) (lookup : Lookup σ)
    (state : σ) :
    Outcome formula lookup state (ask lookup formula.dependencies state) (formula.evalWith? lookup state) := by
  unfold evalWith?
  obtain ⟨values, last, answered⟩ | ⟨before, name, after, values, middle, e, last, parts, answered, fails⟩ :=
    answers_or_fails lookup formula.dependencies state
  · rw [answered.ask_eq]
    -- there are as many slots as dependencies, so that scope gives a value
    rw [← answered.length_eq, ← Expr.isSome_eval?_iff, Option.isSome_iff_exists] at inScope
    obtain ⟨value, evaluated⟩ := inScope
    dsimp only
    rw [evaluated, Option.map_some]
    split
    · rename_i isFinite
      exact .finite answered evaluated isFinite
    · rename_i notFinite
      exact .nonFinite answered evaluated (by simpa using notFinite)
  · have asked : ask lookup (before ++ name :: after) state = _ := answered.ask_eq_of_fails fails
    rw [← parts] at asked
    rw [asked]
    exact .failed parts answered fails

/-- A lookup without a state. -/
def Lookup.stateless (lookup : String → Except ModelError Float) : Lookup Unit := fun name state => (lookup name, state)

theorem ask_stateless (lookup : String → Except ModelError Float) (names : List String) :
    ask (.stateless lookup) names () = ⟨(consult lookup names).1, (consult lookup names).2, ()⟩ := by
  induction names with
  | nil => rfl
  | cons first rest ih =>
      have asked : Lookup.stateless lookup first () = (lookup first, ()) := rfl
      rw [ask, consult, asked]
      cases lookup first with
      | error e => rfl
      | ok value =>
          dsimp only
          rw [ih]

/-- The value in a scope is the value with a lookup that has no state. -/
theorem evalWith?_stateless (inScope : formula.expr.WellScoped formula.dependencies.length)
    (lookup : String → Except ModelError Float) :
    formula.evalWith? (.stateless lookup) () =
      some (match (consult lookup formula.dependencies).2 with
        | .error e => .error e
        | .ok slots => (formula.valueAt slots).mapError .formula) := by
  have inRange := (outcome_of_wellScoped inScope (.stateless lookup) ()).isSome
  rw [evalWith?, ask_stateless] at inRange ⊢
  cases consulted : (consult lookup formula.dependencies).2 with
  | error e => rfl
  | ok slots =>
      rw [consulted] at inRange
      dsimp only at inRange ⊢
      rw [valueAt]
      cases evaluated : formula.expr.eval? slots with
      | none =>
          rw [evaluated] at inRange
          cases inRange
      | some value =>
          rw [Option.map_some]
          dsimp only
          split <;> rfl

/-- A formula that stays within its slots and arguments, whatever it is evaluated with. -/
structure InRange (formula : Formula) : Prop where
  wellScoped : formula.expr.WellScoped formula.dependencies.length
  outcome : ∀ {σ : Type u} (lookup : Lookup σ) (state : σ),
    Outcome formula lookup state (ask lookup formula.dependencies state) (formula.evalWith? lookup state)
  /-- what a scope computes is the value with a lookup that has no state -/
  stateless : ∀ lookup : String → Except ModelError Float,
    formula.evalWith? (.stateless lookup) () =
      some (match (consult lookup formula.dependencies).2 with
        | .error e => .error e
        | .ok slots => (formula.valueAt slots).mapError .formula)

/-- No text is cut within a character, and no formula that compiles reaches beyond its slots or arguments. -/
theorem compile_inRange (source : String) (dependencies : List String) :
    Bytewise.tokenize? source = some (tokenize source) ∧
      ∀ formula, compile source dependencies = .ok formula →
        formula.dependencies = dependencies ∧ InRange.{u} formula := by
  refine ⟨Bytewise.tokenize?_eq source, fun formula compiled => ?_⟩
  obtain ⟨_, _, sameNames, tokens, _, parsed⟩ := compile_eq_ok.mp compiled
  have inScope := (derives_of_parse parsed).wellScoped
  rw [← sameNames] at inScope
  exact ⟨sameNames, inScope, outcome_of_wellScoped inScope, evalWith?_stateless inScope⟩

/-- Dependencies that are listed twice, or not used, are in range too. -/
theorem compile_inRange_unused : ∃ formula, compile "max(@1, b) ^ -b" ["a", "b", "b"] = .ok formula ∧
    formula.dependencies = ["a", "b", "b"] ∧ InRange.{0} formula := by
  obtain ⟨formula, compiled, _⟩ := @exists_ok_of_any _ _ (compile "max(@1, b) ^ -b" ["a", "b", "b"]) (fun _ => true)
    (by decide +kernel)
  exact ⟨formula, compiled, (compile_inRange _ _).2 formula compiled⟩

end DensityGraph.Formula
