import DensityGraph.Declaration.Parser
import DensityGraph.Proofs.Declaration.Flat
import DensityGraph.Proofs.Declaration.Lexemes

/-!
# Trees that are read from a text

An identifier begins like a name and a number does not, so that no constant of a
tree that is read from a text shares its name with a node that the tree declares or
refers to.
-/

namespace DensityGraph.Declaration

open DensityGraph.Text (Placed Tokens)

variable {α : Type} {text : List Char} {tokens : List (Placed Token)} {token : Token} {name : String}
variable {offset bound : Nat}

/-- Identifiers are names, and numbers are not. -/
def Token.Clean : Token → Prop
  | .identifier name => Named name
  | .number value text => IsNumeral value text
  | _ => True

theorem Token.Spelled.clean {span : List Char} (spelled : token.Spelled span) : token.Clean := by
  cases spelled with
  | @identifier name isName =>
      obtain ⟨first, rest, chars⟩ : ∃ first rest, name.toList = first :: rest := by
        apply List.exists_cons_of_ne_nil
        intro none
        rw [none] at isName
        cases isName
      rw [chars, isIdentifier, Bool.and_eq_true] at isName
      exact ⟨first, rest, chars, isName.1⟩
  | @number value text read finite =>
      have finiteRead : Decimal.readFinite? text.toList = some value :=
        Option.filter_eq_some_iff.mpr ⟨read, finite⟩
      refine ⟨?_, finiteRead⟩
      rintro ⟨first, rest, spelled, beginsName⟩
      obtain ⟨firstToo, restToo, spelledToo, beginsNumber, _⟩ := Lexer.whole_number finiteRead
      obtain ⟨rfl, _⟩ := List.cons.inj (spelled.symm.trans spelledToo)
      rw [(Lexer.beginsName_only beginsName).2.2.2.2] at beginsNumber
      cases beginsNumber
  | string | doubleColon => trivial
  | mark isMark => cases token <;> trivial

/-- All tokens are clean. -/
def AllClean (tokens : List (Placed Token)) : Prop := ∀ token ∈ tokens, token.value.Clean

theorem Lexer.allClean_of_run (read : run offset text = .ok tokens) : AllClean tokens := by
  intro placed member
  obtain ⟨_, _, _, _, _, spelled, _⟩ := (layout_of_run read).spells member
  exact spelled.clean

namespace Parser

/-- What is read from clean tokens is good, and the tokens behind it are clean. -/
def Parses (result : Except Error (Parsed α bound)) (good : α → Prop) : Prop :=
  ∀ read, result = .ok read → good read.value ∧ AllClean read.rest

theorem parses_expect (clean : AllClean tokens) : Parses (expect token tokens) fun _ => True := by
  intro read ran
  unfold expect at ran
  split at ran
  · cases ran
  · split at ran
    · cases ran
      exact ⟨trivial, (List.forall_mem_cons.mp clean).2⟩
    · cases ran

theorem parses_identifier {expected : Expected} (clean : AllClean tokens) :
    Parses (identifier expected tokens) Named := by
  intro read ran
  unfold identifier at ran
  split at ran
  · cases ran
    exact List.forall_mem_cons.mp clean
  · cases ran

theorem parses_number (clean : AllClean tokens) : Parses (number tokens) fun _ => True := by
  intro read ran
  unfold number at ran
  split at ran
  · cases ran
    exact ⟨trivial, (List.forall_mem_cons.mp clean).2⟩
  · cases ran

theorem parses_quoted (clean : AllClean tokens) : Parses (quoted tokens) fun _ => True := by
  intro read ran
  unfold quoted at ran
  split at ran
  · cases ran
    exact ⟨trivial, (List.forall_mem_cons.mp clean).2⟩
  · cases ran

theorem parses_numbersTail {before : Parsed (List Float) bound} (clean : AllClean before.rest) :
    Parses (numbersTail bound before) fun _ => True := by
  intro read ran
  rw [numbersTail] at ran
  split at ran
  · rename_i rest comma
    rw [comma] at clean
    split at ran
    · cases ran
    · rename_i next numberRan
      obtain ⟨_, cleanNext⟩ := parses_number (List.forall_mem_cons.mp clean).2 _ numberRan
      have shorter : next.rest.length < before.rest.length := by
        rw [comma]
        exact Nat.lt_succ_of_lt next.shorter
      exact parses_numbersTail cleanNext _ ran
  · cases ran
    exact ⟨trivial, clean⟩
termination_by before.rest.length

theorem written_of_freeOf {numbers : List Float} {declaration : Declaration} (named : Named name)
    (ran : freeOf name offset numbers = .ok declaration) : declaration.Written := by
  unfold freeOf at ran
  split at ran <;> cases ran <;> exact named

theorem parses_free (named : Named name) (clean : AllClean tokens) :
    Parses (free name offset tokens) Declaration.Written := by
  intro read ran
  unfold free at ran
  split at ran
  · cases ran
  · rename_i first firstRan
    obtain ⟨_, cleanFirst⟩ := parses_number clean _ firstRan
    split at ran
    · cases ran
    · rename_i numbers numbersRan
      obtain ⟨_, cleanNumbers⟩ := @parses_numbersTail _ (first.replace [first.value] _) cleanFirst _ numbersRan
      split at ran
      · cases ran
      · rename_i close closeRan
        obtain ⟨_, cleanClose⟩ := parses_expect cleanNumbers _ closeRan
        split at ran
        · cases ran
        · rename_i declaration made
          cases ran
          exact ⟨written_of_freeOf named made, cleanClose⟩

mutual

theorem parses_body {name : String} {offset : Nat} {tokens : List (Placed Token)} (named : Named name)
    (clean : AllClean tokens) (read : Parsed Declaration tokens.length) (ran : body name offset tokens = .ok (some read)) :
    read.value.Written ∧ AllClean read.rest := by
  rw [body.eq_def] at ran
  split at ran
  · obtain ⟨_, cleanRest⟩ := List.forall_mem_cons.mp clean
    split at ran
    · cases ran
    · rename_i freeRan
      cases ran
      exact parses_free named cleanRest _ freeRan
  · obtain ⟨_, cleanRest⟩ := List.forall_mem_cons.mp clean
    split at ran
    · split at ran
      · cases ran
      · rename_i derivedRan
        cases ran
        exact parses_derived cleanRest _ derivedRan
    · split at ran
      · cases ran
      · split at ran
        · cases ran
        · rename_i densityRan
          cases ran
          exact parses_density cleanRest _ densityRan
  · cases ran
termination_by 7 * tokens.length + 2

/-- A derived parameter. -/
theorem parses_derived {offset : Nat} {tokens : List (Placed Token)} (clean : AllClean tokens) :
    Parses (derived offset tokens) Declaration.Written := by
  intro read ran
  rw [derived] at ran
  split at ran
  · cases ran
  · rename_i name nameRan
    obtain ⟨named, cleanName⟩ := parses_identifier clean _ nameRan
    split at ran
    · cases ran
    · rename_i opened openedRan
      obtain ⟨_, cleanOpened⟩ := parses_expect cleanName _ openedRan
      split at ran
      · cases ran
      · rename_i formula formulaRan
        obtain ⟨_, cleanFormula⟩ := parses_quoted cleanOpened _ formulaRan
        have := name.shorter
        have := opened.shorter
        have := formula.shorter
        split at ran
        · cases ran
        · rename_i deps depsRan
          obtain ⟨written, cleanDeps⟩ := parses_dependencies cleanFormula _ depsRan
          split at ran
          · cases ran
          · rename_i close closeRan
            obtain ⟨_, cleanClose⟩ := parses_expect cleanDeps _ closeRan
            cases ran
            exact ⟨⟨named, written⟩, cleanClose⟩
termination_by 7 * tokens.length + 1

theorem parses_dependencies {tokens : List (Placed Token)} (clean : AllClean tokens) :
    Parses (dependencies tokens) Argument.AllWritten := by
  intro read ran
  rw [dependencies.eq_def] at ran
  split at ran
  · cases ran
    exact ⟨trivial, (List.forall_mem_cons.mp (List.forall_mem_cons.mp (List.forall_mem_cons.mp clean).2).2).2⟩
  · have cleanRest := (List.forall_mem_cons.mp (List.forall_mem_cons.mp clean).2).2
    split at ran
    · cases ran
    · rename_i arguments argumentsRan
      obtain ⟨written, cleanArguments⟩ := parses_argumentList cleanRest _ argumentsRan
      split at ran
      · cases ran
      · rename_i close closeRan
        obtain ⟨_, cleanClose⟩ := parses_expect cleanArguments _ closeRan
        cases ran
        exact ⟨written, cleanClose⟩
  · split at ran
    · cases ran
    · rename_i arguments argumentsRan
      obtain ⟨written, cleanArguments⟩ := parses_argumentList (List.forall_mem_cons.mp clean).2 _ argumentsRan
      cases ran
      exact ⟨written, cleanArguments⟩
  · cases ran
    exact ⟨trivial, clean⟩
termination_by 7 * tokens.length

theorem parses_density {keyword : Keyword} {offset : Nat} {tokens : List (Placed Token)} (clean : AllClean tokens) :
    Parses (density keyword offset tokens) Declaration.Written := by
  intro read ran
  rw [density] at ran
  split at ran
  · cases ran
  · rename_i name nameRan
    obtain ⟨named, cleanName⟩ := parses_identifier clean _ nameRan
    split at ran
    · cases ran
    · rename_i opened openedRan
      obtain ⟨_, cleanOpened⟩ := parses_expect cleanName _ openedRan
      have := name.shorter
      have := opened.shorter
      split at ran
      · cases ran
      · rename_i arguments argumentsRan
        obtain ⟨written, cleanArguments⟩ := parses_argumentList cleanOpened _ argumentsRan
        split at ran
        · cases ran
        · rename_i close closeRan
          obtain ⟨_, cleanClose⟩ := parses_expect cleanArguments _ closeRan
          cases ran
          exact ⟨⟨named, written⟩, cleanClose⟩
termination_by 7 * tokens.length + 1

theorem parses_argumentList {tokens : List (Placed Token)} (clean : AllClean tokens) :
    Parses (argumentList tokens) Argument.AllWritten := by
  intro read ran
  rw [argumentList] at ran
  split at ran
  · cases ran
  · rename_i first firstRan
    obtain ⟨written, cleanFirst⟩ := parses_argument clean _ firstRan
    have := first.shorter
    have alone : Argument.AllWritten [first.value] := ⟨written, trivial⟩
    exact @parses_argumentsTail _ (first.replace [first.value] _) alone cleanFirst _ ran
termination_by 7 * tokens.length + 6

theorem parses_argumentsTail {bound : Nat} {before : Parsed (List Argument) bound} 
    (written : Argument.AllWritten before.value) (clean : AllClean before.rest) :
    Parses (argumentsTail bound before) Argument.AllWritten := by
  intro read ran
  rw [argumentsTail] at ran
  split at ran
  · rename_i rest comma
    rw [comma] at clean
    have lengths : before.rest.length = rest.length + 1 := congrArg List.length comma
    split at ran
    · cases ran
    · rename_i next nextRan
      have := next.shorter
      obtain ⟨writtenNext, cleanNext⟩ := parses_argument (List.forall_mem_cons.mp clean).2 _ nextRan
      have writtenBoth : Argument.AllWritten (before.value ++ [next.value]) := by
        rw [Argument.allWritten_iff] at written ⊢
        exact List.forall_mem_append.mpr ⟨written, List.forall_mem_singleton.mpr writtenNext⟩
      exact @parses_argumentsTail _ ⟨before.value ++ [next.value], next.rest, _⟩ writtenBoth cleanNext _ ran
  · cases ran
    exact ⟨written, clean⟩
termination_by 7 * before.rest.length + 6

theorem parses_argument {tokens : List (Placed Token)} (clean : AllClean tokens) :
    Parses (argument tokens) Argument.Written := by
  intro read ran
  rw [argument] at ran
  split at ran
  · cases ran
  · rename_i first firstRan
    obtain ⟨written, cleanFirst⟩ := parses_factor clean _ firstRan
    have := first.shorter
    split at ran
    · rename_i rest star
      rw [star] at cleanFirst
      have lengths : first.rest.length = rest.length + 1 := congrArg List.length star
      split at ran
      · cases ran
      · rename_i second secondRan
        obtain ⟨writtenSecond, cleanSecond⟩ := parses_factor (List.forall_mem_cons.mp cleanFirst).2 _ secondRan
        cases ran
        exact ⟨⟨written, writtenSecond⟩, cleanSecond⟩
    · cases ran
      exact ⟨written, cleanFirst⟩
termination_by 7 * tokens.length + 5

theorem parses_factor {tokens : List (Placed Token)} (clean : AllClean tokens) :
    Parses (factor tokens) Argument.Written := by
  intro read ran
  rw [factor] at ran
  split at ran
  · cases ran
  · rename_i first firstRan
    obtain ⟨written, cleanFirst⟩ := parses_primary clean _ firstRan
    split at ran
    · rename_i rest bar
      rw [bar] at cleanFirst
      split at ran
      · cases ran
      · rename_i given givenRan
        obtain ⟨named, cleanGiven⟩ := parses_identifier (List.forall_mem_cons.mp cleanFirst).2 _ givenRan
        cases ran
        exact ⟨⟨written, named⟩, cleanGiven⟩
    · cases ran
      exact ⟨written, cleanFirst⟩
termination_by 7 * tokens.length + 4

theorem parses_primary {tokens : List (Placed Token)} (clean : AllClean tokens) :
    Parses (primary tokens) Argument.Written := by
  intro read ran
  rw [primary.eq_def] at ran
  split at ran
  · obtain ⟨numeral, cleanRest⟩ := List.forall_mem_cons.mp clean
    cases ran
    exact ⟨numeral, cleanRest⟩
  · obtain ⟨named, cleanRest⟩ := List.forall_mem_cons.mp clean
    split at ran
    · cases ran
    · cases ran
      exact ⟨named, cleanRest⟩
    · rename_i bodyRan
      cases ran
      exact parses_body named cleanRest _ bodyRan
  · cases ran
termination_by 7 * tokens.length + 3

end

end Parser

theorem written_of_ofTokens {ends : Nat} {declaration : Declaration} (clean : AllClean tokens)
    (read : ofTokens ⟨tokens, ends⟩ = .ok declaration) : declaration.Written := by
  unfold ofTokens at read
  split at read
  · rename_i spelled
    dsimp only at spelled
    rw [spelled] at clean
    obtain ⟨named, cleanRest⟩ := List.forall_mem_cons.mp clean
    split at read
    · cases read
    · cases read
    · rename_i bodyRan
      split at read
      · cases read
        exact (Parser.parses_body named cleanRest _ bodyRan).1
      · cases read
  · cases read

/-- What is read from a text is written as texts are. -/
theorem written_of_parse {text : String} {declaration : Declaration} (read : parse text = .ok declaration) :
    declaration.Written := by
  obtain ⟨tokens, tokenized, parsed⟩ := bind_eq_ok.1 read
  obtain ⟨items, ran, rfl⟩ := map_eq_ok.1 tokenized
  exact written_of_ofTokens (Lexer.allClean_of_run ran) parsed

end DensityGraph.Declaration
