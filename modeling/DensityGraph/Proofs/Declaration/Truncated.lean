import DensityGraph.Proofs.Declaration.Grammar

/-!
# Where a declaration cannot be read on

A token that cannot stand where it does is the first such token: the tokens in front of it are read without
an error, and if the text ended there the reader would miss what it expects in the place of that token.  To
see this each reader is run again on a beginning of its tokens.
-/

namespace DensityGraph.Declaration

open DensityGraph.Text (Placed Tokens Begins begins_nil_iff begins_single_iff Gives Avoids avoids_cons_iff avoids_nil)

/-- Whether a reason is given for an argument that stands where it may not. -/
def Reason.misplaces : Reason → Bool
  | parameterExpected | conditionedOutsideProduct | weightedOutsideMixture | unweightedBranch _ | weightedRemainder _ =>
    true
  | invalidName _ | invalidSetName _ | invalidDatasetName _ | missingBody | valueCount .. => false

/-- Whether the offset of an error is meant to be that of a character, a token or an argument. -/
def Error.pointed : Error → Bool
  | unexpectedCharacter .. | unexpectedToken .. | unterminatedString _ | invalidNumber .. | unknownKeyword .. => true
  | malformed reason _ => reason.misplaces
  | unexpectedEnd _ | arity .. => false

/-- Whether a reason is given for a name that no body of a declaration follows, or one of too many numbers. -/
def Reason.blamesName : Reason → Bool
  | missingBody | valueCount .. => true
  | _ => false

/-- Whether an error is about a name and what follows it, all of which can be read. -/
def Error.blamesName : Error → Bool
  | malformed reason _ => reason.blamesName
  | _ => false

theorem Error.blamesName_of_pointed {e : Error} (pointed : e.pointed = true) : e.blamesName = false := by
  cases e with
  | malformed reason offset => cases reason <;> first | rfl | cases pointed
  | _ => rfl

namespace Parser

variable {α β : Type} {bound offset : Nat} {name : String} {token : Token} {expected : Expected} {e : Error}
variable {tokens middle rest front : List (Placed Token)}

/-- An error is about the first of some tokens, at its offset, or says that there is none.  An unknown keyword
is followed by a double colon. -/
def Blames (expected : Expected) : Error → List (Placed Token) → Prop
  | .unexpectedToken found wanted offset, culprit :: _ => culprit = ⟨found, offset⟩ ∧ wanted = expected
  | .unexpectedEnd wanted, [] => wanted = expected
  | .unknownKeyword name offset, culprit :: next :: _ =>
    culprit = ⟨.identifier name, offset⟩ ∧ next.value = .doubleColon ∧ isFormulaKeyword name = false ∧
      Keyword.ofText? name = none
  | _, _ => False

theorem blames_unexpected : Blames expected (unexpected expected tokens) tokens := by
  cases tokens with
  | nil => rfl
  | cons found others => exact ⟨rfl, rfl⟩

/-- A reader gets as far as the tokens that an error is about: of those before them it only finds that they
end too early. -/
def StuckIn {γ : List (Placed Token) → Type} (reader : (tokens : List (Placed Token)) → Except Error (γ tokens))
    (tokens : List (Placed Token)) (e : Error) : Prop :=
  ∃ before rest expected, tokens = before ++ rest ∧ reader before = .error (.unexpectedEnd expected) ∧
    Blames expected e rest

section

variable {γ δ : List (Placed Token) → Type} {inner : (tokens : List (Placed Token)) → Except Error (γ tokens)}
  {outer : (tokens : List (Placed Token)) → Except Error (δ tokens)}

/-- What stops a reader stops the one that it works for. -/
theorem StuckIn.behind (stuck : StuckIn inner middle e) (front : List (Placed Token)) (split : tokens = front ++ middle)
    (passes : ∀ before rest expected, middle = before ++ rest → inner before = .error (.unexpectedEnd expected) →
      outer (front ++ before) = .error (.unexpectedEnd expected)) : StuckIn outer tokens e := by
  obtain ⟨before, rest, expected, rfl, failed, blames⟩ := stuck
  exact ⟨front ++ before, rest, expected, split.trans (List.append_assoc ..).symm,
    passes before rest expected rfl failed, blames⟩

/-- A reader is stuck where it misses what it expects. -/
theorem stuckIn_unexpected (front : List (Placed Token)) (split : tokens = front ++ rest)
    (misses : outer front = .error (unexpected expected [])) :
    StuckIn outer tokens (unexpected expected rest) :=
  ⟨front, rest, expected, split, misses, blames_unexpected⟩

end

/-- A reader takes some tokens and takes them again, whatever follows instead, if it does not go on with it. -/
def Rereads {γ : List (Placed Token) → Nat}
    (reader : (tokens : List (Placed Token)) → Except Error (Parsed α (γ tokens))) (stops : List Token)
    (tokens rest : List (Placed Token)) : Prop :=
  ∃ front, tokens = front ++ rest ∧ ∀ other, Avoids stops other → ∃ value, Gives (reader (front ++ other)) value other

/-- What is taken again may be all that there is. -/
theorem Rereads.alone {γ : List (Placed Token) → Nat}
    {reader : (tokens : List (Placed Token)) → Except Error (Parsed α (γ tokens))} {stops : List Token}
    (rereads : Rereads reader stops tokens rest) :
    ∃ front, tokens = front ++ rest ∧ ∃ value, Gives (reader front) value [] := by
  obtain ⟨front, split, again⟩ := rereads
  obtain ⟨value, given⟩ := again [] avoids_nil
  rw [List.append_nil] at given
  exact ⟨front, split, value, given⟩

/-- What is read whenever it is spelled is taken again. -/
theorem rereads_of_begins {γ : List (Placed Token) → Nat} {values : List Token} {stops : List Token}
    {reader : (tokens : List (Placed Token)) → Except Error (Parsed α (γ tokens))} (begun : Begins values tokens rest)
    (complete : ∀ {tokens other}, Begins values tokens other → Avoids stops other →
      ∃ value, Gives (reader tokens) value other) : Rereads reader stops tokens rest := by
  obtain ⟨front, split, spelled⟩ := begun
  exact ⟨front, split, fun other avoids => complete ⟨front, rfl, spelled⟩ avoids⟩

theorem Yields.gives {result : Except Error (Parsed α bound)} {unplaced : α → β} {tree : β}
    (yields : Yields result unplaced tree rest) : ∃ value, Gives result value rest := by
  obtain ⟨value, _, given⟩ := yields
  exact ⟨value, given⟩

theorem rereads_argumentList {read : Parsed (List Argument) tokens.length} (ran : argumentList tokens = .ok read) :
    Rereads argumentList (.comma :: itemStops) tokens read.rest := by
  obtain ⟨values, begun, derived⟩ := argumentList_sound tokens read ran
  refine rereads_of_begins begun fun begun avoids => ?_
  obtain ⟨trees, _, again⟩ := arguments_complete derived begun (avoids.mono (by simp))
  exact ⟨trees, gives_argumentList again (avoids.mono (by simp))⟩

theorem rereads_argument {read : Parsed Argument tokens.length} (ran : argument tokens = .ok read) :
    Rereads argument itemStops tokens read.rest := by
  obtain ⟨values, begun, derived⟩ := argument_sound tokens read ran
  exact rereads_of_begins begun fun begun avoids => (item_complete derived begun avoids).gives

theorem rereads_factor {read : Parsed Argument tokens.length} (ran : factor tokens = .ok read) :
    Rereads factor factorStops tokens read.rest := by
  obtain ⟨values, begun, derived⟩ := factor_sound tokens read ran
  exact rereads_of_begins begun fun begun avoids => (factor_complete derived begun avoids).gives

theorem rereads_primary {read : Parsed Argument tokens.length} (ran : primary tokens = .ok read) :
    Rereads primary nameStops tokens read.rest := by
  obtain ⟨values, begun, derived⟩ := primary_sound tokens read ran
  exact rereads_of_begins begun fun begun avoids => (primary_complete derived begun avoids).gives

theorem rereads_dependencies {read : Parsed (List Argument) (tokens.length + 1)}
    (ran : dependencies tokens = .ok read) : Rereads dependencies (.comma :: itemStops) tokens read.rest := by
  obtain ⟨values, begun, derived⟩ := dependencies_sound tokens read ran
  exact rereads_of_begins begun fun begun avoids => (dependencies_complete derived begun avoids).gives

theorem expect_eq_error (failed : expect token tokens = .error e) : e = unexpected (.token token) tokens := by
  unfold expect at failed
  split at failed
  · exact (Except.error.inj failed).symm
  · split at failed
    · cases failed
    · exact (Except.error.inj failed).symm

theorem identifier_eq_error (failed : identifier expected tokens = .error e) : e = unexpected expected tokens := by
  unfold identifier at failed
  split at failed
  · cases failed
  · exact (Except.error.inj failed).symm

theorem number_eq_error (failed : number tokens = .error e) : e = unexpected .number tokens := by
  unfold number at failed
  split at failed
  · cases failed
  · exact (Except.error.inj failed).symm

theorem quoted_eq_error (failed : quoted tokens = .error e) : e = unexpected .quotedFormula tokens := by
  unfold quoted at failed
  split at failed
  · cases failed
  · exact (Except.error.inj failed).symm

/-- The loop over numbers is stuck in the same place whatever has been read before. -/
theorem numbersTail_stuck {before : Parsed (List Float) bound} (failed : numbersTail bound before = .error e) :
    ∃ front rest expected, before.rest = front ++ rest ∧ Blames expected e rest ∧
      ∀ bound values (shorter : front.length < bound),
        numbersTail bound ⟨values, front, shorter⟩ = .error (.unexpectedEnd expected) := by
  rw [numbersTail.eq_def] at failed
  split at failed
  · rename_i comma after shape
    split at failed
    · rename_i ran
      obtain rfl := Except.error.inj failed
      obtain rfl := number_eq_error ran
      refine ⟨[⟨.comma, comma⟩], after, .number, shape, blames_unexpected, fun bound values shorter => ?_⟩
      rw [numbersTail.eq_def]
      rfl
    · rename_i next ran
      have fewer : next.rest.length < before.rest.length := by
        rw [shape]
        exact Nat.lt_succ_of_lt next.shorter
      obtain ⟨front, rest, expected, split, blames, again⟩ := numbersTail_stuck failed
      obtain ⟨text, begun⟩ := begins_of_number ran
      obtain ⟨place, behind⟩ := begins_single_iff.mp begun
      refine ⟨⟨.comma, comma⟩ :: ⟨.number next.value text, place⟩ :: front, rest, expected,
        shape.trans (congrArg _ (behind.trans (congrArg _ split))), blames, fun bound values shorter => ?_⟩
      rw [numbersTail.eq_def]
      simp only [number]
      exact again bound _ _
  · cases failed
termination_by before.rest.length

theorem rereads_numbers {before read : Parsed (List Float) bound} (ran : numbersTail bound before = .ok read) :
    ∃ front, before.rest = front ++ read.rest ∧ ∀ bound values (shorter : front.length < bound),
      ∃ numbers less, numbersTail bound ⟨values, front, shorter⟩ = .ok ⟨numbers, [], less⟩ := by
  obtain ⟨more, _, front, split, spelled⟩ := begins_of_numbersTail ran
  refine ⟨front, split, fun bound values shorter => ?_⟩
  obtain ⟨less, again⟩ := @numbersTail_of_begins bound [] more ⟨values, front, shorter⟩
    ⟨front, (List.append_nil front).symm, spelled⟩ avoids_nil
  exact ⟨_, less, again⟩

theorem free_stuck (failed : free name offset tokens = .error e) (sited : e.blamesName = false) :
    StuckIn (free name offset) tokens e := by
  unfold free at failed
  split at failed
  · rename_i ran
    obtain rfl := Except.error.inj failed
    obtain rfl := number_eq_error ran
    exact stuckIn_unexpected [] rfl rfl
  · rename_i first ranFirst
    obtain ⟨text, begun⟩ := begins_of_number ranFirst
    obtain ⟨place, shape⟩ := begins_single_iff.mp begun
    split at failed
    · rename_i ran
      obtain rfl := Except.error.inj failed
      obtain ⟨front, rest, expected, split, blames, again⟩ := numbersTail_stuck ran
      refine ⟨⟨.number first.value text, place⟩ :: front, rest, expected, shape.trans (congrArg _ split), ?_, blames⟩
      unfold free
      simp only [number, Text.Parsed.replace]
      rw [again]
    · rename_i numbers ran
      split at failed
      · rename_i ranClose
        obtain rfl := Except.error.inj failed
        obtain rfl := expect_eq_error ranClose
        obtain ⟨front, split, again⟩ := rereads_numbers ran
        refine ⟨⟨.number first.value text, place⟩ :: front, numbers.rest, .token .rightBracket,
          shape.trans (congrArg _ split), ?_, blames_unexpected⟩
        obtain ⟨others, less, taken⟩ := again (front.length + 1) [first.value] (Nat.lt_succ_self _)
        unfold free
        simp only [number, Text.Parsed.replace, List.length_cons, taken]
        rfl
      · split at failed
        · rename_i made
          obtain rfl := Except.error.inj failed
          unfold freeOf at made
          split at made <;> cases made
          cases sited
        · cases failed

/-- A name is followed by a double colon though it is no keyword. -/
def Unknown (name : String) (offset : Nat) (tokens : List (Placed Token)) (e : Error) : Prop :=
  e = .unknownKeyword name offset ∧ isFormulaKeyword name = false ∧ Keyword.ofText? name = none ∧
    ∃ colons others, tokens = ⟨.doubleColon, colons⟩ :: others

mutual

theorem body_stuck (name : String) (offset : Nat) (tokens : List (Placed Token)) {e : Error}
    (failed : body name offset tokens = .error e) (sited : e.blamesName = false) :
    Unknown name offset tokens e ∨ StuckIn (body name offset) tokens e := by
  rw [body.eq_def] at failed
  split at failed
  · rename_i bracket rest
    split at failed
    · rename_i ran
      obtain rfl := Except.error.inj failed
      refine .inr ((free_stuck ran sited).behind [⟨.leftBracket, bracket⟩] rfl ?_)
      intro before _ expected _ misses
      rw [List.singleton_append, body.eq_def]
      simp only [misses]
    · cases failed
  · rename_i colons rest
    split at failed
    · rename_i isFormula
      split at failed
      · rename_i ran
        obtain rfl := Except.error.inj failed
        refine .inr ((derived_stuck offset rest ran sited).behind [⟨.doubleColon, colons⟩] rfl ?_)
        intro before _ expected _ misses
        rw [List.singleton_append, body.eq_def]
        simp only [isFormula, if_true, misses]
      · cases failed
    · rename_i notFormula
      rw [Bool.not_eq_true] at notFormula
      split at failed
      · rename_i unknown
        exact .inl ⟨(Except.error.inj failed).symm, notFormula, unknown, colons, rest, rfl⟩
      · rename_i keyword known
        split at failed
        · rename_i ran
          obtain rfl := Except.error.inj failed
          refine .inr ((density_stuck keyword offset rest ran sited).behind [⟨.doubleColon, colons⟩] rfl ?_)
          intro before _ expected _ misses
          rw [List.singleton_append, body.eq_def]
          simp only [notFormula, known, misses]
          rfl
        · cases failed
  · cases failed
termination_by 7 * tokens.length + 2

theorem derived_stuck (offset : Nat) (tokens : List (Placed Token)) {e : Error}
    (failed : derived offset tokens = .error e) (sited : e.blamesName = false) : StuckIn (derived offset) tokens e := by
  rw [derived.eq_def] at failed
  split at failed
  · rename_i ran
    obtain rfl := Except.error.inj failed
    obtain rfl := identifier_eq_error ran
    exact stuckIn_unexpected [] rfl (by rw [derived.eq_def]; rfl)
  rename_i own ranName
  obtain ⟨first, shapeName⟩ := begins_single_iff.mp (begins_of_identifier ranName)
  split at failed
  · rename_i ran
    obtain rfl := Except.error.inj failed
    obtain rfl := expect_eq_error ran
    exact stuckIn_unexpected [⟨.identifier own.value, first⟩] shapeName (by rw [derived.eq_def]; rfl)
  rename_i opened ranOpened
  obtain ⟨second, shapeOpened⟩ := begins_single_iff.mp (begins_of_expect ranOpened)
  split at failed
  · rename_i ran
    obtain rfl := Except.error.inj failed
    obtain rfl := quoted_eq_error ran
    exact stuckIn_unexpected [⟨.identifier own.value, first⟩, ⟨.leftParen, second⟩]
      (shapeName.trans (congrArg _ shapeOpened)) (by rw [derived.eq_def]; simp only [identifier, expect, if_true]; rfl)
  rename_i formula ranFormula
  obtain ⟨third, shapeFormula⟩ := begins_single_iff.mp (begins_of_quoted ranFormula)
  have wholly := shapeName.trans (congrArg _ (shapeOpened.trans (congrArg _ shapeFormula)))
  have := own.shorter
  have := opened.shorter
  have := formula.shorter
  split at failed
  · rename_i ran
    obtain rfl := Except.error.inj failed
    apply (dependencies_stuck formula.rest ran sited).behind
      [⟨.identifier own.value, first⟩, ⟨.leftParen, second⟩, ⟨.string formula.value, third⟩] wholly
    intro before _ expected _ misses
    rw [derived.eq_def]
    simp only [List.cons_append, List.nil_append, identifier, expect, if_true, quoted, misses]
  rename_i deps ran
  split at failed
  · rename_i ranClose
    obtain rfl := Except.error.inj failed
    obtain rfl := expect_eq_error ranClose
    obtain ⟨front, split, trees, shorter, taken⟩ := (rereads_dependencies ran).alone
    apply stuckIn_unexpected
      (⟨.identifier own.value, first⟩ :: ⟨.leftParen, second⟩ :: ⟨.string formula.value, third⟩ :: front)
      (wholly.trans (congrArg (_ :: _ :: _ :: ·) split))
    rw [derived.eq_def]
    simp only [identifier, expect, if_true, quoted, taken]
  · cases failed
termination_by 7 * tokens.length + 1
decreasing_by omega

theorem dependencies_stuck (tokens : List (Placed Token)) {e : Error} (failed : dependencies tokens = .error e)
    (sited : e.blamesName = false) : StuckIn dependencies tokens e := by
  rw [dependencies.eq_def] at failed
  split at failed
  · cases failed
  · rename_i comma brace rest notClosed
    split at failed
    · rename_i ran
      obtain rfl := Except.error.inj failed
      apply (argumentList_stuck rest ran sited).behind [⟨.comma, comma⟩, ⟨.leftBrace, brace⟩] rfl
      rintro before more expected rfl misses
      rw [List.cons_append, List.singleton_append, dependencies]
      · simp only [misses]
      · rintro place others rfl
        exact notClosed _ _ rfl
    · rename_i read ran
      split at failed
      · rename_i ranClose
        obtain rfl := Except.error.inj failed
        obtain rfl := expect_eq_error ranClose
        obtain ⟨front, split, trees, given⟩ := (rereads_argumentList ran).alone
        apply stuckIn_unexpected (⟨.comma, comma⟩ :: ⟨.leftBrace, brace⟩ :: front)
          (congrArg (_ :: _ :: ·) split)
        obtain ⟨shorter, taken⟩ := given
        rw [dependencies]
        · simp only [taken, expect]
        · rintro place others rfl
          exact not_gives_brace (.inr rfl) ⟨shorter, taken⟩
      · cases failed
  · rename_i comma rest notEmpty notBraced
    split at failed
    · rename_i ran
      obtain rfl := Except.error.inj failed
      apply (argumentList_stuck rest ran sited).behind [⟨.comma, comma⟩] rfl
      rintro before more expected rfl misses
      rw [List.singleton_append, dependencies]
      · simp only [misses]
      · rintro _ _ _ rfl
        exact notBraced _ _ rfl
      · rintro _ _ rfl
        exact notBraced _ _ rfl
    · cases failed
  · cases failed
termination_by 7 * tokens.length + 0

theorem density_stuck (keyword : Keyword) (offset : Nat) (tokens : List (Placed Token)) {e : Error}
    (failed : density keyword offset tokens = .error e) (sited : e.blamesName = false) :
    StuckIn (density keyword offset) tokens e := by
  rw [density.eq_def] at failed
  split at failed
  · rename_i ran
    obtain rfl := Except.error.inj failed
    obtain rfl := identifier_eq_error ran
    exact stuckIn_unexpected [] rfl (by rw [density.eq_def]; rfl)
  rename_i own ranName
  obtain ⟨first, shapeName⟩ := begins_single_iff.mp (begins_of_identifier ranName)
  split at failed
  · rename_i ran
    obtain rfl := Except.error.inj failed
    obtain rfl := expect_eq_error ran
    exact stuckIn_unexpected [⟨.identifier own.value, first⟩] shapeName (by rw [density.eq_def]; rfl)
  rename_i opened ranOpened
  obtain ⟨second, shapeOpened⟩ := begins_single_iff.mp (begins_of_expect ranOpened)
  have wholly := shapeName.trans (congrArg _ shapeOpened)
  have := own.shorter
  have := opened.shorter
  split at failed
  · rename_i ran
    obtain rfl := Except.error.inj failed
    apply (argumentList_stuck opened.rest ran sited).behind
      [⟨.identifier own.value, first⟩, ⟨.leftParen, second⟩] wholly
    intro before _ expected _ misses
    rw [density.eq_def]
    simp only [List.cons_append, List.nil_append, identifier, expect, if_true, misses]
  rename_i read ran
  split at failed
  · rename_i ranClose
    obtain rfl := Except.error.inj failed
    obtain rfl := expect_eq_error ranClose
    obtain ⟨front, split, trees, shorter, taken⟩ := (rereads_argumentList ran).alone
    apply stuckIn_unexpected (⟨.identifier own.value, first⟩ :: ⟨.leftParen, second⟩ :: front)
      (wholly.trans (congrArg (_ :: _ :: ·) split))
    rw [density.eq_def]
    simp only [identifier, expect, if_true, taken]
  · cases failed
termination_by 7 * tokens.length + 1
decreasing_by omega

theorem argumentList_stuck (tokens : List (Placed Token)) {e : Error} (failed : argumentList tokens = .error e)
    (sited : e.blamesName = false) : StuckIn argumentList tokens e := by
  rw [argumentList.eq_def] at failed
  split at failed
  · rename_i ran
    obtain rfl := Except.error.inj failed
    apply (argument_stuck tokens ran sited).behind [] rfl
    intro before _ expected _ misses
    rw [List.nil_append, argumentList.eq_def, misses]
  · rename_i first ran
    have := first.shorter
    obtain ⟨comma, front, rest, expected, split, blames, again⟩ := argumentsTail_stuck failed sited
    obtain ⟨taken, whole, reread⟩ := rereads_argument ran
    obtain ⟨tree, shorter, read⟩ := reread (⟨.comma, comma⟩ :: front) (avoids_cons_iff.mpr (by simp))
    refine ⟨taken ++ ⟨.comma, comma⟩ :: front, rest, expected, ?_, ?_, blames⟩
    · rw [List.append_assoc]
      exact whole.trans (congrArg _ split)
    · rw [argumentList.eq_def, read]
      exact again _ _ _
termination_by 7 * tokens.length + 6
decreasing_by
  · omega
  · simp only [Text.Parsed.replace]
    omega

/-- The loop over arguments is stuck in the same place whatever has been read before. -/
theorem argumentsTail_stuck {bound : Nat} {earlier : Parsed (List Argument) bound} {e : Error}
    (failed : argumentsTail bound earlier = .error e) (sited : e.blamesName = false) :
    ∃ comma front rest expected, earlier.rest = ⟨.comma, comma⟩ :: front ++ rest ∧ Blames expected e rest ∧
      ∀ bound trees (shorter : (⟨.comma, comma⟩ :: front).length < bound),
        argumentsTail bound ⟨trees, ⟨.comma, comma⟩ :: front, shorter⟩ = .error (.unexpectedEnd expected) := by
  rw [argumentsTail.eq_def] at failed
  split at failed
  · rename_i comma after shape
    have fewer : after.length < earlier.rest.length := by
      rw [shape, List.length_cons]
      exact Nat.lt_succ_self _
    split at failed
    · rename_i ran
      obtain rfl := Except.error.inj failed
      obtain ⟨front, rest, expected, rfl, misses, blames⟩ := argument_stuck after ran sited
      refine ⟨comma, front, rest, expected, shape, blames, fun bound trees shorter => ?_⟩
      rw [argumentsTail.eq_def]
      simp only [misses]
    · rename_i next ran
      have := next.shorter
      obtain ⟨later, front, rest, expected, split, blames, again⟩ := argumentsTail_stuck failed sited
      obtain ⟨taken, whole, reread⟩ := rereads_argument ran
      obtain ⟨tree, less, read⟩ := reread (⟨.comma, later⟩ :: front) (avoids_cons_iff.mpr (by simp))
      refine ⟨comma, taken ++ ⟨.comma, later⟩ :: front, rest, expected, ?_, blames, fun bound trees shorter => ?_⟩
      · rw [List.cons_append, List.append_assoc]
        exact shape.trans (congrArg _ (whole.trans (congrArg _ split)))
      · rw [argumentsTail.eq_def]
        simp only [read]
        exact again _ _ _
  · cases failed
termination_by 7 * earlier.rest.length + 6
decreasing_by all_goals omega

theorem argument_stuck (tokens : List (Placed Token)) {e : Error} (failed : argument tokens = .error e)
    (sited : e.blamesName = false) : StuckIn argument tokens e := by
  rw [argument.eq_def] at failed
  split at failed
  · rename_i ran
    obtain rfl := Except.error.inj failed
    apply (factor_stuck tokens ran sited).behind [] rfl
    intro before _ expected _ misses
    rw [List.nil_append, argument.eq_def, misses]
  · rename_i first ran
    split at failed
    · rename_i star after shape
      have fewer : after.length < tokens.length := by
        have := first.shorter
        rw [shape, List.length_cons] at this
        omega
      split at failed
      · rename_i ranSecond
        obtain rfl := Except.error.inj failed
        obtain ⟨taken, whole, reread⟩ := rereads_factor ran
        apply (factor_stuck after ranSecond sited).behind (taken ++ [⟨.star, star⟩])
          (by rw [List.append_assoc]; exact whole.trans (congrArg _ shape))
        intro before _ expected _ misses
        obtain ⟨tree, shorter, read⟩ := reread (⟨.star, star⟩ :: before) (avoids_cons_iff.mpr (by simp))
        rw [List.append_assoc, List.singleton_append, argument.eq_def, read]
        simp only [misses]
      · cases failed
    · cases failed
termination_by 7 * tokens.length + 5
decreasing_by all_goals omega

theorem factor_stuck (tokens : List (Placed Token)) {e : Error} (failed : factor tokens = .error e)
    (sited : e.blamesName = false) : StuckIn factor tokens e := by
  rw [factor.eq_def] at failed
  split at failed
  · rename_i ran
    obtain rfl := Except.error.inj failed
    apply (primary_stuck tokens ran sited).behind [] rfl
    intro before _ expected _ misses
    rw [List.nil_append, factor.eq_def, misses]
  · rename_i first ran
    split at failed
    · rename_i bar after shape
      split at failed
      · rename_i ranGiven
        obtain rfl := Except.error.inj failed
        obtain rfl := identifier_eq_error ranGiven
        obtain ⟨taken, whole, reread⟩ := rereads_primary ran
        obtain ⟨tree, shorter, read⟩ := reread [⟨.bar, bar⟩] (avoids_cons_iff.mpr (by simp))
        apply stuckIn_unexpected (taken ++ [⟨.bar, bar⟩])
          (by rw [List.append_assoc]; exact whole.trans (congrArg _ shape))
        rw [factor.eq_def, read]
        rfl
      · cases failed
    · cases failed
termination_by 7 * tokens.length + 4

theorem primary_stuck (tokens : List (Placed Token)) {e : Error} (failed : primary tokens = .error e)
    (sited : e.blamesName = false) : StuckIn primary tokens e := by
  rw [primary.eq_def] at failed
  split at failed
  · cases failed
  · rename_i name offset rest
    split at failed
    · rename_i ran
      obtain rfl := Except.error.inj failed
      obtain ⟨rfl, notFormula, unknown, colons, others, rfl⟩ | stuck := body_stuck name offset rest ran sited
      · exact ⟨[], _, .argument, rfl, by rw [primary.eq_def]; rfl, rfl, rfl, notFormula, unknown⟩
      · apply stuck.behind [⟨.identifier name, offset⟩] rfl
        intro before _ expected _ misses
        rw [List.singleton_append, primary.eq_def]
        simp only [misses]
    · cases failed
    · cases failed
  · obtain rfl := Except.error.inj failed
    exact stuckIn_unexpected [] rfl (by rw [primary.eq_def])
termination_by 7 * tokens.length + 3

end

end Parser

variable {ends : Nat} {expected : Expected} {e : Error} {items before : List (Placed Token)}

/-- Some tokens have no fault but that they end where something is expected, which may be their end. -/
def Awaits (before : List (Placed Token)) (expected : Expected) : Prop :=
  ∀ ends, ofTokens ⟨before, ends⟩ = .error (.unexpectedEnd expected) ∨
    expected = .finish ∧ ∃ declaration, ofTokens ⟨before, ends⟩ = .ok declaration

theorem awaits_of_body {name : String} {offset : Nat}
    (failed : Parser.body name offset before = .error (.unexpectedEnd expected)) :
    Awaits (⟨.identifier name, offset⟩ :: before) expected := by
  intro ends
  left
  simp only [ofTokens, failed]

theorem ofTokens_stuck (failed : ofTokens ⟨items, ends⟩ = .error e) (sited : e.blamesName = false) :
    ∃ before rest expected, items = before ++ rest ∧ Awaits before expected ∧ Parser.Blames expected e rest := by
  unfold ofTokens at failed
  dsimp only at failed
  split at failed
  · rename_i name offset rest
    split at failed
    · rename_i ran
      obtain rfl := Except.error.inj failed
      obtain ⟨rfl, notFormula, unknown, colons, others, rfl⟩ | ⟨front, rest, expected, rfl, misses, blames⟩ :=
        Parser.body_stuck name offset rest ran sited
      · exact ⟨[], _, .declaration, rfl, fun _ => .inl rfl, rfl, rfl, notFormula, unknown⟩
      · exact ⟨_, rest, expected, rfl, awaits_of_body misses, blames⟩
    · cases failed
      cases sited
    · rename_i read ran
      split at failed
      · cases failed
      · obtain rfl := Except.error.inj failed
        obtain ⟨values, ⟨front, split, rfl⟩, derived⟩ := Parser.body_sound name offset rest read ran
        refine ⟨⟨.identifier name, offset⟩ :: front, read.rest, .finish, congrArg _ split, fun ends => .inr ⟨rfl, ?_⟩,
          Parser.blames_unexpected⟩
        obtain ⟨declaration, parsed, _⟩ :=
          @exists_ofTokens_of_sentence ⟨⟨.identifier name, offset⟩ :: front, ends⟩ _ derived
        exact ⟨declaration, parsed⟩
  · obtain rfl := Except.error.inj failed
    exact ⟨[], items, .declaration, rfl, fun _ => .inl rfl, Parser.blames_unexpected⟩

end DensityGraph.Declaration
