import DensityGraph.Declaration.Parser
import DensityGraph.Proofs.Result
import DensityGraph.Proofs.Text.Taken

/-!
# The grammar of declarations

The grammar is a family of derivations that know nothing of how a text is read: they say which tokens
spell which tree, offsets aside.  The parser is sound for it and complete.  It looks no further than one
token ahead and never goes back, so completeness has to say what may follow the tokens that are read.
-/

namespace DensityGraph

mutual

/-- A declaration in which every offset is zero. -/
def Declaration.unplaced : Declaration → Declaration
  | .free name value lower upper _ => .free name value lower upper 0
  | .derived name formula dependencies _ => .derived name formula (Argument.unplacedAll dependencies) 0
  | .density keyword name arguments _ => .density keyword name (Argument.unplacedAll arguments) 0

def Argument.unplaced : Argument → Argument
  | .reference name _ => .reference name 0
  | .constant value text => .constant value text
  | .nested declaration => .nested declaration.unplaced
  | .conditioned density given _ => .conditioned density.unplaced given 0
  | .weighted weight density _ => .weighted weight.unplaced density.unplaced 0

def Argument.unplacedAll : List Argument → List Argument
  | [] => []
  | argument :: rest => argument.unplaced :: Argument.unplacedAll rest

end

theorem Argument.unplacedAll_eq_map (arguments : List Argument) :
    Argument.unplacedAll arguments = arguments.map Argument.unplaced := by
  induction arguments with
  | nil => rw [Argument.unplacedAll, List.map_nil]
  | cons first rest ih => rw [Argument.unplacedAll, ih, List.map_cons]

namespace Declaration

open DensityGraph.Text (Placed Tokens Begins begins_nil_iff begins_cons_iff begins_append_iff begins_all_iff begins_single
  begins_single_iff Takes takes_error takes_ok Gives Avoids avoids_cons_iff avoids_nil lt_of_behind)

/-- The words for a kind of density. -/
def Keyword.words : Keyword → List String
  | gaussian => ["gaussian"]
  | uniform => ["uniform"]
  | product => ["prod", "product"]
  | mixture => ["sum"]

/-- A text is a word in small letters, up to the case of ASCII letters. -/
def IsWord (text word : String) : Prop := text.toList.map Char.toLower = word.toList

theorem isWord_iff {text word : String} : IsWord text word ↔ String.ofList (text.toList.map Char.toLower) = word := by
  rw [IsWord, ← String.toList_inj, String.toList_ofList]

theorem Keyword.ofText?_eq_some {text : String} {keyword : Keyword} :
    ofText? text = some keyword ↔ ∃ word ∈ keyword.words, IsWord text word := by
  simp only [isWord_iff, ofText?, exists_eq_right']
  generalize String.ofList (text.toList.map Char.toLower) = lowered
  constructor
  · intro found
    split at found <;> cases found <;> simp [words]
  · intro member
    cases keyword <;> simp [words] at member
    case product => rcases member with rfl | rfl <;> rfl
    all_goals subst member; rfl

theorem isFormulaKeyword_iff {text : String} : Parser.isFormulaKeyword text = true ↔ IsWord text "expr" := by
  rw [isWord_iff, Parser.isFormulaKeyword, beq_iff_eq]

/-- No kind of density is spelled like derived parameters are. -/
theorem not_isWord_expr {text word : String} {keyword : Keyword} (member : word ∈ keyword.words)
    (spelled : IsWord text word) : ¬ IsWord text "expr" := by
  rw [isWord_iff] at spelled ⊢
  rw [spelled]
  rintro rfl
  cases keyword <;> simp [Keyword.words] at member

namespace Grammar

mutual

/-- A free parameter with one to three numbers, a derived parameter or a density. -/
inductive Sentence : List Token → Declaration → Prop where
  | value (name text : String) (value : Float) :
      Sentence [.identifier name, .leftBracket, .number value text, .rightBracket] (.free name value value value 0)
  | range (name lowerText upperText : String) (lower upper : Float) :
      Sentence [.identifier name, .leftBracket, .number lower lowerText, .comma, .number upper upperText, .rightBracket]
        (.free name (Bounds.midpoint ⟨lower, upper⟩) lower upper 0)
  | valueInRange (name text lowerText upperText : String) (value lower upper : Float) :
      Sentence [.identifier name, .leftBracket, .number value text, .comma, .number lower lowerText, .comma,
        .number upper upperText, .rightBracket] (.free name value lower upper 0)
  | derived {keyword : String} (name source : String) {tokens : List Token} {arguments : List Argument}
      (spelled : IsWord keyword "expr") (dependencies : Dependencies tokens arguments) :
      Sentence (.identifier keyword :: .doubleColon :: .identifier name :: .leftParen :: .string source ::
        (tokens ++ [.rightParen])) (.derived name source arguments 0)
  | density {text word : String} (keyword : Keyword) (name : String) {tokens : List Token} {arguments : List Argument}
      (member : word ∈ keyword.words) (spelled : IsWord text word) (derived : Arguments tokens arguments) :
      Sentence (.identifier text :: .doubleColon :: .identifier name :: .leftParen :: (tokens ++ [.rightParen]))
        (.density keyword name arguments 0)

/-- What stands between a formula and its closing parenthesis. -/
inductive Dependencies : List Token → List Argument → Prop where
  | none : Dependencies [] []
  | emptyBraces : Dependencies [.comma, .leftBrace, .rightBrace] []
  | braces {tokens : List Token} {arguments : List Argument} (derived : Arguments tokens arguments) :
      Dependencies (.comma :: .leftBrace :: (tokens ++ [.rightBrace])) arguments
  | bare {tokens : List Token} {arguments : List Argument} (derived : Arguments tokens arguments) :
      Dependencies (.comma :: tokens) arguments

/-- One item or more, with commas between them. -/
inductive Arguments : List Token → List Argument → Prop where
  | single {tokens : List Token} {tree : Argument} (derived : Item tokens tree) : Arguments tokens [tree]
  | more {before after : List Token} {trees : List Argument} {tree : Argument} (earlier : Arguments before trees)
      (last : Item after tree) : Arguments (before ++ .comma :: after) (trees ++ [tree])

/-- A factor, or a weight and a factor. -/
inductive Item : List Token → Argument → Prop where
  | factor {tokens : List Token} {tree : Argument} (derived : Factor tokens tree) : Item tokens tree
  | weighted {before after : List Token} {weight density : Argument} (first : Factor before weight)
      (second : Factor after density) : Item (before ++ .star :: after) (.weighted weight density 0)

/-- A primary, which may be conditioned on a name. -/
inductive Factor : List Token → Argument → Prop where
  | primary {tokens : List Token} {tree : Argument} (derived : Primary tokens tree) : Factor tokens tree
  | conditioned {tokens : List Token} {tree : Argument} (derived : Primary tokens tree) (given : String) :
      Factor (tokens ++ [.bar, .identifier given]) (.conditioned tree given 0)

/-- A number, a name or a declaration. -/
inductive Primary : List Token → Argument → Prop where
  | number (value : Float) (text : String) : Primary [.number value text] (.constant value text)
  | reference (name : String) : Primary [.identifier name] (.reference name 0)
  | nested {tokens : List Token} {tree : Declaration} (derived : Sentence tokens tree) :
      Primary tokens (.nested tree)

end

end Grammar

namespace Parser

variable {α β : Type} {bound offset : Nat} {name : String} {token : Token} {values : List Token}
  {tokens middle rest : List (Placed Token)}

theorem begins_of_expect {read : Parsed Unit tokens.length} (ran : expect token tokens = .ok read) :
    Begins [token] tokens read.rest := by
  unfold expect at ran
  split at ran
  · cases ran
  · split at ran
    · rename_i found rest same
      cases ran
      exact begins_single_iff.mpr ⟨found.offset, by rw [← same]⟩
    · cases ran

theorem begins_of_identifier {expected : Expected} {read : Parsed String tokens.length}
    (ran : identifier expected tokens = .ok read) : Begins [.identifier read.value] tokens read.rest := by
  unfold identifier at ran
  split at ran
  · cases ran
    exact begins_single _ _
  · cases ran

theorem begins_of_number {read : Parsed Float tokens.length} (ran : number tokens = .ok read) :
    ∃ text, Begins [.number read.value text] tokens read.rest := by
  unfold number at ran
  split at ran
  · cases ran
    exact ⟨_, begins_single _ _⟩
  · cases ran

theorem begins_of_quoted {read : Parsed String tokens.length} (ran : quoted tokens = .ok read) :
    Begins [.string read.value] tokens read.rest := by
  unfold quoted at ran
  split at ran
  · cases ran
    exact begins_single _ _
  · cases ran

/-- The numbers behind the first one, each with its comma. -/
theorem begins_of_numbersTail {before read : Parsed (List Float) bound} (ran : numbersTail bound before = .ok read) :
    ∃ more : List (Float × String), read.value = before.value ++ more.map Prod.fst ∧
      Begins (more.flatMap fun number => [.comma, .number number.1 number.2]) before.rest read.rest := by
  rw [numbersTail.eq_def] at ran
  split at ran
  · rename_i comma after behind
    split at ran
    · cases ran
    · rename_i next ranNext
      have fewer : next.rest.length < before.rest.length := by
        rw [behind]
        exact Nat.lt_succ_of_lt next.shorter
      obtain ⟨text, begunNext⟩ := begins_of_number ranNext
      obtain ⟨more, same, begun⟩ := begins_of_numbersTail ran
      refine ⟨(next.value, text) :: more, by simpa using same, ?_⟩
      exact (begunNext.behind behind).append begun
  · cases ran
    exact ⟨[], by simp, begins_nil_iff.mpr rfl⟩
termination_by before.rest.length

theorem free_sound : Takes (free name offset tokens) tokens fun values tree =>
    Grammar.Sentence (.identifier name :: .leftBracket :: values) tree.unplaced := by
  unfold free
  split
  · exact takes_error
  · rename_i first ranFirst
    split
    · exact takes_error
    · rename_i numbers ranNumbers
      split
      · exact takes_error
      · rename_i close ranClose
        split
        · exact takes_error
        · rename_i tree made
          obtain ⟨text, begunFirst⟩ := begins_of_number ranFirst
          obtain ⟨more, same, begunMore⟩ := begins_of_numbersTail ranNumbers
          have begun := begunFirst.append (begunMore.append (begins_of_expect ranClose))
          refine takes_ok begun ?_
          rw [same] at made
          rcases more with _ | ⟨⟨second, secondText⟩, _ | ⟨⟨third, thirdText⟩, _ | _⟩⟩
          · cases made
            exact .value name text first.value
          · cases made
            exact .range name text secondText first.value second
          · cases made
            exact .valueInRange name text secondText thirdText first.value second third
          · cases made

mutual

theorem body_sound (name : String) (offset : Nat) (tokens : List (Placed Token)) (read : Parsed Declaration tokens.length)
    (ran : body name offset tokens = .ok (some read)) :
    ∃ values, Begins values tokens read.rest ∧ Grammar.Sentence (.identifier name :: values) read.value.unplaced := by
  rw [body.eq_def] at ran
  split at ran
  · split at ran
    · cases ran
    · rename_i inner ranInner
      cases ran
      obtain ⟨values, begun, derived⟩ := free_sound inner ranInner
      exact ⟨_, begun.behind rfl, derived⟩
  · rename_i rest
    split at ran
    · rename_i isFormula
      split at ran
      · cases ran
      · rename_i inner ranInner
        cases ran
        obtain ⟨values, begun, derived⟩ := derived_sound offset rest inner ranInner
        exact ⟨_, begun.behind rfl, derived name (isFormulaKeyword_iff.1 isFormula)⟩
    · split at ran
      · cases ran
      · rename_i keyword found
        split at ran
        · cases ran
        · rename_i inner ranInner
          cases ran
          obtain ⟨word, member, spelled⟩ := Keyword.ofText?_eq_some.1 found
          obtain ⟨values, begun, derived⟩ := density_sound keyword offset rest inner ranInner
          exact ⟨_, begun.behind rfl, derived name word member spelled⟩
  · cases ran
termination_by 7 * tokens.length + 2

theorem derived_sound (offset : Nat) (tokens : List (Placed Token)) :
    Takes (derived offset tokens) tokens fun values tree => ∀ keyword, IsWord keyword "expr" →
      Grammar.Sentence (.identifier keyword :: .doubleColon :: values) tree.unplaced := by
  rw [derived.eq_def]
  split
  · exact takes_error
  · rename_i name ranName
    split
    · exact takes_error
    · rename_i opened ranOpened
      split
      · exact takes_error
      · rename_i formula ranFormula
        split
        · exact takes_error
        · rename_i deps ranDeps
          split
          · exact takes_error
          · rename_i close ranClose
            have := name.shorter
            have := opened.shorter
            have := formula.shorter
            obtain ⟨values, begun, dependencies⟩ := dependencies_sound formula.rest deps ranDeps
            have wholly := (begins_of_identifier ranName).append ((begins_of_expect ranOpened).append
              ((begins_of_quoted ranFormula).append (begun.append (begins_of_expect ranClose))))
            refine takes_ok wholly fun keyword spelled => ?_
            rw [Text.Parsed.replace, unplaced, Argument.unplacedAll_eq_map]
            exact .derived name.value formula.value spelled dependencies
termination_by 7 * tokens.length + 1

theorem dependencies_sound (tokens : List (Placed Token)) :
    Takes (dependencies tokens) tokens fun values arguments =>
      Grammar.Dependencies values (arguments.map Argument.unplaced) := by
  rw [dependencies.eq_def]
  split
  · exact takes_ok (((begins_single _ _).behind rfl).behind rfl) .emptyBraces
  · rename_i rest _
    split
    · exact takes_error
    · rename_i read ran
      split
      · exact takes_error
      · rename_i close ranClose
        obtain ⟨values, begun, derived⟩ := argumentList_sound rest read ran
        have begunInside := begun.append (begins_of_expect ranClose)
        exact takes_ok ((begunInside.behind rfl).behind rfl) (.braces derived)
  · rename_i rest _ _
    split
    · exact takes_error
    · rename_i read ran
      obtain ⟨values, begun, derived⟩ := argumentList_sound rest read ran
      exact takes_ok (begun.behind rfl) (.bare derived)
  · exact takes_ok (begins_nil_iff.mpr rfl) .none
termination_by 7 * tokens.length + 0

theorem density_sound (keyword : Keyword) (offset : Nat) (tokens : List (Placed Token)) :
    Takes (density keyword offset tokens) tokens fun values tree =>
      ∀ text, ∀ word ∈ keyword.words, IsWord text word →
        Grammar.Sentence (.identifier text :: .doubleColon :: values) tree.unplaced := by
  rw [density.eq_def]
  split
  · exact takes_error
  · rename_i name ranName
    split
    · exact takes_error
    · rename_i opened ranOpened
      split
      · exact takes_error
      · rename_i read ran
        split
        · exact takes_error
        · rename_i close ranClose
          have := name.shorter
          have := opened.shorter
          obtain ⟨values, begun, arguments⟩ := argumentList_sound opened.rest read ran
          have wholly := (begins_of_identifier ranName).append ((begins_of_expect ranOpened).append
            (begun.append (begins_of_expect ranClose)))
          refine takes_ok wholly fun text word member spelled => ?_
          rw [Text.Parsed.replace, unplaced, Argument.unplacedAll_eq_map]
          exact .density keyword name.value member spelled arguments
termination_by 7 * tokens.length + 1

theorem argumentList_sound (tokens : List (Placed Token)) :
    Takes (argumentList tokens) tokens fun values arguments =>
      Grammar.Arguments values (arguments.map Argument.unplaced) := by
  rw [argumentList.eq_def]
  split
  · exact takes_error
  · rename_i first ran
    obtain ⟨values, begun, derived⟩ := argument_sound tokens first ran
    have fewer := first.shorter
    exact argumentsTail_sound tokens.length (first.replace [first.value] _) begun (.single derived)
termination_by 7 * tokens.length + 6
decreasing_by
  · omega
  · simp only [Text.Parsed.replace]
    omega

theorem argumentsTail_sound (bound : Nat) (before : Parsed (List Argument) bound) {tokens : List (Placed Token)}
    {values : List Token} (begun : Begins values tokens before.rest)
    (derived : Grammar.Arguments values (before.value.map Argument.unplaced)) :
    Takes (argumentsTail bound before) tokens fun values arguments =>
      Grammar.Arguments values (arguments.map Argument.unplaced) := by
  rw [argumentsTail.eq_def]
  split
  · rename_i offset rest behind
    have fewer : rest.length < before.rest.length := by
      rw [behind, List.length_cons]
      exact Nat.lt_succ_self _
    split
    · exact takes_error
    · rename_i next ran
      obtain ⟨taken, begunNext, derivedNext⟩ := argument_sound rest next ran
      have fewerStill := next.shorter
      have wholly : Begins (values ++ .comma :: taken) tokens next.rest := begun.append (begunNext.behind behind)
      apply argumentsTail_sound bound _ wholly
      rw [List.map_append]
      exact .more derived derivedNext
  · exact takes_ok begun derived
termination_by 7 * before.rest.length + 6
decreasing_by all_goals omega

theorem argument_sound (tokens : List (Placed Token)) :
    Takes (argument tokens) tokens fun values tree => Grammar.Item values tree.unplaced := by
  rw [argument.eq_def]
  split
  · exact takes_error
  · rename_i first ran
    obtain ⟨values, begun, derived⟩ := factor_sound tokens first ran
    split
    · rename_i offset rest behind
      have fewer : rest.length < tokens.length := by
        have := first.shorter
        rw [behind, List.length_cons] at this
        omega
      split
      · exact takes_error
      · rename_i second ranSecond
        obtain ⟨taken, begunSecond, derivedSecond⟩ := factor_sound rest second ranSecond
        exact takes_ok (begun.append (begunSecond.behind behind)) (.weighted derived derivedSecond)
    · exact takes_ok begun (.factor derived)
termination_by 7 * tokens.length + 5
decreasing_by all_goals omega

theorem factor_sound (tokens : List (Placed Token)) :
    Takes (factor tokens) tokens fun values tree => Grammar.Factor values tree.unplaced := by
  rw [factor.eq_def]
  split
  · exact takes_error
  · rename_i read ran
    obtain ⟨values, begun, derived⟩ := primary_sound tokens read ran
    split
    · rename_i offset rest behind
      split
      · exact takes_error
      · rename_i given ranGiven
        have wholly := begun.append ((begins_of_identifier ranGiven).behind behind)
        exact takes_ok wholly (.conditioned derived given.value)
    · exact takes_ok begun (.primary derived)
termination_by 7 * tokens.length + 4

theorem primary_sound (tokens : List (Placed Token)) :
    Takes (primary tokens) tokens fun values tree => Grammar.Primary values tree.unplaced := by
  rw [primary.eq_def]
  split
  · exact takes_ok (begins_single _ _) (.number _ _)
  · rename_i name offset rest
    split
    · exact takes_error
    · exact takes_ok (begins_single _ _) (.reference name)
    · rename_i read ran
      obtain ⟨values, begun, derived⟩ := body_sound name offset rest read ran
      exact takes_ok (begun.behind rfl) (.nested derived)
  · exact takes_error
termination_by 7 * tokens.length + 3

end

/-- Something is read that is the given tree when its offsets are put aside. -/
def Yields (result : Except Error (Parsed α bound)) (unplaced : α → β) (tree : β) (rest : List (Placed Token)) : Prop :=
  ∃ read, unplaced read = tree ∧ Gives result read rest

/-- What would continue a name that is read. -/
abbrev nameStops : List Token := [.leftBracket, .doubleColon]

/-- What would continue a factor that is read. -/
abbrev factorStops : List Token := .bar :: nameStops

/-- What would continue an item that is read. -/
abbrev itemStops : List Token := .star :: factorStops

theorem numbersTail_stops {read : Parsed (List Float) bound} (avoids : Avoids [.comma] read.rest) :
    numbersTail bound read = .ok read := by
  rw [numbersTail.eq_def]
  split
  · rename_i offset rest behind
    rw [behind, avoids_cons_iff] at avoids
    simp at avoids
  · rfl

theorem numbersTail_of_begins {more : List (Float × String)} {read : Parsed (List Float) bound}
    (begun : Begins (more.flatMap fun number => [.comma, .number number.1 number.2]) read.rest rest)
    (avoids : Avoids [.comma] rest) :
    ∃ shorter, numbersTail bound read = .ok ⟨read.value ++ more.map Prod.fst, rest, shorter⟩ := by
  induction more generalizing read with
  | nil =>
      obtain ⟨value, tokens, shorter⟩ := read
      obtain rfl := begins_nil_iff.mp begun
      exact ⟨shorter, by simp [numbersTail_stops avoids]⟩
  | cons first more ih =>
      obtain ⟨value, tokens, shorter⟩ := read
      obtain ⟨comma, _, rfl, begunNumber⟩ := begins_cons_iff.mp begun
      obtain ⟨offset, later, rfl, begunMore⟩ := begins_cons_iff.mp begunNumber
      have less : later.length < bound := by
        simp only [List.length_cons] at shorter
        omega
      have step :
          numbersTail bound ⟨value, ⟨.comma, comma⟩ :: ⟨.number first.1 first.2, offset⟩ :: later, shorter⟩ =
            numbersTail bound ⟨value ++ [first.1], later, less⟩ := by
        rw [numbersTail.eq_def]
        simp only [number]
      obtain ⟨shorter, read⟩ := @ih ⟨value ++ [first.1], later, less⟩ begunMore
      exact ⟨shorter, by rw [step, read]; simp⟩

theorem gives_free {text : String} {first : Float} {more : List (Float × String)} {tree : Declaration}
    (made : freeOf name offset (first :: more.map Prod.fst) = .ok tree)
    (begun : Begins (.number first text :: (more.flatMap (fun number => [.comma, .number number.1 number.2]) ++
      [.rightBracket])) tokens rest) : Gives (free name offset tokens) tree rest := by
  obtain ⟨place, later, rfl, begunBehind⟩ := begins_cons_iff.mp begun
  obtain ⟨middle, begunMore, begunEnd⟩ := begins_append_iff.mp begunBehind
  obtain ⟨close, rfl⟩ := begins_single_iff.mp begunEnd
  have numberRead : number (⟨.number first text, place⟩ :: later) = .ok ⟨first, later, by simp⟩ := rfl
  obtain ⟨shorter, read⟩ := @numbersTail_of_begins (later.length + 1) _ more ⟨[first], later, by simp⟩ begunMore
    (avoids_cons_iff.mpr (by simp))
  rw [List.singleton_append] at read
  rw [List.length_cons] at shorter
  refine ⟨by rw [List.length_cons]; omega, ?_⟩
  unfold free
  simp only [numberRead, Text.Parsed.replace, List.length_cons, read, expect, made, if_true]

theorem body_eq_none (avoids : Avoids nameStops rest) : body name offset rest = .ok none := by
  rw [body.eq_def]
  split
  · simp [avoids_cons_iff] at avoids
  · simp [avoids_cons_iff] at avoids
  · rfl

theorem argumentsTail_stops {read : Parsed (List Argument) bound} (avoids : Avoids [.comma] read.rest) :
    argumentsTail bound read = .ok read := by
  rw [argumentsTail.eq_def]
  split
  · rename_i offset rest behind
    rw [behind, avoids_cons_iff] at avoids
    simp at avoids
  · rfl

theorem argumentsTail_comma {trees : List Argument} {tree : Argument}
    {shorter : (⟨.comma, offset⟩ :: middle).length < bound} (given : Gives (argument middle) tree rest) :
    ∃ less, argumentsTail bound ⟨trees, ⟨.comma, offset⟩ :: middle, shorter⟩ =
      argumentsTail bound ⟨trees ++ [tree], rest, less⟩ := by
  obtain ⟨fewer, given⟩ := given
  refine ⟨lt_of_behind shorter fewer, ?_⟩
  rw [argumentsTail.eq_def]
  simp only [given]

/-- Arguments do not begin with a brace. -/
theorem not_gives_brace {trees : List Argument} (brace : token = .leftBrace ∨ token = .rightBrace) :
    ¬ Gives (argumentList (⟨token, offset⟩ :: middle)) trees rest := by
  rintro ⟨shorter, read⟩
  rcases brace with rfl | rfl <;> simp [argumentList, argument, factor, primary] at read

/-- Arguments that are read up to where no list of them goes on. -/
theorem gives_argumentList {trees : List Argument}
    (read : ∃ shorter, argumentList tokens = argumentsTail tokens.length ⟨trees, rest, shorter⟩)
    (avoids : Avoids [.comma] rest) : Gives (argumentList tokens) trees rest := by
  obtain ⟨shorter, read⟩ := read
  exact ⟨shorter, read.trans (argumentsTail_stops avoids)⟩

variable {tree : Declaration} {arguments : List Argument}

theorem body_of_free {bracket : Nat} (given : Gives (free name offset middle) tree rest) :
    ∃ shorter, body name offset (⟨.leftBracket, bracket⟩ :: middle) = .ok (some ⟨tree, rest, shorter⟩) := by
  obtain ⟨shorter, read⟩ := given
  refine ⟨Nat.lt_succ_of_lt shorter, ?_⟩
  rw [body.eq_def]
  simp only [read]
  rfl

/-- A name and one number or more in brackets, if there are not too many. -/
theorem body_of_numbers {text : String} {first : Float} {more : List (Float × String)} {tree : Declaration}
    (made : ∀ offset, ∃ read, freeOf name offset (first :: more.map Prod.fst) = .ok read ∧ read.unplaced = tree)
    (begun : Begins (.identifier name :: .leftBracket :: .number first text ::
      (more.flatMap (fun number => [.comma, .number number.1 number.2]) ++ [.rightBracket])) tokens rest) :
    ∃ offset later, tokens = ⟨.identifier name, offset⟩ :: later ∧
      ∃ read shorter, body name offset later = .ok (some ⟨read, rest, shorter⟩) ∧ read.unplaced = tree := by
  obtain ⟨offset, _, rfl, begunBehind⟩ := begins_cons_iff.mp begun
  obtain ⟨bracket, later, rfl, begunNumbers⟩ := begins_cons_iff.mp begunBehind
  obtain ⟨read, made, same⟩ := made offset
  obtain ⟨shorter, ran⟩ := body_of_free (gives_free made begunNumbers)
  exact ⟨offset, _, rfl, read, shorter, ran, same⟩

theorem body_of_derived {colons : Nat} (spelled : IsWord name "expr")
    (given : Gives (derived offset middle) tree rest) :
    ∃ shorter, body name offset (⟨.doubleColon, colons⟩ :: middle) = .ok (some ⟨tree, rest, shorter⟩) := by
  obtain ⟨shorter, read⟩ := given
  refine ⟨Nat.lt_succ_of_lt shorter, ?_⟩
  rw [body.eq_def]
  simp only [isFormulaKeyword_iff.2 spelled, if_true, read]
  rfl

theorem body_of_density {colons : Nat} {word : String} {keyword : Keyword} (member : word ∈ keyword.words)
    (spelled : IsWord name word) (given : Gives (density keyword offset middle) tree rest) :
    ∃ shorter, body name offset (⟨.doubleColon, colons⟩ :: middle) = .ok (some ⟨tree, rest, shorter⟩) := by
  obtain ⟨shorter, read⟩ := given
  have notFormula : isFormulaKeyword name = false := by
    rw [← Bool.not_eq_true, isFormulaKeyword_iff]
    exact not_isWord_expr member spelled
  refine ⟨Nat.lt_succ_of_lt shorter, ?_⟩
  rw [body.eq_def]
  simp only [notFormula, Keyword.ofText?_eq_some.2 ⟨word, member, spelled⟩, read]
  rfl

theorem gives_derived {source : String} {first second third close : Nat}
    (given : Gives (dependencies middle) arguments (⟨.rightParen, close⟩ :: rest)) :
    Gives (derived offset (⟨.identifier name, first⟩ :: ⟨.leftParen, second⟩ :: ⟨.string source, third⟩ :: middle))
      (.derived name source arguments offset) rest := by
  obtain ⟨shorter, read⟩ := given
  rw [List.length_cons] at shorter
  refine ⟨by simp only [List.length_cons]; omega, ?_⟩
  rw [derived.eq_def]
  simp only [identifier, expect, if_true, quoted, read]
  rfl

theorem gives_density {keyword : Keyword} {first second close : Nat}
    (given : Gives (argumentList middle) arguments (⟨.rightParen, close⟩ :: rest)) :
    Gives (density keyword offset (⟨.identifier name, first⟩ :: ⟨.leftParen, second⟩ :: middle))
      (.density keyword name arguments offset) rest := by
  obtain ⟨shorter, read⟩ := given
  rw [List.length_cons] at shorter
  refine ⟨by simp only [List.length_cons]; omega, ?_⟩
  rw [density.eq_def]
  simp only [identifier, expect, if_true, read]
  rfl

theorem gives_braces {first second close : Nat}
    (given : Gives (argumentList middle) arguments (⟨.rightBrace, close⟩ :: rest)) :
    Gives (dependencies (⟨.comma, first⟩ :: ⟨.leftBrace, second⟩ :: middle)) arguments rest := by
  have inside : ∀ place more, middle ≠ ⟨.rightBrace, place⟩ :: more := by
    rintro place more rfl
    exact not_gives_brace (.inr rfl) given
  obtain ⟨shorter, read⟩ := given
  rw [List.length_cons] at shorter
  refine ⟨by simp only [List.length_cons]; omega, ?_⟩
  rw [dependencies]
  · simp only [read, expect, if_true]
    rfl
  · exact inside

theorem gives_bare {first : Nat} (given : Gives (argumentList middle) arguments rest) :
    Gives (dependencies (⟨.comma, first⟩ :: middle)) arguments rest := by
  have unbraced : ∀ place more, middle ≠ ⟨.leftBrace, place⟩ :: more := by
    rintro place more rfl
    exact not_gives_brace (.inl rfl) given
  obtain ⟨shorter, read⟩ := given
  refine ⟨by simp only [List.length_cons]; omega, ?_⟩
  rw [dependencies]
  · simp only [read]
    rfl
  · exact fun _ _ _ => unbraced _ _
  · exact unbraced

variable {part second : Argument}

theorem gives_factor (given : Gives (primary tokens) part rest) (avoids : Avoids [.bar] rest) :
    Gives (factor tokens) part rest := by
  obtain ⟨shorter, read⟩ := given
  refine ⟨shorter, ?_⟩
  rw [factor.eq_def, read]
  dsimp only
  split
  · simp [avoids_cons_iff] at avoids
  · rfl

theorem gives_conditioned {bar place : Nat}
    (given : Gives (primary tokens) part (⟨.bar, bar⟩ :: ⟨.identifier name, place⟩ :: rest)) :
    Gives (factor tokens) (.conditioned part name (Text.offsetOf 0 tokens)) rest := by
  obtain ⟨shorter, read⟩ := given
  simp only [List.length_cons] at shorter
  refine ⟨by omega, ?_⟩
  rw [factor.eq_def, read]
  rfl

theorem gives_argument (given : Gives (factor tokens) part rest) (avoids : Avoids [.star] rest) :
    Gives (argument tokens) part rest := by
  obtain ⟨shorter, read⟩ := given
  refine ⟨shorter, ?_⟩
  rw [argument.eq_def, read]
  dsimp only
  split
  · simp [avoids_cons_iff] at avoids
  · rfl

theorem gives_weighted {star : Nat} (first : Gives (factor tokens) part (⟨.star, star⟩ :: middle))
    (given : Gives (factor middle) second rest) :
    Gives (argument tokens) (.weighted part second (Text.offsetOf 0 tokens)) rest := by
  obtain ⟨shorterFirst, readFirst⟩ := first
  obtain ⟨shorter, read⟩ := given
  rw [List.length_cons] at shorterFirst
  refine ⟨by omega, ?_⟩
  rw [argument.eq_def, readFirst]
  simp only [read]
  rfl

/-
The induction is on the derivation, through all six of its kinds.  Arguments grow to the left, so what their
earlier part gives is the state in which the loop goes on, and not yet a result.
-/

mutual

theorem sentence_complete {values : List Token} {tree : Declaration} {tokens rest : List (Placed Token)}
    (derived : Grammar.Sentence values tree) (begun : Begins values tokens rest) :
    ∃ name offset more, tokens = ⟨.identifier name, offset⟩ :: more ∧
      ∃ read shorter, body name offset more = .ok (some ⟨read, rest, shorter⟩) ∧ read.unplaced = tree := by
  match derived with
  | .value name text value =>
      exact ⟨name, @body_of_numbers name tokens rest text value [] _ (fun _ => ⟨_, rfl, rfl⟩) begun⟩
  | .range name lowerText upperText lower upper =>
      exact ⟨name, @body_of_numbers name tokens rest lowerText lower [(upper, upperText)] _
        (fun _ => ⟨_, rfl, rfl⟩) begun⟩
  | .valueInRange name text lowerText upperText value lower upper =>
      exact ⟨name, @body_of_numbers name tokens rest text value [(lower, lowerText), (upper, upperText)] _
        (fun _ => ⟨_, rfl, rfl⟩) begun⟩
  | @Grammar.Sentence.derived keyword name source inner arguments spelled inside =>
      obtain ⟨offset, _, rfl, begunColons⟩ := begins_cons_iff.mp begun
      obtain ⟨colons, _, rfl, begunName⟩ := begins_cons_iff.mp begunColons
      obtain ⟨first, _, rfl, begunParen⟩ := begins_cons_iff.mp begunName
      obtain ⟨second, _, rfl, begunSource⟩ := begins_cons_iff.mp begunParen
      obtain ⟨third, _, rfl, begunInside⟩ := begins_cons_iff.mp begunSource
      obtain ⟨middle, begunDependencies, begunEnd⟩ := begins_append_iff.mp begunInside
      obtain ⟨close, rfl⟩ := begins_single_iff.mp begunEnd
      obtain ⟨trees, rfl, given⟩ := dependencies_complete inside begunDependencies (avoids_cons_iff.mpr (by simp))
      obtain ⟨shorter, read⟩ := body_of_derived spelled (gives_derived given)
      refine ⟨keyword, offset, _, rfl, _, shorter, read, ?_⟩
      rw [unplaced, Argument.unplacedAll_eq_map]
  | @Grammar.Sentence.density text word keyword name inner arguments member spelled inside =>
      obtain ⟨offset, _, rfl, begunColons⟩ := begins_cons_iff.mp begun
      obtain ⟨colons, _, rfl, begunName⟩ := begins_cons_iff.mp begunColons
      obtain ⟨first, _, rfl, begunParen⟩ := begins_cons_iff.mp begunName
      obtain ⟨second, _, rfl, begunInside⟩ := begins_cons_iff.mp begunParen
      obtain ⟨middle, begunArguments, begunEnd⟩ := begins_append_iff.mp begunInside
      obtain ⟨close, rfl⟩ := begins_single_iff.mp begunEnd
      obtain ⟨trees, rfl, read⟩ := arguments_complete inside begunArguments (avoids_cons_iff.mpr (by simp))
      have given := gives_argumentList read (avoids_cons_iff.mpr (by simp))
      obtain ⟨shorter, read⟩ := body_of_density member spelled (gives_density given)
      refine ⟨text, offset, _, rfl, _, shorter, read, ?_⟩
      rw [unplaced, Argument.unplacedAll_eq_map]

theorem dependencies_complete {values : List Token} {trees : List Argument} {tokens rest : List (Placed Token)}
    (derived : Grammar.Dependencies values trees) (begun : Begins values tokens rest)
    (avoids : Avoids (.comma :: itemStops) rest) :
    Yields (dependencies tokens) (List.map Argument.unplaced) trees rest := by
  match derived with
  | .none =>
      obtain rfl := begins_nil_iff.mp begun
      have noComma : ∀ place more, tokens ≠ ⟨.comma, place⟩ :: more := by
        rintro place more rfl
        simp [avoids_cons_iff] at avoids
      refine ⟨[], rfl, by simp, ?_⟩
      rw [dependencies]
      · exact fun _ _ _ _ => noComma _ _
      · exact fun _ _ _ => noComma _ _
      · exact noComma
  | .emptyBraces =>
      obtain ⟨first, _, rfl, begunBrace⟩ := begins_cons_iff.mp begun
      obtain ⟨second, _, rfl, begunClose⟩ := begins_cons_iff.mp begunBrace
      obtain ⟨third, rfl⟩ := begins_single_iff.mp begunClose
      exact ⟨[], rfl, by simp only [List.length_cons]; omega, by rw [dependencies]⟩
  | .braces inside =>
      obtain ⟨first, _, rfl, begunBrace⟩ := begins_cons_iff.mp begun
      obtain ⟨second, _, rfl, begunInside⟩ := begins_cons_iff.mp begunBrace
      obtain ⟨middle, begunArguments, begunEnd⟩ := begins_append_iff.mp begunInside
      obtain ⟨close, rfl⟩ := begins_single_iff.mp begunEnd
      obtain ⟨trees, rfl, read⟩ := arguments_complete inside begunArguments (avoids_cons_iff.mpr (by simp))
      exact ⟨trees, rfl, gives_braces (gives_argumentList read (avoids_cons_iff.mpr (by simp)))⟩
  | .bare inside =>
      obtain ⟨first, _, rfl, begunArguments⟩ := begins_cons_iff.mp begun
      obtain ⟨trees, rfl, read⟩ := arguments_complete inside begunArguments (avoids.mono (by simp))
      exact ⟨trees, rfl, gives_bare (gives_argumentList read (avoids.mono (by simp)))⟩

theorem arguments_complete {values : List Token} {trees : List Argument} {tokens rest : List (Placed Token)}
    (derived : Grammar.Arguments values trees) (begun : Begins values tokens rest) (avoids : Avoids itemStops rest) :
    ∃ read, read.map Argument.unplaced = trees ∧
      ∃ shorter, argumentList tokens = argumentsTail tokens.length ⟨read, rest, shorter⟩ := by
  match derived with
  | .single derived =>
      obtain ⟨tree, rfl, shorter, read⟩ := item_complete derived begun avoids
      exact ⟨[tree], rfl, shorter, by rw [argumentList.eq_def, read]; rfl⟩
  | .more earlier last =>
      obtain ⟨middle, begunEarlier, begunBehind⟩ := begins_append_iff.mp begun
      obtain ⟨offset, _, rfl, begunLast⟩ := begins_cons_iff.mp begunBehind
      obtain ⟨trees, rfl, _, readEarlier⟩ := arguments_complete earlier begunEarlier (avoids_cons_iff.mpr (by simp))
      obtain ⟨tree, rfl, given⟩ := item_complete last begunLast avoids
      obtain ⟨shorter, read⟩ := argumentsTail_comma given
      exact ⟨trees ++ [tree], by simp, shorter, readEarlier.trans read⟩

theorem item_complete {values : List Token} {tree : Argument} {tokens rest : List (Placed Token)}
    (derived : Grammar.Item values tree) (begun : Begins values tokens rest) (avoids : Avoids itemStops rest) :
    Yields (argument tokens) Argument.unplaced tree rest := by
  match derived with
  | .factor derived =>
      obtain ⟨tree, rfl, given⟩ := factor_complete derived begun (avoids.mono (by simp))
      exact ⟨tree, rfl, gives_argument given (avoids.mono (by simp))⟩
  | .weighted first second =>
      obtain ⟨middle, begunFirst, begunBehind⟩ := begins_append_iff.mp begun
      obtain ⟨star, _, rfl, begunSecond⟩ := begins_cons_iff.mp begunBehind
      obtain ⟨weight, rfl, givenFirst⟩ := factor_complete first begunFirst (avoids_cons_iff.mpr (by simp))
      obtain ⟨density, rfl, given⟩ := factor_complete second begunSecond (avoids.mono (by simp))
      exact ⟨_, rfl, gives_weighted givenFirst given⟩

theorem factor_complete {values : List Token} {tree : Argument} {tokens rest : List (Placed Token)}
    (derived : Grammar.Factor values tree) (begun : Begins values tokens rest) (avoids : Avoids factorStops rest) :
    Yields (factor tokens) Argument.unplaced tree rest := by
  match derived with
  | .primary derived =>
      obtain ⟨tree, rfl, given⟩ := primary_complete derived begun (avoids.mono (by simp))
      exact ⟨tree, rfl, gives_factor given (avoids.mono (by simp))⟩
  | .conditioned derived given =>
      obtain ⟨middle, begunPart, begunBehind⟩ := begins_append_iff.mp begun
      obtain ⟨bar, _, rfl, begunGiven⟩ := begins_cons_iff.mp begunBehind
      obtain ⟨place, rfl⟩ := begins_single_iff.mp begunGiven
      obtain ⟨tree, rfl, read⟩ := primary_complete derived begunPart (avoids_cons_iff.mpr (by simp))
      exact ⟨_, rfl, gives_conditioned read⟩

theorem primary_complete {values : List Token} {tree : Argument} {tokens rest : List (Placed Token)}
    (derived : Grammar.Primary values tree) (begun : Begins values tokens rest) (avoids : Avoids nameStops rest) :
    Yields (primary tokens) Argument.unplaced tree rest := by
  match derived with
  | .number value text =>
      obtain ⟨place, rfl⟩ := begins_single_iff.mp begun
      exact ⟨.constant value text, rfl, by simp, by rw [primary]⟩
  | .reference name =>
      obtain ⟨place, rfl⟩ := begins_single_iff.mp begun
      exact ⟨.reference name place, rfl, by simp, by rw [primary, body_eq_none avoids]⟩
  | .nested derived =>
      obtain ⟨name, offset, more, rfl, declaration, shorter, read, rfl⟩ := sentence_complete derived begun
      exact ⟨.nested declaration, rfl, Nat.lt_succ_of_lt shorter, by rw [primary, read]; rfl⟩

end

end Parser

variable {tokens : Tokens Token} {values : List Token} {first second tree : Declaration}

/-- What is parsed is derived from all tokens. -/
theorem sentence_of_ofTokens {read : Declaration} (parsed : ofTokens tokens = .ok read) :
    Grammar.Sentence (tokens.items.map (·.value)) read.unplaced := by
  unfold ofTokens at parsed
  split at parsed
  · rename_i name offset rest items
    split at parsed
    · cases parsed
    · cases parsed
    · rename_i inner ran
      split at parsed
      · rename_i nothing
        cases parsed
        obtain ⟨values, begun, derived⟩ := Parser.body_sound name offset rest inner ran
        rw [nothing, begins_all_iff] at begun
        rw [items, List.map_cons, begun]
        exact derived
      · cases parsed
  · cases parsed

/-- Whatever all tokens derive is parsed. -/
theorem exists_ofTokens_of_sentence (derived : Grammar.Sentence (tokens.items.map (·.value)) tree) :
    ∃ read, ofTokens tokens = .ok read ∧ read.unplaced = tree := by
  obtain ⟨items, ends⟩ := tokens
  obtain ⟨name, offset, more, rfl, read, shorter, ran, same⟩ :=
    Parser.sentence_complete derived (begins_all_iff.mpr rfl)
  exact ⟨read, by simp only [ofTokens, ran], same⟩

/-- The grammar gives the tokens of a declaration one tree at most. -/
theorem Grammar.Sentence.only_tree (derived : Grammar.Sentence values first) (other : Grammar.Sentence values second) :
    first = second := by
  let tokens : Tokens Token := ⟨values.map (⟨·, 0⟩), 0⟩
  have same : tokens.items.map (·.value) = values := by simp [tokens, Function.comp_def]
  obtain ⟨read, parsed, rfl⟩ := exists_ofTokens_of_sentence (same.symm ▸ derived)
  obtain ⟨readToo, parsedToo, rfl⟩ := exists_ofTokens_of_sentence (same.symm ▸ other)
  rw [Except.ok.inj (parsed.symm.trans parsedToo)]

/-- The parser implements the grammar: it succeeds on the sentences of the grammar, with the only tree that
they have when offsets are put aside, and on nothing else. -/
theorem ofTokens_eq_ok_iff_sentence (tokens : Tokens Token) (tree : Declaration) :
    (ofTokens tokens).map unplaced = .ok tree ↔ Grammar.Sentence (tokens.items.map (·.value)) tree := by
  constructor
  · intro parsed
    obtain ⟨read, made, rfl⟩ := map_eq_ok.1 parsed
    exact sentence_of_ofTokens made
  · intro derived
    exact map_eq_ok.2 (exists_ofTokens_of_sentence derived)

end Declaration

end DensityGraph
