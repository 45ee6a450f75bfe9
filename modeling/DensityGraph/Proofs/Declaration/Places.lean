import DensityGraph.Proofs.Declaration.Grammar

/-!
# Where the arguments of a declaration stand

Every argument that is read, nested to any depth, is spelled by tokens that follow each other.  Its offset is
that of the first of them, unless it is a number: a number has no offset of its own.
-/

namespace DensityGraph

mutual

/-- The arguments of a declaration, each with those within it. -/
def Declaration.subarguments : Declaration → List Argument
  | .free .. => []
  | .derived _ _ dependencies _ => Argument.subargumentsAll dependencies
  | .density _ _ arguments _ => Argument.subargumentsAll arguments

/-- An argument and those within it. -/
def Argument.subarguments : Argument → List Argument
  | .reference name offset => [.reference name offset]
  | .constant value text => [.constant value text]
  | .nested declaration => .nested declaration :: declaration.subarguments
  | .conditioned density given offset => .conditioned density given offset :: density.subarguments
  | .weighted weight density offset => .weighted weight density offset :: (weight.subarguments ++ density.subarguments)

def Argument.subargumentsAll : List Argument → List Argument
  | [] => []
  | argument :: rest => argument.subarguments ++ Argument.subargumentsAll rest

end

theorem Argument.mem_subarguments (argument : Argument) : argument ∈ argument.subarguments := by
  cases argument <;> simp [subarguments]

theorem Argument.mem_subargumentsAll {arguments : List Argument} {part : Argument} :
    part ∈ subargumentsAll arguments ↔ ∃ argument ∈ arguments, part ∈ argument.subarguments := by
  induction arguments with
  | nil => simp [subargumentsAll]
  | cons first rest ih => simp [subargumentsAll, ih]

/-- A number in the place of an argument. -/
def Argument.IsLiteral (argument : Argument) : Prop := ∃ value text, argument = .constant value text

namespace Declaration

open DensityGraph.Text (Placed Tokens offsetOf Begins)

variable {values : List Token} {tokens middle rest : List (Placed Token)} {part : Argument}

theorem Grammar.Item.ne_nil {tree : Argument} (derived : Item values tree) : values ≠ [] := by
  cases derived with
  | weighted => simp
  | factor derived =>
      cases derived with
      | conditioned => simp
      | primary derived =>
          cases derived with
          | number | reference => simp
          | nested derived => cases derived <;> simp

/-- An argument has the offset at which some tokens begin, if it has one of its own. -/
def Heads (tokens : List (Placed Token)) (argument : Argument) : Prop :=
  argument.offset = offsetOf 0 tokens ∨ argument.IsLiteral

/-- An argument is spelled by one of the tokens and some behind it, and it has the offset of this token, if it has
one of its own. -/
def StandsFrom (first : Placed Token) (tokens : List (Placed Token)) (part : Argument) : Prop :=
  ∃ front more back, tokens = front ++ first :: more ++ back ∧
    Grammar.Item ((first :: more).map (·.value)) part.unplaced ∧ (part.offset = first.offset ∨ part.IsLiteral)

def StandsIn (tokens : List (Placed Token)) (part : Argument) : Prop := ∃ first, StandsFrom first tokens part

theorem StandsIn.behind (stands : StandsIn middle part) (suffix : middle <:+ tokens) : StandsIn tokens part := by
  obtain ⟨before, rfl⟩ := suffix
  obtain ⟨first, front, more, back, rfl, spelled, place⟩ := stands
  exact ⟨first, before ++ front, more, back, by simp, spelled, place⟩

theorem standsIn_of_begins (begun : Begins values tokens rest) (derived : Grammar.Item values part.unplaced)
    (heads : Heads tokens part) : StandsIn tokens part := by
  obtain ⟨span, rfl, rfl⟩ := begun
  cases span with
  | nil => exact absurd rfl derived.ne_nil
  | cons first more => exact ⟨first, [], more, rest, rfl, derived, heads⟩

theorem suffix_of_begins (begun : Begins values tokens rest) : rest <:+ tokens := by
  obtain ⟨front, rfl, _⟩ := begun
  exact List.suffix_append front rest

namespace Parser

variable {name : String} {offset : Nat} {keyword : Keyword}

theorem offset_of_freeOf {numbers : List Float} {declaration : Declaration}
    (made : freeOf name offset numbers = .ok declaration) :
    declaration.offset = offset ∧ declaration.subarguments = [] := by
  unfold freeOf at made
  split at made <;> cases made <;> exact ⟨rfl, by rw [subarguments]⟩

theorem offset_of_free {read : Parsed Declaration tokens.length} (ran : free name offset tokens = .ok read) :
    read.value.offset = offset ∧ read.value.subarguments = [] := by
  unfold free at ran
  repeat' split at ran
  all_goals cases ran
  rename_i made
  exact offset_of_freeOf made

theorem offset_of_derived {read : Parsed Declaration tokens.length} (ran : derived offset tokens = .ok read) :
    read.value.offset = offset := by
  rw [derived.eq_def] at ran
  repeat' split at ran
  all_goals cases ran
  rfl

theorem offset_of_density {read : Parsed Declaration tokens.length} (ran : density keyword offset tokens = .ok read) :
    read.value.offset = offset := by
  rw [density.eq_def] at ran
  repeat' split at ran
  all_goals cases ran
  rfl

theorem offset_of_body {read : Parsed Declaration tokens.length} (ran : body name offset tokens = .ok (some read)) :
    read.value.offset = offset := by
  rw [body.eq_def] at ran
  split at ran
  · split at ran
    · cases ran
    · rename_i inner
      cases ran
      exact (offset_of_free inner).1
  · split at ran
    · split at ran
      · cases ran
      · rename_i inner
        cases ran
        have placed := offset_of_derived inner
        exact placed
    · split at ran
      · cases ran
      · split at ran
        · cases ran
        · rename_i inner
          cases ran
          have placed := offset_of_density inner
          exact placed
  · cases ran

theorem heads_of_primary {read : Parsed Argument tokens.length} (ran : primary tokens = .ok read) :
    Heads tokens read.value := by
  rw [primary.eq_def] at ran
  split at ran
  · cases ran
    exact .inr ⟨_, _, rfl⟩
  · split at ran
    · cases ran
    · cases ran
      exact .inl rfl
    · rename_i inner
      cases ran
      exact .inl (offset_of_body inner)
  · cases ran

theorem heads_of_factor {read : Parsed Argument tokens.length} (ran : factor tokens = .ok read) :
    Heads tokens read.value := by
  rw [factor.eq_def] at ran
  split at ran
  · cases ran
  · rename_i first ranFirst
    split at ran
    · split at ran
      · cases ran
      · cases ran
        exact .inl rfl
    · cases ran
      exact heads_of_primary ranFirst

theorem heads_of_argument {read : Parsed Argument tokens.length} (ran : argument tokens = .ok read) :
    Heads tokens read.value := by
  rw [argument.eq_def] at ran
  split at ran
  · cases ran
  · rename_i first ranFirst
    split at ran
    · split at ran
      · cases ran
      · cases ran
        exact .inl rfl
    · cases ran
      exact heads_of_factor ranFirst

theorem standsIn_of_argument {read : Parsed Argument tokens.length} (ran : argument tokens = .ok read) :
    StandsIn tokens read.value := by
  obtain ⟨values, begun, derived⟩ := argument_sound tokens read ran
  exact standsIn_of_begins begun derived (heads_of_argument ran)

theorem standsIn_of_factor {read : Parsed Argument tokens.length} (ran : factor tokens = .ok read) :
    StandsIn tokens read.value := by
  obtain ⟨values, begun, derived⟩ := factor_sound tokens read ran
  exact standsIn_of_begins begun (.factor derived) (heads_of_factor ran)

theorem standsIn_of_primary {read : Parsed Argument tokens.length} (ran : primary tokens = .ok read) :
    StandsIn tokens read.value := by
  obtain ⟨values, begun, derived⟩ := primary_sound tokens read ran
  exact standsIn_of_begins begun (.factor (.primary derived)) (heads_of_primary ran)

mutual

theorem body_places (name : String) (offset : Nat) (tokens : List (Placed Token))
    {read : Parsed Declaration tokens.length} (ran : body name offset tokens = .ok (some read)) :
    ∀ part ∈ read.value.subarguments, StandsIn tokens part := by
  rw [body.eq_def] at ran
  split at ran
  · split at ran
    · cases ran
    · rename_i inner
      cases ran
      simp [Text.Parsed.replace, (offset_of_free inner).2]
  · rename_i rest
    have suffix : ∀ {colons}, rest <:+ (colons :: rest : List (Placed Token)) := List.suffix_cons ..
    split at ran
    · split at ran
      · cases ran
      · rename_i inner
        cases ran
        exact fun part member => (derived_places offset rest inner part member).behind suffix
    · split at ran
      · cases ran
      · rename_i keyword _
        split at ran
        · cases ran
        · rename_i inner
          cases ran
          exact fun part member => (density_places keyword offset rest inner part member).behind suffix
  · cases ran
termination_by 7 * tokens.length + 2

theorem derived_places (offset : Nat) (tokens : List (Placed Token)) {read : Parsed Declaration tokens.length}
    (ran : derived offset tokens = .ok read) : ∀ part ∈ read.value.subarguments, StandsIn tokens part := by
  rw [derived.eq_def] at ran
  split at ran
  · cases ran
  rename_i own ranName
  split at ran
  · cases ran
  rename_i opened ranOpened
  split at ran
  · cases ran
  rename_i formula ranFormula
  split at ran
  · cases ran
  rename_i deps ranDeps
  split at ran
  · cases ran
  cases ran
  have := own.shorter
  have := opened.shorter
  have := formula.shorter
  have suffix := suffix_of_begins ((begins_of_identifier ranName).append ((begins_of_expect ranOpened).append
    (begins_of_quoted ranFormula)))
  intro part member
  rw [Text.Parsed.replace, subarguments] at member
  exact (dependencies_places formula.rest ranDeps part member).behind suffix
termination_by 7 * tokens.length + 1
decreasing_by omega

theorem dependencies_places (tokens : List (Placed Token)) {read : Parsed (List Argument) (tokens.length + 1)}
    (ran : dependencies tokens = .ok read) : ∀ part ∈ Argument.subargumentsAll read.value, StandsIn tokens part := by
  rw [dependencies.eq_def] at ran
  split at ran
  · cases ran
    simp [Argument.subargumentsAll]
  · rename_i comma brace rest _
    split at ran
    · cases ran
    · rename_i inner
      split at ran
      · cases ran
      · cases ran
        have suffix : rest <:+ ⟨.comma, comma⟩ :: ⟨.leftBrace, brace⟩ :: rest := List.suffix_append [_, _] rest
        exact fun part member => (argumentList_places rest inner part member).behind suffix
  · rename_i comma rest _ _
    split at ran
    · cases ran
    · rename_i inner
      cases ran
      exact fun part member => (argumentList_places rest inner part member).behind (List.suffix_cons ..)
  · cases ran
    simp [Argument.subargumentsAll]
termination_by 7 * tokens.length + 0

theorem density_places (keyword : Keyword) (offset : Nat) (tokens : List (Placed Token))
    {read : Parsed Declaration tokens.length} (ran : density keyword offset tokens = .ok read) :
    ∀ part ∈ read.value.subarguments, StandsIn tokens part := by
  rw [density.eq_def] at ran
  split at ran
  · cases ran
  rename_i own ranName
  split at ran
  · cases ran
  rename_i opened ranOpened
  split at ran
  · cases ran
  rename_i inner ranInner
  split at ran
  · cases ran
  cases ran
  have := own.shorter
  have := opened.shorter
  have suffix := suffix_of_begins ((begins_of_identifier ranName).append (begins_of_expect ranOpened))
  intro part member
  rw [Text.Parsed.replace, subarguments] at member
  exact (argumentList_places opened.rest ranInner part member).behind suffix
termination_by 7 * tokens.length + 1
decreasing_by omega

theorem argumentList_places (tokens : List (Placed Token)) {read : Parsed (List Argument) tokens.length}
    (ran : argumentList tokens = .ok read) : ∀ part ∈ Argument.subargumentsAll read.value, StandsIn tokens part := by
  rw [argumentList.eq_def] at ran
  split at ran
  · cases ran
  · rename_i first ranFirst
    have := first.shorter
    obtain ⟨values, begun, _⟩ := argument_sound tokens first ranFirst
    apply argumentsTail_places (suffix_of_begins begun) _ ran
    intro part member
    simp only [Text.Parsed.replace, Argument.mem_subargumentsAll, List.mem_singleton, exists_eq_left] at member
    exact argument_places tokens ranFirst part member
termination_by 7 * tokens.length + 6
decreasing_by
  · omega
  · simp only [Text.Parsed.replace]
    omega

/-- The loop over arguments keeps those that have been read before. -/
theorem argumentsTail_places {tokens : List (Placed Token)} {bound : Nat} {before read : Parsed (List Argument) bound}
    (suffix : before.rest <:+ tokens) (stand : ∀ part ∈ Argument.subargumentsAll before.value, StandsIn tokens part)
    (ran : argumentsTail bound before = .ok read) :
    ∀ part ∈ Argument.subargumentsAll read.value, StandsIn tokens part := by
  rw [argumentsTail.eq_def] at ran
  split at ran
  · rename_i comma after shape
    have fewer : after.length < before.rest.length := by
      rw [shape, List.length_cons]
      exact Nat.lt_succ_self _
    split at ran
    · cases ran
    · rename_i next ranNext
      have := next.shorter
      obtain ⟨values, begun, _⟩ := argument_sound after next ranNext
      rw [shape] at suffix
      have suffixAfter := (List.suffix_cons _ after).trans suffix
      apply argumentsTail_places ((suffix_of_begins begun).trans suffixAfter) _ ran
      intro part member
      rw [Argument.mem_subargumentsAll] at member
      obtain ⟨argument, isArgument, member⟩ := member
      obtain old | isNext := List.mem_append.mp isArgument
      · exact stand part (Argument.mem_subargumentsAll.mpr ⟨argument, old, member⟩)
      · obtain rfl := List.mem_singleton.mp isNext
        exact (argument_places after ranNext part member).behind suffixAfter
  · cases ran
    exact stand
termination_by 7 * before.rest.length + 6
decreasing_by all_goals omega

theorem argument_places (tokens : List (Placed Token)) {read : Parsed Argument tokens.length}
    (ran : argument tokens = .ok read) : ∀ part ∈ read.value.subarguments, StandsIn tokens part := by
  have whole := standsIn_of_argument ran
  rw [argument.eq_def] at ran
  split at ran
  · cases ran
  · rename_i first ranFirst
    have inFirst := factor_places tokens ranFirst
    split at ran
    · rename_i star after shape
      have fewer : after.length < tokens.length := by
        have := first.shorter
        rw [shape, List.length_cons] at this
        omega
      split at ran
      · cases ran
      · rename_i second ranSecond
        cases ran
        obtain ⟨values, begun, _⟩ := factor_sound tokens first ranFirst
        have suffix := suffix_of_begins begun
        rw [shape] at suffix
        intro part member
        rw [Text.Parsed.replace, Argument.subarguments, List.mem_cons, List.mem_append] at member
        obtain rfl | inWeight | inDensity := member
        · exact whole
        · exact inFirst part inWeight
        · exact (factor_places after ranSecond part inDensity).behind ((List.suffix_cons _ after).trans suffix)
    · cases ran
      exact inFirst
termination_by 7 * tokens.length + 5
decreasing_by all_goals omega

theorem factor_places (tokens : List (Placed Token)) {read : Parsed Argument tokens.length}
    (ran : factor tokens = .ok read) : ∀ part ∈ read.value.subarguments, StandsIn tokens part := by
  have whole := standsIn_of_factor ran
  rw [factor.eq_def] at ran
  split at ran
  · cases ran
  · rename_i first ranFirst
    have inFirst := primary_places tokens ranFirst
    split at ran
    · split at ran
      · cases ran
      · cases ran
        intro part member
        rw [Text.Parsed.replace, Argument.subarguments, List.mem_cons] at member
        obtain rfl | inside := member
        · exact whole
        · exact inFirst part inside
    · cases ran
      exact inFirst
termination_by 7 * tokens.length + 4

theorem primary_places (tokens : List (Placed Token)) {read : Parsed Argument tokens.length}
    (ran : primary tokens = .ok read) : ∀ part ∈ read.value.subarguments, StandsIn tokens part := by
  have whole := standsIn_of_primary ran
  rw [primary.eq_def] at ran
  split at ran
  · cases ran
    simpa [Argument.subarguments] using whole
  · rename_i name offset rest
    split at ran
    · cases ran
    · cases ran
      simpa [Argument.subarguments] using whole
    · rename_i inner
      cases ran
      intro part member
      rw [Text.Parsed.replace, Argument.subarguments, List.mem_cons] at member
      obtain rfl | inside := member
      · exact whole
      · exact (body_places name offset rest inner part inside).behind (List.suffix_cons ..)
  · cases ran
termination_by 7 * tokens.length + 3

end

end Parser

/-- Every argument stands among the tokens, and not in front of all the others. -/
theorem standsIn_of_ofTokens {tokens : Tokens Token} {declaration : Declaration}
    (parsed : ofTokens tokens = .ok declaration) :
    ∃ first more, tokens.items = first :: more ∧ ∀ part ∈ declaration.subarguments, StandsIn more part := by
  unfold ofTokens at parsed
  split at parsed
  · rename_i name offset rest items
    split at parsed
    · cases parsed
    · cases parsed
    · rename_i read ran
      split at parsed
      · cases parsed
        exact ⟨_, rest, items, Parser.body_places name offset rest ran⟩
      · cases parsed
  · cases parsed

end Declaration

end DensityGraph
