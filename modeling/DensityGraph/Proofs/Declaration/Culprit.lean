import DensityGraph.Proofs.Declaration.Form
import DensityGraph.Proofs.Declaration.Lexemes
import DensityGraph.Proofs.Declaration.Places
import DensityGraph.Proofs.Declaration.Truncated

/-!
# The place of an error in a declaration

Errors are found by three stages: some characters are no tokens, some tokens cannot be read on, and some
arguments stand where they may not.  Each error gives the byte offset at which the character, the token or the
argument begins, but for an argument that is a number.
-/

namespace DensityGraph

namespace Declaration

open DensityGraph.Formula.Lexer (beginsName)
open DensityGraph.Text (Placed Tokens byteLength byteLength_append byteLength_toList isBlank)

variable {text front rest : List Char} {c : Char} {offset : Nat} {e : Error} {token : Token}

/-- A character with which no lexeme begins. -/
structure Lexer.Stray (c : Char) : Prop where
  visible : isBlank c = false
  unmarked : punctuation? c = none
  noColon : c ≠ ':'
  noQuote : ¬ (c = '\'' ∨ c = '"')
  noNumber : beginsNumber c = false
  noName : beginsName c = false

/-- What is wrong with the lexeme that begins with a character. -/
inductive Lexer.Refuses : Char → List Char → Nat → Error → Prop where
  | stray {c : Char} {rest : List Char} {offset : Nat} (stray : Stray c) :
      Refuses c rest offset (.unexpectedCharacter c offset)
  | colonAtEnd {offset : Nat} : Refuses ':' [] offset (.unexpectedEnd .colon)
  | loneColon {next : Char} {rest : List Char} {offset : Nat} (other : next ≠ ':') :
      Refuses ':' (next :: rest) offset (.unexpectedCharacter next (offset + 1))
  | unterminated {quote : Char} {rest : List Char} {offset : Nat} (isQuote : quote = '\'' ∨ quote = '"')
      (unclosed : quote ∉ rest) : Refuses quote rest offset (.unterminatedString offset)
  | number {c : Char} {rest : List Char} {offset : Nat} (begins : beginsNumber c = true)
      (unread : Decimal.readFinite? (c :: numberTail c rest) = none) :
      Refuses c rest offset (.invalidNumber (String.ofList (c :: numberTail c rest)) offset)

theorem Lexer.length_takeWhile_lt (member : c ∈ rest) : (rest.takeWhile (· != c)).length < rest.length := by
  have isPrefix : rest.takeWhile (· != c) <+: rest := List.takeWhile_prefix _
  refine Nat.lt_of_le_of_ne isPrefix.length_le fun same => ?_
  rw [← isPrefix.eq_of_length same] at member
  simpa using List.all_eq_true.mp List.all_takeWhile c member

theorem Lexer.refuses_of_lexeme (failed : lexeme offset c rest = .error e) : Refuses c rest offset e := by
  unfold lexeme at failed
  split at failed
  · cases failed
  rename_i visible
  split at failed
  · cases failed
  rename_i unmarked
  split at failed
  · rename_i isColon
    subst isColon
    split at failed
    · cases failed
      exact .colonAtEnd
    · split at failed
      · cases failed
      · rename_i other
        cases failed
        exact .loneColon other
  rename_i noColon
  split at failed
  · rename_i isQuote
    rw [Bool.or_eq_true, decide_eq_true_eq, decide_eq_true_eq] at isQuote
    dsimp only at failed
    split at failed
    · cases failed
    · rename_i unclosed
      cases failed
      exact .unterminated isQuote fun member => unclosed (length_takeWhile_lt member)
  rename_i noQuote
  rw [Bool.or_eq_true, decide_eq_true_eq, decide_eq_true_eq] at noQuote
  split at failed
  · rename_i begins
    dsimp only at failed
    split at failed
    · cases failed
    · rename_i unread
      cases failed
      exact .number begins unread
  rename_i noNumber
  split at failed
  · cases failed
  · rename_i noName
    cases failed
    exact .stray ⟨by simpa using visible, unmarked, noColon, noQuote, by simpa using noNumber, by simpa using noName⟩

theorem Token.EndsBefore.of_append {back : List Char} (ends : token.EndsBefore (front ++ back)) :
    token.EndsBefore front := by
  intro name isName next first
  apply ends name isName
  cases front with
  | nil => cases first
  | cons _ _ => exact first

/-- In front of the lexeme that is refused there are blanks and tokens. -/
theorem Lexer.run_eq_error (failed : run offset text = .error e) :
    ∃ front c rest items, text = front ++ c :: rest ∧ Layout offset front items ∧
      Refuses c rest (offset + byteLength front) e := by
  induction offset, text using run.induct with
  | case1 offset =>
      unfold run at failed
      cases failed
  | case2 offset c rest e' found =>
      unfold run at failed
      simp only [found] at failed
      cases failed
      exact ⟨[], c, rest, [], rfl, .nil offset, refuses_of_lexeme found⟩
  | case3 offset c rest token? more found e' later ih =>
      unfold run at failed
      simp only [found, later] at failed
      cases failed
      obtain ⟨front, culprit, behind, items, split, laid, refused⟩ := ih later
      have whole : c :: rest = (c :: rest.take more) ++ front ++ culprit :: behind := by
        rw [List.append_assoc, ← split, List.cons_append, List.take_append_drop]
      have place : offset + byteLength (c :: rest.take more ++ front) =
          offset + byteLength (c :: rest.take more) + byteLength front := by
        rw [byteLength_append, Nat.add_assoc]
      rw [← place] at refused
      obtain ⟨rfl, rfl, blank⟩ | ⟨token, rfl, spelled, ends⟩ := lexeme_eq_ok found
      · exact ⟨c :: front, culprit, behind, items, whole, .blank blank laid, refused⟩
      · rw [split] at ends
        exact ⟨_, culprit, behind, _, whole, .token spelled ends.of_append laid, refused⟩
  | case4 offset c rest token? more found later ran ih =>
      unfold run at failed
      simp only [found, ran] at failed
      cases failed

variable {parts fewer : List Argument} {first? later? : Option Fault}

/-- The argument that a fault is about is one of those given, which stands where it may not, and a number only if it
is a branch that lacks a weight. -/
def Fault.About (parts : List Argument) : Fault → Prop
  | misplaced reason part =>
    (part ∈ parts ∧ reason.misplaces = true) ∧ (part.IsLiteral → ∃ owner, reason = .unweightedBranch owner)
  | arity .. => True

/-- If there is a fault, it is about one of the arguments. -/
def AllAbout (parts : List Argument) (fault? : Option Fault) : Prop := ∀ fault ∈ fault?, fault.About parts

theorem allAbout_none : AllAbout parts none := by
  rintro _ ⟨⟩

theorem allAbout_some {fault : Fault} (about : fault.About parts) : AllAbout parts (some fault) := by
  rintro _ ⟨⟩
  exact about

theorem AllAbout.mono (about : AllAbout fewer first?) (subset : fewer ⊆ parts) : AllAbout parts first? := by
  intro fault found
  have aboutFewer := about fault found
  cases fault with
  | misplaced reason part => exact ⟨⟨subset aboutFewer.1.1, aboutFewer.1.2⟩, aboutFewer.2⟩
  | arity => trivial

theorem AllAbout.or (first : AllAbout parts first?) (later : AllAbout parts later?) :
    AllAbout parts (first?.or later?) := by
  intro fault found
  obtain found | ⟨_, found⟩ := Option.or_eq_some_iff.mp found
  · exact first fault found
  · exact later fault found

theorem not_isLiteral_weighted {weight density : Argument} {offset : Nat} :
    ¬ (Argument.weighted weight density offset).IsLiteral := by
  rintro ⟨_, _, ⟨⟩⟩

theorem not_isLiteral_conditioned {density : Argument} {given : String} {offset : Nat} :
    ¬ (Argument.conditioned density given offset).IsLiteral := by
  rintro ⟨_, _, ⟨⟩⟩

mutual

theorem about_fault : (declaration : Declaration) → AllAbout declaration.subarguments declaration.fault?
  | .free .. => by
      rw [fault?]
      exact allAbout_none
  | .derived _ _ dependencies _ => by
      rw [fault?, subarguments]
      exact about_parametersFault dependencies
  | .density keyword name arguments _ => by
      rw [fault?.eq_def, subarguments]
      dsimp only
      split
      · cases keyword with
        | gaussian | uniform => exact about_parametersFault arguments
        | mixture => exact about_branchesFault name arguments
        | product => exact about_factorsFault arguments
      · exact allAbout_some trivial

theorem about_parameterFault : (argument : Argument) → AllAbout argument.subarguments argument.parameterFault?
  | .reference .. | .constant .. => by
      rw [Argument.parameterFault?]
      exact allAbout_none
  | .nested declaration => by
      rw [Argument.parameterFault?, Argument.subarguments]
      exact (about_fault declaration).mono (List.subset_cons_self ..)
  | .conditioned .. => by
      rw [Argument.parameterFault?]
      exact allAbout_some ⟨⟨Argument.mem_subarguments _, rfl⟩, fun literal => absurd literal not_isLiteral_conditioned⟩
  | .weighted .. => by
      rw [Argument.parameterFault?]
      exact allAbout_some ⟨⟨Argument.mem_subarguments _, rfl⟩, fun literal => absurd literal not_isLiteral_weighted⟩

theorem about_parametersFault : (arguments : List Argument) →
    AllAbout (Argument.subargumentsAll arguments) (Argument.parametersFault? arguments)
  | [] => by
      rw [Argument.parametersFault?]
      exact allAbout_none
  | argument :: rest => by
      rw [Argument.parametersFault?, Argument.subargumentsAll]
      exact ((about_parameterFault argument).mono (List.subset_append_left ..)).or
        ((about_parametersFault rest).mono (List.subset_append_right ..))

theorem about_densityFault : (argument : Argument) → AllAbout argument.subarguments argument.densityFault?
  | .reference .. | .constant .. => by
      rw [Argument.densityFault?]
      exact allAbout_none
  | .nested declaration => by
      rw [Argument.densityFault?, Argument.subarguments]
      exact (about_fault declaration).mono (List.subset_cons_self ..)
  | .conditioned .. => by
      rw [Argument.densityFault?]
      exact allAbout_some ⟨⟨Argument.mem_subarguments _, rfl⟩, fun literal => absurd literal not_isLiteral_conditioned⟩
  | .weighted .. => by
      rw [Argument.densityFault?]
      exact allAbout_some ⟨⟨Argument.mem_subarguments _, rfl⟩, fun literal => absurd literal not_isLiteral_weighted⟩

theorem about_branchesFault (owner : String) : (arguments : List Argument) →
    AllAbout (Argument.subargumentsAll arguments) (Argument.branchesFault? owner arguments)
  | [] => by
      rw [Argument.branchesFault?]
      exact allAbout_some trivial
  | [remainder] => by
      have inside := about_densityFault remainder
      rw [Argument.subargumentsAll, Argument.subargumentsAll, List.append_nil]
      cases remainder with
      | weighted weight part offset =>
          rw [Argument.branchesFault?]
          exact allAbout_some ⟨⟨Argument.mem_subarguments _, rfl⟩, fun literal => absurd literal not_isLiteral_weighted⟩
      | _ => simpa only [Argument.branchesFault?] using inside
  | argument :: second :: rest => by
      rw [Argument.subargumentsAll]
      have head : argument.subarguments ⊆ argument.subarguments ++ Argument.subargumentsAll (second :: rest) :=
        List.subset_append_left ..
      cases argument with
      | weighted weight part offset =>
          have faults : Argument.branchesFault? owner (.weighted weight part offset :: second :: rest) =
              weight.parameterFault?.or (part.densityFault?.or (Argument.branchesFault? owner (second :: rest))) := by
            simp [Argument.branchesFault?]
          rw [faults]
          have whole : weight.subarguments ++ part.subarguments ⊆
              (Argument.weighted weight part offset).subarguments := by
            rw [Argument.subarguments]
            exact List.subset_cons_self ..
          have within := List.Subset.trans whole head
          exact ((about_parameterFault weight).mono (List.Subset.trans (List.subset_append_left ..) within)).or
            (((about_densityFault part).mono (List.Subset.trans (List.subset_append_right ..) within)).or
              ((about_branchesFault owner (second :: rest)).mono (List.subset_append_right ..)))
      | _ =>
          simp only [Argument.branchesFault?]
          exact allAbout_some ⟨⟨head (Argument.mem_subarguments _), rfl⟩, fun _ => ⟨owner, rfl⟩⟩

theorem about_factorsFault : (arguments : List Argument) →
    AllAbout (Argument.subargumentsAll arguments) (Argument.factorsFault? arguments)
  | [] => by
      rw [Argument.factorsFault?]
      exact allAbout_none
  | argument :: rest => by
      have inside := about_densityFault argument
      have others : AllAbout (Argument.subargumentsAll (argument :: rest)) (Argument.factorsFault? rest) := by
        rw [Argument.subargumentsAll]
        exact (about_factorsFault rest).mono (List.subset_append_right ..)
      rw [Argument.subargumentsAll] at others ⊢
      cases argument with
      | conditioned part given offset =>
          rw [Argument.factorsFault?]
          have whole : part.subarguments ⊆ (Argument.conditioned part given offset).subarguments := by
            rw [Argument.subarguments]
            exact List.subset_cons_self ..
          exact ((about_densityFault part).mono (List.Subset.trans whole (List.subset_append_left ..))).or others
      | _ =>
          simp only [Argument.factorsFault?]
          exact (inside.mono (List.subset_append_left ..)).or others

end

/-- A token begins at its offset in a text. -/
def SpelledIn (text : String) (placed : Placed Token) : Prop :=
  ∃ front span back, text.toList = front ++ span ++ back ∧ byteLength front = placed.offset ∧ placed.value.Spelled span

/-- An error gives the offset of what it is about.  What stands in front of a character or a token that cannot be
read on has no fault, and an argument is the first that stands where it may not. -/
inductive Located (text : String) : Error → Prop where
  | character {front rest : List Char} {c : Char} {items : List (Placed Token)} {e : Error}
      (split : text.toList = front ++ c :: rest) (laid : Lexer.Layout 0 front items)
      (refused : Lexer.Refuses c rest (byteLength front) e) : Located text e
  | token {before after : List (Placed Token)} {ends offset : Nat} {found : Token} {expected : Expected}
      (tokenized : tokenize text = .ok ⟨before ++ ⟨found, offset⟩ :: after, ends⟩)
      (spelled : SpelledIn text ⟨found, offset⟩) (awaits : Awaits before expected) :
      Located text (.unexpectedToken found expected offset)
  | keyword {before after : List (Placed Token)} {ends offset colons : Nat} {name : String} {expected : Expected}
      (tokenized : tokenize text = .ok ⟨before ++ ⟨.identifier name, offset⟩ :: ⟨.doubleColon, colons⟩ :: after, ends⟩)
      (spelled : SpelledIn text ⟨.identifier name, offset⟩) (awaits : Awaits before expected)
      (notFormula : Parser.isFormulaKeyword name = false) (unknown : Keyword.ofText? name = none) :
      Located text (.unknownKeyword name offset)
  | argument {head first : Placed Token} {others : List (Placed Token)} {ends : Nat} {declaration : Declaration}
      {reason : Reason} {part : Argument} (tokenized : tokenize text = .ok ⟨head :: others, ends⟩)
      (parsed : ofTokens ⟨head :: others, ends⟩ = .ok declaration)
      (found : declaration.fault? = some (.misplaced reason part)) (stands : StandsFrom first others part)
      (spelled : SpelledIn text first) : Located text (.malformed reason first.offset)

/-- The first argument that stands where it may not is a number. -/
def BlamesLiteral (text : String) : Prop :=
  ∃ declaration reason part, parse text = .ok declaration ∧ declaration.fault? = some (.misplaced reason part) ∧
    part.IsLiteral

/-- The reason of a fault and the number that it is about, if it is about a number. -/
def Fault.literal? : Fault → Option (Reason × Float × String)
  | misplaced reason (.constant value text) => some (reason, value, text)
  | _ => none

theorem Fault.literal?_eq_some {fault : Fault} {reason : Reason} {value : Float} {text : String} :
    fault.literal? = some (reason, value, text) ↔ fault = .misplaced reason (.constant value text) := by
  constructor
  · intro literal
    unfold literal? at literal
    split at literal <;> cases literal
    rfl
  · rintro rfl
    rfl

theorem layout_of_tokenize {source : String} {tokens : Tokens Token} (tokenized : tokenize source = .ok tokens) :
    Lexer.Layout 0 source.toList tokens.items := by
  obtain ⟨items, ran, rfl⟩ := map_eq_ok.1 tokenized
  exact Lexer.layout_of_run ran

theorem spelledIn_of_tokenize {source : String} {tokens : Tokens Token} {placed : Placed Token}
    (tokenized : tokenize source = .ok tokens) (member : placed ∈ tokens.items) : SpelledIn source placed := by
  obtain ⟨front, span, back, split, place, spelled, _⟩ := (layout_of_tokenize tokenized).spells member
  rw [Nat.zero_add] at place
  exact ⟨front, span, back, split, place, spelled⟩

/-- Only the first token begins a text. -/
theorem offset_pos_of_mem {source : String} {head placed : Placed Token} {others : List (Placed Token)} {ends : Nat}
    (tokenized : tokenize source = .ok ⟨head :: others, ends⟩) (member : placed ∈ others) : 0 < placed.offset := by
  have laid := layout_of_tokenize tokenized
  have inOrder := (List.pairwise_cons.mp laid.inOrder).1 placed member
  have wide := (laid.inside List.mem_cons_self).2.1
  unfold Precedes at inOrder
  omega

theorem StandsFrom.mem {first : Placed Token} {tokens : List (Placed Token)} {part : Argument}
    (stands : StandsFrom first tokens part) : first ∈ tokens := by
  obtain ⟨front, more, back, rfl, _⟩ := stands
  simp

variable {source : String}

theorem located_of_tokenize (failed : tokenize source = .error e) : Located source e := by
  obtain ⟨front, c, rest, items, split, laid, refused⟩ := Lexer.run_eq_error (map_eq_error.1 failed)
  rw [Nat.zero_add] at refused
  exact .character split laid refused

theorem located_of_ofTokens {tokens : Tokens Token} (tokenized : tokenize source = .ok tokens)
    (failed : ofTokens tokens = .error e) (pointed : e.pointed = true) : Located source e := by
  obtain ⟨items, ends⟩ := tokens
  obtain ⟨before, rest, expected, rfl, awaits, blames⟩ := ofTokens_stuck failed (Error.blamesName_of_pointed pointed)
  unfold Parser.Blames at blames
  split at blames
  · obtain ⟨rfl, rfl⟩ := blames
    exact .token tokenized (spelledIn_of_tokenize tokenized (by simp)) awaits
  · cases pointed
  · rename_i culprit next after
    obtain ⟨rfl, isColons, notFormula, unknown⟩ := blames
    obtain ⟨value, colons⟩ := next
    obtain rfl : value = .doubleColon := isColons
    exact .keyword tokenized (spelledIn_of_tokenize tokenized (by simp)) awaits notFormula unknown
  · exact blames.elim

/-- An argument that is no number is located, and a number would be anywhere but at the front of the text. -/
theorem located_of_fault {declaration : Declaration} {reason : Reason} {part : Argument}
    (parsed : parse source = .ok declaration) (found : declaration.fault? = some (.misplaced reason part)) :
    ∃ place, 0 < place ∧ Located source (.malformed reason place) ∧ (part.offset = place ∨ part.IsLiteral) := by
  obtain ⟨⟨items, ends⟩, tokenized, read⟩ := bind_eq_ok.1 parsed
  obtain ⟨head, others, rfl, stand⟩ := standsIn_of_ofTokens read
  obtain ⟨first, stands⟩ := stand part (about_fault declaration _ found).1.1
  have behind := stands.mem
  have spelled := spelledIn_of_tokenize tokenized (List.mem_cons_of_mem head behind)
  have located := Located.argument tokenized read found stands spelled
  obtain ⟨_, _, _, _, _, place⟩ := stands
  exact ⟨first.offset, offset_pos_of_mem tokenized behind, located, place⟩

/-- No argument is located at the front of a text. -/
theorem not_located_front {reason : Reason} : ¬ Located source (.malformed reason 0) := by
  intro located
  generalize same : Error.malformed reason 0 = e at located
  cases located with
  | character _ _ refused => cases refused <;> cases same
  | token => cases same
  | keyword => cases same
  | argument tokenized _ _ stands =>
      have positive := offset_pos_of_mem tokenized stands.mem
      obtain ⟨_, front⟩ := Error.malformed.inj same
      omega

end Declaration

namespace Table

open Declaration

variable {table : Table} {source : String} {e : Declaration.Error}

/-- An error that gives an offset is located, unless it is about an argument that is a number: such an argument
is given the offset zero, though it does not stand there. -/
theorem declare_located (failed : table.declare source = .error (.declaration e)) (pointed : e.pointed = true) :
    (Located source e ↔ ¬ BlamesLiteral source) ∧
      (BlamesLiteral source → ∃ owner place, e = .malformed (.unweightedBranch owner) 0 ∧ 0 < place ∧
        Located source (.malformed (.unweightedBranch owner) place)) := by
  have malformed := malformation_of_declare failed
  unfold malformation? at malformed
  split at malformed
  · rename_i unread parseFailed
    obtain rfl := Option.some.inj malformed
    have located : Located source unread := by
      obtain lexFailed | ⟨tokens, tokenized, readFailed⟩ := bind_eq_error.1 parseFailed
      · exact located_of_tokenize lexFailed
      · exact located_of_ofTokens tokenized readFailed pointed
    have sound : ¬ BlamesLiteral source := by
      rintro ⟨declaration, _, _, parsed, _⟩
      cases parseFailed.symm.trans parsed
    exact ⟨iff_of_true located sound, fun blames => absurd blames sound⟩
  · rename_i declaration parsed
    obtain ⟨fault, found, rfl⟩ := Option.map_eq_some_iff.mp malformed
    cases fault with
    | arity => cases pointed
    | misplaced reason part =>
        obtain ⟨place, positive, located, own⟩ := located_of_fault parsed found
        have blames : BlamesLiteral source ↔ part.IsLiteral := by
          constructor
          · rintro ⟨otherDeclaration, otherReason, otherPart, parsedToo, foundToo, literal⟩
            obtain rfl := Except.ok.inj (parsed.symm.trans parsedToo)
            obtain ⟨_, rfl⟩ := Fault.misplaced.inj (Option.some.inj (found.symm.trans foundToo))
            exact literal
          · exact fun literal => ⟨declaration, reason, part, parsed, found, literal⟩
        rw [blames]
        by_cases literal : part.IsLiteral
        · obtain ⟨owner, rfl⟩ := (about_fault declaration _ found).2 literal
          obtain ⟨value, text, rfl⟩ := literal
          exact ⟨iff_of_false not_located_front (not_not_intro ⟨value, text, rfl⟩),
            fun _ => ⟨owner, place, rfl, positive, located⟩⟩
        · obtain rfl := own.resolve_right literal
          exact ⟨iff_of_true located literal, fun isLiteral => absurd isLiteral literal⟩

/-- A name in the place of a weighted branch is located where it begins. -/
theorem declare_located_name :
    empty.declare "SUM::m(w,Uniform::u(x[0,1]))" = .error (.declaration (.malformed (.unweightedBranch "m") 7)) ∧
      Located "SUM::m(w,Uniform::u(x[0,1]))" (.malformed (.unweightedBranch "m") 7) := by
  have refused : (empty.declare "SUM::m(w,Uniform::u(x[0,1]))").map (fun _ => ()) =
      .error (.declaration (.malformed (.unweightedBranch "m") 7)) := by decide +kernel
  have failed := map_eq_error.1 refused
  obtain ⟨located, literal⟩ := declare_located failed rfl
  refine ⟨failed, located.mpr fun blames => ?_⟩
  obtain ⟨_, _, same, _⟩ := literal blames
  cases same

/-- A number in the place of a weighted branch is given the offset of the text, and not its own. -/
theorem not_located_number :
    empty.declare "SUM::m(1,Uniform::u(x[0,1]))" = .error (.declaration (.malformed (.unweightedBranch "m") 0)) ∧
      ¬ Located "SUM::m(1,Uniform::u(x[0,1]))" (.malformed (.unweightedBranch "m") 0) ∧
      Located "SUM::m(1,Uniform::u(x[0,1]))" (.malformed (.unweightedBranch "m") 7) := by
  have refused : (empty.declare "SUM::m(1,Uniform::u(x[0,1]))").map (fun _ => ()) =
      .error (.declaration (.malformed (.unweightedBranch "m") 0)) := by decide +kernel
  refine ⟨map_eq_error.1 refused, not_located_front, ?_⟩
  let behind : List (Text.Placed Token) := [⟨.doubleColon, 3⟩, ⟨.identifier "m", 5⟩, ⟨.leftParen, 6⟩,
    ⟨.number 1 "1", 7⟩, ⟨.comma, 8⟩, ⟨.identifier "Uniform", 9⟩, ⟨.doubleColon, 16⟩, ⟨.identifier "u", 18⟩,
    ⟨.leftParen, 19⟩, ⟨.identifier "x", 20⟩, ⟨.leftBracket, 21⟩, ⟨.number 0 "0", 22⟩, ⟨.comma, 23⟩, ⟨.number 1 "1", 24⟩,
    ⟨.rightBracket, 25⟩, ⟨.rightParen, 26⟩, ⟨.rightParen, 27⟩]
  have tokenized : tokenize "SUM::m(1,Uniform::u(x[0,1]))" = .ok ⟨⟨.identifier "SUM", 0⟩ :: behind, 28⟩ := by
    decide +kernel
  obtain ⟨declaration, parsed, literal⟩ := @exists_ok_of_any _ _ (ofTokens ⟨⟨.identifier "SUM", 0⟩ :: behind, 28⟩)
    (fun declaration => decide (declaration.fault?.bind Fault.literal? = some (.unweightedBranch "m", 1, "1")))
    (by decide +kernel)
  obtain ⟨fault, found, about⟩ := Option.bind_eq_some_iff.mp (of_decide_eq_true literal)
  rw [Fault.literal?_eq_some.mp about] at found
  have stands : StandsFrom ⟨.number 1 "1", 7⟩ behind (.constant 1 "1") :=
    ⟨behind.take 3, [], behind.drop 4, rfl, .factor (.primary (.number 1 "1")), .inr ⟨1, "1", rfl⟩⟩
  exact .argument tokenized parsed found stands
    (spelledIn_of_tokenize tokenized (List.mem_cons_of_mem _ stands.mem))

end Table

end DensityGraph
