import DensityGraph.Proofs.Declaration.Grammar
import DensityGraph.Proofs.Declaration.Reading

/-!
# Names that are read from a text

The lexer and the table agree on what a name is: what is read as an identifier or as a number can name a
node, and so can what a product puts together from such names.
-/

namespace DensityGraph

open DensityGraph.Formula.Lexer (beginsName continuesName)

variable {name : String} {first rest : List Char}

theorem continuesName_of_beginsName {c : Char} (begins : beginsName c = true) : continuesName c = true := by
  simp only [beginsName, continuesName, Bool.or_eq_true] at begins ⊢
  exact begins.imp_left .inl

theorem isValidName_of_isIdentifier (isName : isIdentifier name.toList = true) : isValidName name = true := by
  unfold isValidName
  split
  · rename_i none
    rw [none] at isName
    cases isName
  · rename_i first rest chars
    rw [chars] at isName
    rw [if_pos, isName]
    rw [isIdentifier, Bool.and_eq_true] at isName
    exact isName.1

theorem continuesName_of_isIdentifier (isName : isIdentifier first = true) : ∀ c ∈ first, continuesName c = true := by
  cases first with
  | nil => cases isName
  | cons c others =>
      rw [isIdentifier, Bool.and_eq_true, List.all_eq_true] at isName
      exact List.forall_mem_cons.mpr ⟨continuesName_of_beginsName isName.1, isName.2⟩

/-- An identifier goes on as an identifier. -/
theorem isIdentifier_append (isName : isIdentifier first = true) (continues : ∀ c ∈ rest, continuesName c = true) :
    isIdentifier (first ++ rest) = true := by
  cases first with
  | nil => cases isName
  | cons c others =>
      rw [isIdentifier, Bool.and_eq_true, List.all_eq_true] at isName
      rw [List.cons_append, isIdentifier, Bool.and_eq_true, List.all_eq_true]
      exact ⟨isName.1, List.forall_mem_append.mpr ⟨isName.2, continues⟩⟩

theorem continuesName_intercalate {lists : List (List Char)}
    (continues : ∀ list ∈ lists, ∀ c ∈ list, continuesName c = true) :
    ∀ c ∈ ['_'].intercalate lists, continuesName c = true := by
  induction lists with
  | nil => simp [List.intercalate]
  | cons list others ih =>
      rw [List.forall_mem_cons] at continues
      cases others with
      | nil => simpa [List.intercalate] using continues.1
      | cons next others =>
          have split : ['_'].intercalate (list :: next :: others) =
              list ++ '_' :: ['_'].intercalate (next :: others) := by
            simp [List.intercalate]
          rw [split, List.forall_mem_append, List.forall_mem_cons]
          exact ⟨continues.1, by decide, ih continues.2⟩

/-- The name of a joint is put together from identifiers, and is one itself. -/
theorem Declaration.isIdentifier_jointName {owner : String} {joint : Elaborator.Joint}
    (isOwner : isIdentifier owner.toList = true)
    (areConditionals : ∀ c ∈ joint.conditionals, isIdentifier c.toList = true)
    (isShared : isIdentifier joint.shared.toList = true) :
    isIdentifier (Elaborator.jointName owner joint).toList = true := by
  have conditionals : ∀ c ∈ (joined "_" joint.conditionals).toList, continuesName c = true := by
    rw [joined, String.toList_intercalate]
    apply continuesName_intercalate
    rintro _ member
    obtain ⟨conditional, isConditional, rfl⟩ := List.mem_map.mp member
    exact continuesName_of_isIdentifier (areConditionals conditional isConditional)
  have given : ∀ c ∈ "_given_".toList, continuesName c = true := List.all_eq_true.mp (by decide)
  rw [Elaborator.jointName, String.toList_append, String.toList_append, String.toList_append, String.toList_append]
  apply isIdentifier_append _ (continuesName_of_isIdentifier isShared)
  apply isIdentifier_append _ given
  apply isIdentifier_append _ conditionals
  exact isIdentifier_append isOwner (List.all_eq_true.mp (by decide))

mutual

/-- The names of a tree are identifiers, and its constants have texts that can name a node. -/
def Declaration.Identified : Declaration → Prop
  | .free name .. => isIdentifier name.toList = true
  | .derived name _ dependencies _ => isIdentifier name.toList = true ∧ Argument.AllIdentified dependencies
  | .density _ name arguments _ => isIdentifier name.toList = true ∧ Argument.AllIdentified arguments

def Argument.Identified : Argument → Prop
  | .reference name _ => isIdentifier name.toList = true
  | .constant _ text => isValidName text = true
  | .nested declaration => declaration.Identified
  | .conditioned density given _ => density.Identified ∧ isIdentifier given.toList = true
  | .weighted weight density _ => weight.Identified ∧ density.Identified

def Argument.AllIdentified : List Argument → Prop
  | [] => True
  | argument :: rest => argument.Identified ∧ Argument.AllIdentified rest

end

theorem Argument.allIdentified_append {before after : List Argument} (early : AllIdentified before)
    (late : AllIdentified after) : AllIdentified (before ++ after) := by
  induction before with
  | nil => exact late
  | cons argument others ih =>
      rw [AllIdentified] at early
      rw [List.cons_append, AllIdentified]
      exact ⟨early.1, ih early.2⟩

mutual

theorem Declaration.identified_of_unplaced : (declaration : Declaration) → declaration.unplaced.Identified →
    declaration.Identified
  | .free name value lower upper offset, identified => by
      rw [Declaration.unplaced, Declaration.Identified] at identified
      rwa [Declaration.Identified]
  | .derived name formula dependencies offset, identified => by
      rw [Declaration.unplaced, Declaration.Identified] at identified
      rw [Declaration.Identified]
      exact ⟨identified.1, Argument.allIdentified_of_unplaced dependencies identified.2⟩
  | .density keyword name arguments offset, identified => by
      rw [Declaration.unplaced, Declaration.Identified] at identified
      rw [Declaration.Identified]
      exact ⟨identified.1, Argument.allIdentified_of_unplaced arguments identified.2⟩

theorem Argument.identified_of_unplaced : (argument : Argument) → argument.unplaced.Identified → argument.Identified
  | .reference name offset, identified => by
      rw [Argument.unplaced, Argument.Identified] at identified
      rwa [Argument.Identified]
  | .constant value text, identified => identified
  | .nested declaration, identified => by
      rw [Argument.unplaced, Argument.Identified] at identified
      rw [Argument.Identified]
      exact declaration.identified_of_unplaced identified
  | .conditioned density given offset, identified => by
      rw [Argument.unplaced, Argument.Identified] at identified
      rw [Argument.Identified]
      exact ⟨density.identified_of_unplaced identified.1, identified.2⟩
  | .weighted weight density offset, identified => by
      rw [Argument.unplaced, Argument.Identified] at identified
      rw [Argument.Identified]
      exact ⟨weight.identified_of_unplaced identified.1, density.identified_of_unplaced identified.2⟩

theorem Argument.allIdentified_of_unplaced : (arguments : List Argument) →
    Argument.AllIdentified (Argument.unplacedAll arguments) → Argument.AllIdentified arguments
  | [], _ => trivial
  | argument :: rest, identified => by
      rw [Argument.unplacedAll, Argument.AllIdentified] at identified
      rw [Argument.AllIdentified]
      exact ⟨argument.identified_of_unplaced identified.1, Argument.allIdentified_of_unplaced rest identified.2⟩

end

namespace Declaration

/-- What is read as an identifier or a number can name a node. -/
def Token.Nameable : Token → Prop
  | .identifier name => isIdentifier name.toList = true
  | .number _ text => isValidName text = true
  | _ => True

theorem isValidName_of_isNumeral {value : Float} {text : String} (numeral : IsNumeral value text) :
    isValidName text = true := by
  obtain ⟨notNamed, read⟩ := numeral
  unfold isValidName
  split
  · rename_i none
    rw [none] at read
    cases read
  · rename_i first rest chars
    rw [if_neg fun begins => notNamed ⟨first, rest, chars, begins⟩, ← chars, read, Option.isSome_some]

theorem Token.Spelled.nameable {token : Token} {span : List Char} (spelled : token.Spelled span) : token.Nameable := by
  have clean := spelled.clean
  cases spelled with
  | identifier isName => exact isName
  | number read finite => exact isValidName_of_isNumeral clean
  | string | doubleColon => trivial
  | mark isMark => cases token <;> trivial

/-- All tokens can name nodes, those that are identifiers or numbers. -/
def AllNameable (tokens : List Token) : Prop := ∀ token ∈ tokens, token.Nameable

namespace Grammar

mutual

theorem Sentence.identified {tokens : List Token} {tree : Declaration} (derived : Sentence tokens tree)
    (nameable : AllNameable tokens) : tree.Identified := by
  match derived with
  | .value name text value | .range name lowerText upperText lower upper
  | .valueInRange name text lowerText upperText value lower upper =>
      rw [Declaration.Identified]
      exact nameable _ List.mem_cons_self
  | .derived name source spelled inside =>
      rw [Declaration.Identified]
      exact ⟨nameable (.identifier name) (by simp),
        inside.identified fun token member => nameable token (by simp [member])⟩
  | .density keyword name member spelled inside =>
      rw [Declaration.Identified]
      exact ⟨nameable (.identifier name) (by simp),
        inside.identified fun token member => nameable token (by simp [member])⟩

theorem Dependencies.identified {tokens : List Token} {trees : List Argument} (derived : Dependencies tokens trees)
    (nameable : AllNameable tokens) : Argument.AllIdentified trees := by
  match derived with
  | .none | .emptyBraces => trivial
  | .braces inside => exact inside.identified fun token member => nameable token (by simp [member])
  | .bare inside => exact inside.identified fun token member => nameable token (by simp [member])

theorem Arguments.identified {tokens : List Token} {trees : List Argument} (derived : Arguments tokens trees)
    (nameable : AllNameable tokens) : Argument.AllIdentified trees := by
  match derived with
  | .single item => exact ⟨item.identified nameable, trivial⟩
  | .more earlier last =>
      apply Argument.allIdentified_append
      · exact earlier.identified fun token member => nameable token (by simp [member])
      · exact ⟨last.identified fun token member => nameable token (by simp [member]), trivial⟩

theorem Item.identified {tokens : List Token} {tree : Argument} (derived : Item tokens tree)
    (nameable : AllNameable tokens) : tree.Identified := by
  match derived with
  | .factor inside => exact inside.identified nameable
  | .weighted first second =>
      rw [Argument.Identified]
      exact ⟨first.identified fun token member => nameable token (by simp [member]),
        second.identified fun token member => nameable token (by simp [member])⟩

theorem Factor.identified {tokens : List Token} {tree : Argument} (derived : Factor tokens tree)
    (nameable : AllNameable tokens) : tree.Identified := by
  match derived with
  | .primary inside => exact inside.identified nameable
  | .conditioned inside given =>
      rw [Argument.Identified]
      exact ⟨inside.identified fun token member => nameable token (by simp [member]),
        nameable (.identifier given) (by simp)⟩

theorem Primary.identified {tokens : List Token} {tree : Argument} (derived : Primary tokens tree)
    (nameable : AllNameable tokens) : tree.Identified := by
  match derived with
  | .number value text =>
      rw [Argument.Identified]
      exact nameable _ List.mem_cons_self
  | .reference name =>
      rw [Argument.Identified]
      exact nameable _ List.mem_cons_self
  | .nested inside =>
      rw [Argument.Identified]
      exact inside.identified nameable

end

end Grammar

/-- The names that are read from a text are identifiers and numbers. -/
theorem identified_of_parse {text : String} {declaration : Declaration} (read : parse text = .ok declaration) :
    declaration.Identified := by
  obtain ⟨tokens, tokenized, parsed⟩ := bind_eq_ok.1 read
  obtain ⟨items, ran, rfl⟩ := map_eq_ok.1 tokenized
  apply declaration.identified_of_unplaced
  apply (sentence_of_ofTokens parsed).identified
  intro token member
  obtain ⟨placed, isItem, rfl⟩ := List.mem_map.mp member
  obtain ⟨_, _, _, _, _, spelled, _⟩ := (Lexer.layout_of_run ran).spells isItem
  exact spelled.nameable

end Declaration

end DensityGraph
