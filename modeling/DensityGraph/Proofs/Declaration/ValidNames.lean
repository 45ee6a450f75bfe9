import DensityGraph.Proofs.Declaration.Culprit

/-!
# No text makes an invalid name

A table refuses a node whose name is not valid, but no text leads it to do so.  The
lexer reads identifiers and numbers that are valid names as they are written, and a
product puts the names of its joints together from identifiers.  An error about a
name is not found by any of the other stages either: the reader blames a name for
what follows it, and the form of a tree is at fault for an argument in a wrong place.
-/

namespace DensityGraph

namespace Declaration

variable {text : String} {reason : Reason} {offset : Nat}

/-- The lexer finds nothing malformed. -/
theorem not_malformed_of_tokenize : tokenize text ≠ .error (.malformed reason offset) := by
  intro failed
  obtain ⟨_, _, _, _, _, _, refused⟩ := Lexer.run_eq_error (map_eq_error.1 failed)
  cases refused

/-- The reader finds a text malformed only for a name and what follows it. -/
theorem blamesName_of_ofTokens {tokens : Text.Tokens Token}
    (failed : ofTokens tokens = .error (.malformed reason offset)) : reason.blamesName = true := by
  by_contra other
  rw [Bool.not_eq_true] at other
  obtain ⟨items, ends⟩ := tokens
  obtain ⟨_, _, _, _, _, blames⟩ := ofTokens_stuck failed other
  exact blames

theorem misplaces_of_fault {declaration : Declaration} {part : Argument}
    (found : declaration.fault? = some (.misplaced reason part)) : reason.misplaces = true :=
  (about_fault declaration _ found).1.2

/-- A text is malformed for a name and what follows it, or for an argument that stands where it may not. -/
theorem reason_of_malformation (malformed : malformation? text = some (.malformed reason offset)) :
    reason.blamesName = true ∨ reason.misplaces = true := by
  unfold malformation? at malformed
  split at malformed
  · rename_i unread failed
    obtain rfl := Option.some.inj malformed
    obtain lexFailed | ⟨tokens, _, readFailed⟩ := bind_eq_error.1 failed
    · exact absurd lexFailed not_malformed_of_tokenize
    · exact .inl (blamesName_of_ofTokens readFailed)
  · rename_i declaration _
    obtain ⟨fault, found, same⟩ := Option.map_eq_some_iff.mp malformed
    cases fault with
    | arity keyword count => cases same
    | misplaced why part =>
        obtain ⟨rfl, _⟩ := Error.malformed.inj same
        exact .inr (misplaces_of_fault found)

/-- The name that a token may give to a node. -/
def Token.name? : Token → Option String
  | identifier name => some name
  | number _ text => some text
  | _ => none

/-- An identifier or a number is named as it is written, and can be a name. -/
theorem valid_of_lexeme {c : Char} {rest : List Char} {token : Token} {more : Nat} {name : String}
    (read : Lexer.lexeme offset c rest = .ok (some token, more)) (named : token.name? = some name) :
    name = String.ofList (c :: rest.take more) ∧ isValidName name = true := by
  obtain ⟨impossible, _⟩ | ⟨_, same, spelled, _⟩ := Lexer.lexeme_eq_ok read
  · cases impossible
  obtain rfl := Option.some.inj same
  have nameable := spelled.nameable
  generalize c :: rest.take more = span at spelled
  cases spelled with
  | identifier isName =>
      obtain rfl := Option.some.inj named
      exact ⟨String.ofList_toList.symm, isValidName_of_isIdentifier isName⟩
  | number numeral finite =>
      obtain rfl := Option.some.inj named
      exact ⟨String.ofList_toList.symm, nameable⟩
  | string | doubleColon => cases named
  | mark isMark => cases token <;> cases isMark <;> cases named

/-- A declaration is a tree or nested in it. -/
def IsWithin (part tree : Declaration) : Prop := part = tree ∨ .nested part ∈ tree.subarguments

mutual

theorem Identified.of_mem_subarguments : (tree : Declaration) → tree.Identified →
    ∀ part ∈ tree.subarguments, part.Identified
  | .free .., _ => by simp [subarguments]
  | .derived name source dependencies offset, identified => by
      rw [Identified] at identified
      rw [subarguments]
      exact allIdentified_of_mem_subarguments dependencies identified.2
  | .density keyword name arguments offset, identified => by
      rw [Identified] at identified
      rw [subarguments]
      exact allIdentified_of_mem_subarguments arguments identified.2

theorem identified_of_mem_subarguments : (argument : Argument) → argument.Identified →
    ∀ part ∈ argument.subarguments, part.Identified
  | .reference .., identified | .constant .., identified => by
      simpa [Argument.subarguments] using identified
  | .nested declaration, identified => by
      rw [Argument.subarguments, List.forall_mem_cons]
      rw [Argument.Identified] at identified
      exact ⟨by rwa [Argument.Identified], Identified.of_mem_subarguments declaration identified⟩
  | .conditioned inner given offset, identified => by
      rw [Argument.subarguments, List.forall_mem_cons]
      refine ⟨identified, ?_⟩
      rw [Argument.Identified] at identified
      exact identified_of_mem_subarguments inner identified.1
  | .weighted weight inner offset, identified => by
      rw [Argument.subarguments, List.forall_mem_cons, List.forall_mem_append]
      refine ⟨identified, ?_⟩
      rw [Argument.Identified] at identified
      exact ⟨identified_of_mem_subarguments weight identified.1, identified_of_mem_subarguments inner identified.2⟩

theorem allIdentified_of_mem_subarguments : (arguments : List Argument) → Argument.AllIdentified arguments →
    ∀ part ∈ Argument.subargumentsAll arguments, part.Identified
  | [], _ => by simp [Argument.subargumentsAll]
  | argument :: rest, identified => by
      rw [Argument.AllIdentified] at identified
      rw [Argument.subargumentsAll, List.forall_mem_append]
      exact ⟨identified_of_mem_subarguments argument identified.1, allIdentified_of_mem_subarguments rest identified.2⟩

end

theorem Identified.within {part tree : Declaration} (identified : tree.Identified) (within : part.IsWithin tree) :
    part.Identified := by
  obtain rfl | nested := within
  · exact identified
  · have inside := Identified.of_mem_subarguments tree identified _ nested
    rwa [Argument.Identified] at inside

open Elaborator in
/-- The names that a product puts together for its joints, if its factors can be added
to a table.  (A product that is nothing but one joint gives it its own name instead.) -/
def jointNames (table : Table) : Declaration → List String
  | .density .product owner factors _ =>
    match (elaborateFactors isCircular [] [] factors).run table with
    | .error _ => []
    | .ok ((plain, groups), added) =>
      match pair added owner plain groups with
      | .error _ => []
      | .ok (joints, _) => joints.map (jointName owner)
  | _ => []

/-- The joints of a product are named by identifiers, since its own name, those of the
conditionals and those that they are conditioned on are identifiers. -/
theorem valid_of_mem_jointNames {product : Declaration} (identified : product.Identified) {table : Table}
    {name : String} (member : name ∈ product.jointNames table) : isValidName name = true := by
  unfold jointNames at member
  split at member
  case h_2 => cases member
  case h_1 owner factors offset =>
    rw [Identified] at identified
    obtain ⟨isOwner, areFactors⟩ := identified
    split at member
    case h_1 => cases member
    case h_2 plain groups added ran =>
      split at member
      case h_1 => cases member
      case h_2 joints left paired =>
        have grouped : GroupsIdentified groups :=
          ((reports_elaborateFactors factors areFactors (by simp [GroupsIdentified, groupNames])).succeeds ran).2
        obtain ⟨joint, isJoint, rfl⟩ := List.mem_map.mp member
        have group : (joint.shared, joint.conditionals) ∈ groups := by
          rw [← (pair_splits paired).1]
          exact List.mem_map_of_mem isJoint
        have named : ∀ other ∈ joint.shared :: joint.conditionals, isIdentifier other.toList = true :=
          fun other isOther => grouped other (List.mem_flatMap.mpr ⟨_, group, isOther⟩)
        rw [List.forall_mem_cons] at named
        exact isValidName_of_isIdentifier (isIdentifier_jointName isOwner named.2 named.1)

end Declaration

namespace Table

open Declaration

/-- No declaration is refused for a name that is not valid, whatever the text and the
table: all identifiers and numbers that are read are valid names as they are written,
and so are the names that products put together, wherever they stand in the text and
whatever is declared before them. -/
theorem names_valid (text : String) :
    (∀ (table : Table) name offset,
      table.declare text ≠ .error (.declaration (.malformed (.invalidName name) offset))) ∧
    (∀ offset c rest token more name, Lexer.lexeme offset c rest = .ok (some token, more) →
      token.name? = some name → name = String.ofList (c :: rest.take more) ∧ isValidName name = true) ∧
    ∀ tree (product : Declaration), parse text = .ok tree → product.IsWithin tree →
      ∀ (table : Table), ∀ name ∈ product.jointNames table, isValidName name = true := by
  refine ⟨?_, fun offset c rest token more name => valid_of_lexeme, ?_⟩
  · intro table name offset failed
    obtain impossible | impossible := reason_of_malformation (malformation_of_declare failed)
    · cases impossible
    · cases impossible
  · intro tree product parsed within table name member
    exact valid_of_mem_jointNames ((identified_of_parse parsed).within within) member

/-- A product of a joint of two conditionals, of which the second one does not depend on
`x`, and a plain factor. -/
def twoConditionals : String :=
  "PROD::p(Gaussian::g(y[-9,9],x[0,1],.5)|x,Uniform::h(z[0,1])|x,Uniform::u(x),Uniform::v(w[0,1]))"

/-- The name of the joint, a number with a sign, a dot at its end and an exponent; the
declaration is refused, but not for a name. -/
theorem names_valid_twoConditionals :
    (∃ tree, parse twoConditionals = .ok tree ∧ "p_g_h_given_x" ∈ tree.jointNames empty) ∧
      isValidName "p_g_h_given_x" = true ∧
      Lexer.lexeme 0 '-' "2.e+1)".toList = .ok (some (.number (-20) "-2.e+1"), 5) ∧ isValidName "-2.e+1" = true ∧
      (empty.declare twoConditionals).toBool = false ∧
      ∀ name offset, empty.declare twoConditionals ≠ .error (.declaration (.malformed (.invalidName name) offset)) := by
  obtain ⟨never, tokens, joints⟩ := names_valid twoConditionals
  obtain ⟨tree, parsed, tested⟩ := @exists_ok_of_any _ _ (parse twoConditionals)
    (fun tree => (tree.jointNames empty).contains "p_g_h_given_x") (by decide +kernel)
  have member : "p_g_h_given_x" ∈ tree.jointNames empty := by simpa using tested
  have read : Lexer.lexeme 0 '-' "2.e+1)".toList = .ok (some (.number (-20) "-2.e+1"), 5) := by decide +kernel
  exact ⟨⟨tree, parsed, member⟩, joints tree tree parsed (.inl rfl) empty _ member, read,
    (tokens _ _ _ _ _ _ read rfl).2, by decide +kernel, never empty⟩

end Table

end DensityGraph
