import DensityGraph.Declaration.Elaboration

/-!
# Flat declarations

A declaration is flat if it names the nodes that it uses and declares none of them
itself.  Every declaration can be taken apart into flat ones: those that are nested
in it, each before the one that it stands in, and at last the declaration itself.
-/

namespace DensityGraph

mutual

/-- The declarations nested in a declaration: from left to right, each behind those
that are nested in it. -/
def Declaration.inside : Declaration → List Declaration
  | .free .. => []
  | .derived _ _ dependencies _ => Argument.insideAll dependencies
  | .density _ _ arguments _ => Argument.insideAll arguments

def Argument.inside : Argument → List Declaration
  | .reference .. => []
  | .constant .. => []
  | .nested declaration => declaration.inside ++ [declaration]
  | .conditioned density _ _ => density.inside
  | .weighted weight density _ => weight.inside ++ density.inside

def Argument.insideAll : List Argument → List Declaration
  | [] => []
  | argument :: rest => argument.inside ++ Argument.insideAll rest

end

/-- The argument with the names of nested declarations in their places. -/
def Argument.flat : Argument → Argument
  | .reference name offset => .reference name offset
  | .constant value text => .constant value text
  | .nested declaration => .reference declaration.name declaration.offset
  | .conditioned density given offset => .conditioned density.flat given offset
  | .weighted weight density offset => .weighted weight.flat density.flat offset

/-- The declaration with the names of nested declarations in their places. -/
def Declaration.flat : Declaration → Declaration
  | .free name value lower upper offset => .free name value lower upper offset
  | .derived name formula dependencies offset => .derived name formula (dependencies.map Argument.flat) offset
  | .density keyword name arguments offset => .density keyword name (arguments.map Argument.flat) offset

/-- The nested declarations and the declaration itself, all of them flat. -/
def Declaration.steps (declaration : Declaration) : List Declaration :=
  (declaration.inside ++ [declaration]).map Declaration.flat

/-- Nothing is nested in a flat argument. -/
theorem Argument.inside_flat (argument : Argument) : argument.flat.inside = [] := by
  cases argument with
  | reference | constant | nested => rfl
  | conditioned density given offset => rw [flat, inside, inside_flat density]
  | weighted weight density offset => rw [flat, inside, inside_flat weight, inside_flat density, List.append_nil]

theorem Argument.insideAll_flat (arguments : List Argument) : insideAll (arguments.map flat) = [] := by
  induction arguments with
  | nil => rw [List.map_nil, insideAll]
  | cons first rest ih => rw [List.map_cons, insideAll, inside_flat, ih, List.append_nil]

theorem Declaration.inside_flat (declaration : Declaration) : declaration.flat.inside = [] := by
  cases declaration with
  | free name value lower upper offset => rw [flat, inside]
  | derived name formula dependencies offset => rw [flat, inside, Argument.insideAll_flat]
  | density keyword name arguments offset => rw [flat, inside, Argument.insideAll_flat]

/-- Every step of a declaration is flat. -/
theorem Declaration.inside_of_mem_steps {declaration step : Declaration} (member : step ∈ declaration.steps) :
    step.inside = [] := by
  obtain ⟨full, _, rfl⟩ := List.mem_map.mp member
  exact inside_flat full

/-- The names that an argument stands for or is conditioned on. -/
def Argument.uses : Argument → List String
  | .reference name _ => [name]
  | .constant _ text => [text]
  | .nested declaration => [declaration.name]
  | .conditioned density given _ => density.uses ++ [given]
  | .weighted weight density _ => weight.uses ++ density.uses

/-- A flat argument mentions only names that it uses. -/
theorem Argument.mem_uses_of_mentions {name : String} :
    (argument : Argument) → argument.flat.mentions name = true → name ∈ argument.uses
  | .reference target _, mentioned => by
      rw [flat, mentions, beq_iff_eq] at mentioned
      exact List.mem_singleton.mpr mentioned.symm
  | .constant _ _, mentioned => by
      simp [flat, mentions] at mentioned
  | .nested declaration, mentioned => by
      rw [flat, mentions, beq_iff_eq] at mentioned
      exact List.mem_singleton.mpr mentioned.symm
  | .conditioned density given _, mentioned => by
      simp only [flat, mentions, Bool.or_eq_true, beq_iff_eq] at mentioned
      rcases mentioned with rfl | inside
      · exact List.mem_append_right _ (List.mem_singleton_self _)
      · exact List.mem_append_left _ (mem_uses_of_mentions density inside)
  | .weighted weight density _, mentioned => by
      simp only [flat, mentions, Bool.or_eq_true] at mentioned
      rcases mentioned with inWeight | inDensity
      · exact List.mem_append_left _ (mem_uses_of_mentions weight inWeight)
      · exact List.mem_append_right _ (mem_uses_of_mentions density inDensity)

theorem Argument.mem_uses_of_anyMentions {name : String} {arguments : List Argument}
    (mentioned : anyMentions name (arguments.map flat) = true) : name ∈ arguments.flatMap uses := by
  induction arguments with
  | nil => simp [anyMentions] at mentioned
  | cons first rest ih =>
      rw [List.map_cons, anyMentions, Bool.or_eq_true] at mentioned
      rw [List.flatMap_cons]
      rcases mentioned with inFirst | inRest
      · exact List.mem_append_left _ (mem_uses_of_mentions first inFirst)
      · exact List.mem_append_right _ (ih inRest)

namespace Declaration

/-- A name begins like an identifier. -/
def Named (name : String) : Prop := ∃ first rest, name.toList = first :: rest ∧ Formula.Lexer.beginsName first = true

/-- A text is that of a number, and not a name. -/
def IsNumeral (value : Float) (text : String) : Prop :=
  ¬ Named text ∧ Decimal.readFinite? text.toList = some value

end Declaration

mutual

/-- The names of a tree are names, and its constants are written numbers. -/
def Declaration.Written : Declaration → Prop
  | .free name .. => Declaration.Named name
  | .derived name _ dependencies _ => Declaration.Named name ∧ Argument.AllWritten dependencies
  | .density _ name arguments _ => Declaration.Named name ∧ Argument.AllWritten arguments

def Argument.Written : Argument → Prop
  | .reference name _ => Declaration.Named name
  | .constant value text => Declaration.IsNumeral value text
  | .nested declaration => declaration.Written
  | .conditioned density given _ => density.Written ∧ Declaration.Named given
  | .weighted weight density _ => weight.Written ∧ density.Written

def Argument.AllWritten : List Argument → Prop
  | [] => True
  | argument :: rest => argument.Written ∧ Argument.AllWritten rest

end

theorem Argument.allWritten_iff {arguments : List Argument} :
    AllWritten arguments ↔ ∀ argument ∈ arguments, argument.Written := by
  induction arguments with
  | nil => simp [AllWritten]
  | cons first rest ih => rw [AllWritten, ih, List.forall_mem_cons]

theorem Declaration.Written.named {declaration : Declaration} (written : declaration.Written) :
    Named declaration.name := by
  cases declaration with
  | free name value lower upper offset =>
      rw [Written] at written
      exact written
  | derived name formula dependencies offset =>
      rw [Written] at written
      exact written.1
  | density keyword name arguments offset =>
      rw [Written] at written
      exact written.1

end DensityGraph
