import DensityGraph.Proofs.Declaration.Added
import DensityGraph.Proofs.Declaration.Reading
import DensityGraph.Proofs.Table.Later
import Mathlib.Data.List.Dedup

/-!
# What declaring a text appends

Declaring a text leaves the nodes of a table in their places and puts new ones behind
them: those that the nested declarations make, that of the declaration itself as the
last, and constants for the numbers that are new.  All densities among them make
sense, and go on doing so whatever is done later.
-/

namespace DensityGraph

open Declaration

variable {table changed : Table} {declaration : Declaration} {text name : String} {added : List Node}

theorem Table.WellFormed.validate_push (wellFormed : table.WellFormed) {node : Node}
    (wellFormedAfter : (table.push node).WellFormed) {d : Density}
    (parameters : ∀ ref ∈ d.parameterRefs, table.HasParameter ref) (validated : table.validate d true = .ok ()) :
    (table.push node).validate d true = .ok () :=
  (Included.refl table).push_right.validate wellFormed.toStructured wellFormedAfter.toStructured parameters validated

/-- Every new density is accepted by the table that is left in the end. -/
theorem Table.Grows.validate (grows : table.Grows changed) (wellFormed : table.WellFormed) {d : Density}
    (member : .density d ∈ changed.nodes) : .density d ∈ table.nodes ∨ changed.validate d true = .ok () := by
  induction grows with
  | refl => exact .inl member
  | parameter before sound _ declared ih =>
      have wellFormedBefore := before.wellFormed wellFormed
      have wellFormedAfter := wellFormedBefore.declareParameter sound declared
      obtain ⟨_, _, _, rfl⟩ := declareParameter_eq_ok.1 declared
      rcases List.mem_append.mp member with old | last
      · exact (ih old).imp_right (wellFormedBefore.validate_push wellFormedAfter (wellFormedBefore.resolved _ old).1)
      · cases List.mem_singleton.mp last
  | density before validated declared ih =>
      have wellFormedBefore := before.wellFormed wellFormed
      have wellFormedAfter := wellFormedBefore.declareDensity declared
      obtain ⟨_, _, _, parameters, _, rfl⟩ := declareDensity_eq_ok.1 declared
      rcases List.mem_append.mp member with old | last
      · exact (ih old).imp_right (wellFormedBefore.validate_push wellFormedAfter (wellFormedBefore.resolved _ old).1)
      · obtain rfl := Node.density.inj (List.mem_singleton.mp last)
        exact .inr (wellFormedBefore.validate_push wellFormedAfter parameters validated)

/-- The nested declarations and the declaration itself. -/
def Declaration.parts (declaration : Declaration) : List Declaration := declaration.inside ++ [declaration]

/-- The texts of the numbers in a declaration that are new to a table. -/
def Declaration.newNumbers (declaration : Declaration) (table : Table) : List String :=
  ((declaration.constants.map Parameter.name).filter fun text => text ∉ table.names).dedup

/-- What declaring a tree does to a table. -/
structure Table.Appends (table : Table) (declaration : Declaration) (added : List Node) (changed : Table) : Prop where
  nodes : changed.nodes = table.nodes ++ added
  kept : ∀ name ∈ table.names, changed.find? name = table.find? name ∧ changed.indexOf? name = table.indexOf? name
  /-- what the declaration makes on its own stands last, at the very end the node of its name -/
  own : ∃ before own, added = before ++ own ∧ declaration.Makes own
  last : added.getLast?.map Node.name = some declaration.name
  /-- all is made by the declarations, one after another, or is a constant -/
  made : ∃ made, AllMake declaration.parts made ∧ Gains table added made declaration.constants changed
  distinct : (added.map Node.name).Nodup
  names : (added.map Node.name).Perm
    (declaration.parts.map Declaration.name ++ declaration.parts.flatMap joints ++ declaration.newNumbers table)
  validated : ∀ d, .density d ∈ added → changed.validate d true = .ok ()
  /-- no later operation takes this back, unless another table is loaded -/
  lasting : ∀ d, .density d ∈ added → ∀ operations, (∀ nodes, .load nodes ∉ operations) →
    (changed.after operations).density d.name = .ok d ∧ (changed.after operations).validate d false = .ok ()

theorem Table.indexOf?_eq_of_append (appended : changed.nodes = table.nodes ++ added) (declared : name ∈ table.names) :
    changed.indexOf? name = table.indexOf? name := by
  obtain ⟨node, member, named⟩ := List.mem_map.mp declared
  have found : (table.indexOf? name).isSome = true := by
    rw [indexOf?, List.findIdx?_isSome, List.any_eq_true]
    exact ⟨node, member, beq_iff_eq.mpr named⟩
  obtain ⟨place, foundAt⟩ := Option.isSome_iff_exists.mp found
  rw [indexOf?] at foundAt ⊢
  rw [indexOf?, appended, List.findIdx?_append, foundAt, Option.some_or]

/-- The names of what some declarations make, taken apart by where they come from. -/
theorem Declaration.AllMake.names_perm {made : List Node} {declarations : List Declaration}
    (make : AllMake declarations made) :
    (made.map Node.name).Perm (declarations.map Declaration.name ++ declarations.flatMap joints) := by
  rw [make.names]
  refine (List.flatMap_append_perm _ _ _).symm.trans ?_
  rw [List.map_eq_flatMap]
  exact List.perm_append_comm

theorem Declaration.AllMake.named {made : List Node} {declarations : List Declaration}
    (make : AllMake declarations made) (written : ∀ declaration ∈ declarations, declaration.Written) :
    ∀ name ∈ made.map Node.name, Named name := by
  rw [make.names]
  intro name member
  obtain ⟨declaration, part, isName⟩ := List.mem_flatMap.mp member
  have named := (written declaration part).named
  rcases List.mem_append.mp isName with joint | own
  · exact named_of_mem_joints named joint
  · obtain rfl := List.mem_singleton.mp own
    exact named

/-- A text is that of a new number if it is that of a constant and no name of the
table. -/
theorem Declaration.mem_newNumbers :
    text ∈ declaration.newNumbers table ↔ (∃ p ∈ declaration.constants, p.name = text) ∧ text ∉ table.names := by
  simp only [newNumbers, List.mem_dedup, List.mem_filter, List.mem_map, decide_eq_true_eq]

/-- Every name is added once, by a declaration or for a number that is new. -/
theorem Declaration.Gains.names_perm {made : List Node} (gains : Gains table added made declaration.constants changed)
    (distinct : changed.names.Nodup) (apart : ∀ p ∈ declaration.constants, p.name ∉ made.map Node.name) :
    (added.map Node.name).Perm (made.map Node.name ++ declaration.newNumbers table) := by
  rw [gains.names] at distinct
  obtain ⟨_, distinctAdded, fresh⟩ := List.nodup_append.mp distinct
  have sublistNames : (made.map Node.name).Sublist (added.map Node.name) := gains.inOrder.map Node.name
  have distinctParts : (made.map Node.name ++ declaration.newNumbers table).Nodup := by
    refine List.nodup_append.mpr ⟨distinctAdded.sublist sublistNames, List.nodup_dedup _, ?_⟩
    rintro name isMade text isNumber rfl
    obtain ⟨⟨p, isConstant, rfl⟩, _⟩ := mem_newNumbers.1 isNumber
    exact apart p isConstant isMade
  rw [List.perm_ext_iff_of_nodup distinctAdded distinctParts]
  intro name
  rw [List.mem_append, mem_newNumbers]
  constructor
  · intro isAdded
    obtain ⟨node, member, rfl⟩ := List.mem_map.mp isAdded
    rcases gains.origin node member with isMade | ⟨p, isConstant, rfl⟩
    · exact .inl (List.mem_map_of_mem isMade)
    · exact .inr ⟨⟨p, isConstant, rfl⟩, fun old => fresh _ old _ isAdded rfl⟩
  · rintro (isMade | ⟨⟨p, isConstant, rfl⟩, new⟩)
    · exact sublistNames.subset isMade
    · have covered := gains.covered p isConstant
      rw [gains.names] at covered
      exact (List.mem_append.mp covered).resolve_left new

/-- What is new to a table is validated when it is added. -/
theorem Declaration.Gains.validate {made : List Node} {constants : List Parameter}
    (gains : Gains table added made constants changed) (grows : table.Grows changed) (wellFormed : table.WellFormed)
    {d : Density} (member : .density d ∈ added) :
    .density d ∈ changed.nodes ∧ changed.validate d true = .ok () := by
  have distinct := (grows.wellFormed wellFormed).distinct
  rw [gains.names] at distinct
  obtain ⟨_, _, fresh⟩ := List.nodup_append.mp distinct
  have inChanged : .density d ∈ changed.nodes := by
    rw [gains.nodes]
    exact List.mem_append_right _ member
  refine ⟨inChanged, (grows.validate wellFormed inChanged).resolve_left ?_⟩
  exact fun old => fresh _ (List.mem_map_of_mem old) _ (List.mem_map_of_mem member) rfl

/-- In every table that can be reached a text that can be declared appends what it
says, and nothing else. -/
theorem Table.Reached.declare_appends (reached : table.Reached) (declared : table.declare text = .ok (name, changed)) :
    ∃ declaration added, parse text = .ok declaration ∧ name = declaration.name ∧
      table.Appends declaration added changed := by
  have wellFormed := reached_iff.1 reached
  have grows := grows_of_declare declared
  have wellFormedAfter := grows.wellFormed wellFormed
  unfold declare at declared
  split at declared
  · cases declared
  · rename_i declaration parsed
    obtain ⟨named, middle, early, before, own, make, gainsEarly, makes, appended⟩ :=
      declares_elaborateWith declaration declared
    have makeAll : AllMake declaration.parts (before ++ own) := make.append (.singleton makes)
    have gains := gainsEarly.trans (gains_of_append appended)
    rw [List.append_nil] at gains
    refine ⟨declaration, early ++ own, parsed, named, ?_⟩
    constructor
    case nodes => exact gains.nodes
    case kept => exact fun name old => ⟨grows.included.find?_eq old, indexOf?_eq_of_append gains.nodes old⟩
    case own => exact ⟨early, own, rfl, makes⟩
    case last =>
      rw [← List.getLast?_map, List.map_append, makes.names, ← List.append_assoc, List.getLast?_concat]
    case made => exact ⟨before ++ own, makeAll, gains⟩
    case distinct =>
      have distinct := wellFormedAfter.distinct
      rw [gains.names] at distinct
      exact (List.nodup_append.mp distinct).2.1
    case names =>
      have written := written_of_parse parsed
      obtain ⟨writtenInside, unnamed⟩ := Written.apart declaration written
      have writtenParts : ∀ part ∈ declaration.parts, part.Written :=
        List.forall_mem_append.mpr ⟨writtenInside, List.forall_mem_singleton.mpr written⟩
      apply (gains.names_perm wellFormedAfter.distinct _).trans (makeAll.names_perm.append_right _)
      exact fun p isConstant isMade => unnamed p isConstant (makeAll.named writtenParts _ isMade)
    case validated => exact fun d member => (gains.validate grows wellFormed member).2
    case lasting =>
      intro d member
      obtain ⟨inChanged, validated⟩ := gains.validate grows wellFormed member
      exact wellFormedAfter.lasting inChanged (sensible_of_validate validated)

/-- The conditional is joined with the factor that draws what it is conditioned on, and
the other factor is kept. -/
theorem Table.Reached.declare_appends_joint :
    ∃ declaration changed added,
      parse "PROD::p(Gaussian::g(x[-5,5],0,s[0.1,2])|s,Uniform::u(s),Gaussian::h(y[-5,5],0,1))" = .ok declaration ∧
        Table.empty.declare "PROD::p(Gaussian::g(x[-5,5],0,s[0.1,2])|s,Uniform::u(s),Gaussian::h(y[-5,5],0,1))" =
          .ok ("p", changed) ∧
        changed.names = ["x", "0", "s", "g", "u", "y", "1", "h", "p_g_given_s", "p"] ∧
        declaration.parts.map Declaration.name = ["x", "s", "g", "u", "y", "h", "p"] ∧
        declaration.parts.flatMap joints = ["p_g_given_s"] ∧ declaration.newNumbers .empty = ["0", "1"] ∧
        Table.empty.Appends declaration added changed := by
  let test (declaration : Declaration) : Bool :=
    declaration.parts.map Declaration.name == ["x", "s", "g", "u", "y", "h", "p"] &&
      declaration.parts.flatMap joints == ["p_g_given_s"] && declaration.newNumbers .empty == ["0", "1"]
  obtain ⟨declaration, parsed, tested⟩ := @exists_ok_of_any _ _
    (parse "PROD::p(Gaussian::g(x[-5,5],0,s[0.1,2])|s,Uniform::u(s),Gaussian::h(y[-5,5],0,1))") test (by decide +kernel)
  let check (declared : String × Table) : Bool :=
    declared.1 == "p" && declared.2.names == ["x", "0", "s", "g", "u", "y", "1", "h", "p_g_given_s", "p"]
  obtain ⟨⟨name, changed⟩, declared, checked⟩ := @exists_ok_of_any _ _
    (Table.empty.declare "PROD::p(Gaussian::g(x[-5,5],0,s[0.1,2])|s,Uniform::u(s),Gaussian::h(y[-5,5],0,1))") check
    (by decide +kernel)
  simp only [test, check, Bool.and_eq_true, beq_iff_eq] at tested checked
  obtain ⟨rfl, names⟩ := checked
  obtain ⟨⟨own, joined⟩, numbers⟩ := tested
  have reached : Table.empty.Reached := ⟨[], rfl⟩
  obtain ⟨declarationToo, added, parsedToo, _, appends⟩ := reached.declare_appends declared
  obtain rfl := Except.ok.inj (parsed.symm.trans parsedToo)
  exact ⟨declaration, changed, added, parsed, declared, names, own, joined, numbers, appends⟩

end DensityGraph
