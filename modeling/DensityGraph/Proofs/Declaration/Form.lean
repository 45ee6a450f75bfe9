import DensityGraph.Proofs.Composition.Quiet
import DensityGraph.Proofs.Declaration.Lagging
import DensityGraph.Proofs.Declaration.Names

/-!
# The form of a declaration

Whether each keyword has the number of arguments that it takes, and each argument a form that it may have in
its place, does not depend on a table.  These faults are met in the middle of the work on a table, though: a
name in front of a fault may be refused first, and then the fault is not reported.
-/

namespace DensityGraph

namespace Declaration

/-- A number of arguments that fits. -/
def Arity.admits : Arity → Nat → Bool
  | exactly count, found => found == count
  | atLeast count, found => count ≤ found

/-- What is wrong with the form of a declaration. -/
inductive Fault where
  /-- an argument has a form that it may not have in its place -/
  | misplaced (reason : Reason) (argument : Argument)
  | arity (keyword : Keyword) (found : Nat)

def Fault.error : Fault → Error
  | misplaced reason argument => .malformed reason argument.offset
  | arity keyword found => .arity keyword found

end Declaration

open Declaration (Fault)

mutual

/-- The first fault in the form of a declaration, its arguments taken from left to right. -/
def Declaration.fault? : Declaration → Option Fault
  | .free .. => none
  | .derived _ _ dependencies _ => Argument.parametersFault? dependencies
  | .density keyword name arguments _ =>
    if keyword.arity.admits arguments.length then
      match keyword with
      | .gaussian | .uniform => Argument.parametersFault? arguments
      | .mixture => Argument.branchesFault? name arguments
      | .product => Argument.factorsFault? arguments
    else some (.arity keyword arguments.length)

/-- The first fault of an argument in the place of a parameter. -/
def Argument.parameterFault? : Argument → Option Fault
  | .reference .. | .constant .. => none
  | .nested declaration => declaration.fault?
  | .conditioned density given offset => some (.misplaced .parameterExpected (.conditioned density given offset))
  | .weighted weight density offset => some (.misplaced .parameterExpected (.weighted weight density offset))

def Argument.parametersFault? : List Argument → Option Fault
  | [] => none
  | argument :: rest => argument.parameterFault?.or (Argument.parametersFault? rest)

/-- The first fault of an argument in the place of a density. -/
def Argument.densityFault? : Argument → Option Fault
  | .reference .. | .constant .. => none
  | .nested declaration => declaration.fault?
  | .conditioned density given offset =>
    some (.misplaced .conditionedOutsideProduct (.conditioned density given offset))
  | .weighted weight density offset => some (.misplaced .weightedOutsideMixture (.weighted weight density offset))

/-- The first fault of the branches of a mixture, all of which but the last need a weight. -/
def Argument.branchesFault? (owner : String) : List Argument → Option Fault
  | [] => some (.arity .mixture 0)
  | [.weighted weight density offset] =>
    some (.misplaced (.weightedRemainder owner) (.weighted weight density offset))
  | [remainder] => remainder.densityFault?
  | .weighted weight density _ :: rest =>
    weight.parameterFault?.or (density.densityFault?.or (Argument.branchesFault? owner rest))
  | argument :: _ => some (.misplaced (.unweightedBranch owner) argument)

/-- The first fault of the factors of a product, which may be conditioned. -/
def Argument.factorsFault? : List Argument → Option Fault
  | [] => none
  | .conditioned density _ _ :: rest => density.densityFault?.or (Argument.factorsFault? rest)
  | argument :: rest => argument.densityFault?.or (Argument.factorsFault? rest)

end

namespace Declaration

open Elaborator

variable {α β : Type} {table reached : Table} {name : String}

theorem error_of_check {test : Table → Except ModelError α} {e : ModelError}
    (failed : check test table = .error e) : test table = .error e := by
  unfold check at failed
  split at failed
  · cases failed
  · rename_i failedThere
    rw [failedThere, Except.error.inj failed]

theorem error_of_change {step : Table → Except ModelError Table} {e : ModelError}
    (failed : change step table = .error e) : step table = .error e := by
  unfold change at failed
  split at failed
  · cases failed
  · rename_i failedThere
    rw [failedThere, Except.error.inj failed]

/-- A step reports a fault: it fails with nothing else but an error about the model, it does not succeed if there
is a fault, and what it gives otherwise is good. -/
structure Reports (fault? : Option Fault) (good : α → Prop) (step : Elaborator α) : Prop where
  fails : ∀ {table e}, step table = .error e →
    e.isAboutModel = true ∨ ∃ fault, fault? = some fault ∧ e = .declaration fault.error
  succeeds : ∀ {table a reached}, step table = .ok (a, reached) → fault? = none ∧ good a

namespace Reports

variable {fault? later? : Option Fault} {good : α → Prop} {fine : β → Prop} {first : Elaborator α}
  {next : α → Elaborator β} {e : ModelError}

theorem bind (reports : Reports fault? good first) (nextReports : ∀ a, good a → Reports later? fine (next a)) :
    Reports (fault?.or later?) fine (first >>= next) where
  fails {table e} failed := by
    obtain firstFailed | ⟨⟨a, middle⟩, firstRan, nextFailed⟩ := bind_eq_error.1 failed
    · obtain aboutModel | ⟨fault, rfl, rfl⟩ := reports.fails firstFailed
      · exact .inl aboutModel
      · exact .inr ⟨fault, rfl, rfl⟩
    · obtain ⟨rfl, isGood⟩ := reports.succeeds firstRan
      exact (nextReports a isGood).fails nextFailed
  succeeds {table b reached} ran := by
    obtain ⟨a, middle, firstRan, nextRan⟩ := run_bind_eq_ok.1 ran
    obtain ⟨rfl, isGood⟩ := reports.succeeds firstRan
    exact (nextReports a isGood).succeeds nextRan

/-- Nothing behind the first step is at fault. -/
theorem followed (reports : Reports fault? good first) (nextReports : ∀ a, good a → Reports none fine (next a)) :
    Reports fault? fine (first >>= next) := by
  have both := reports.bind nextReports
  rwa [Option.or_none] at both

/-- Only what is behind the first step can be at fault. -/
theorem behind (reports : Reports none good first) (nextReports : ∀ a, good a → Reports later? fine (next a)) :
    Reports later? fine (first >>= next) :=
  reports.bind nextReports

theorem pure {a : α} (isGood : good a) : Reports none good (pure a) where
  fails failed := by cases failed
  succeeds ran := by
    obtain ⟨rfl, _⟩ := run_pure_eq_ok.1 ran
    exact ⟨rfl, isGood⟩

theorem found (fault : Fault) : Reports (some fault) good (throw (.declaration fault.error)) where
  fails failed := by
    cases failed
    exact .inr ⟨fault, rfl, rfl⟩
  succeeds ran := by cases ran

/-- A refusal for another reason. -/
theorem refusal (other : e.isAboutModel = true) : Reports fault? good (throw e) where
  fails failed := by
    cases failed
    exact .inl other
  succeeds ran := by cases ran

theorem get : Reports none (fun _ => True) get where
  fails failed := by cases failed
  succeeds _ := ⟨rfl, trivial⟩

theorem check {test : Table → Except ModelError α} (quiet : ∀ table, Quiet (test table))
    (isGood : ∀ {table a}, test table = .ok a → good a) : Reports none good (check test) where
  fails {table e} failed := .inl (quiet table e (error_of_check failed))
  succeeds ran := ⟨rfl, isGood (check_eq_ok.1 ran).1⟩

theorem change {step : Table → Except ModelError Table} (quiet : ∀ table, Quiet (step table)) :
    Reports none (fun _ => True) (change step) where
  fails {table e} failed := .inl (quiet table e (error_of_change failed))
  succeeds _ := ⟨rfl, trivial⟩

/-- A refusal for another reason in front of a step. -/
theorem guard {refused : Table → Prop} [DecidablePred refused] {step : Elaborator α} (other : e.isAboutModel = true)
    (reports : Reports fault? good step) :
    Reports fault? good (MonadState.get >>= fun seen =>
      if refused seen then MonadExcept.throw e >>= fun (_ : Unit) => step else step) := by
  apply Reports.get.behind
  intro seen _
  by_cases holds : refused seen
  · rw [if_pos holds]
    exact (refusal other : Reports none (fun _ : Unit => True) _).behind fun _ _ => reports
  · rwa [if_neg holds]

end Reports

theorem reports_insertDensity {d : Density} (isName : isIdentifier d.name.toList = true) :
    Reports none (fun name => isIdentifier name.toList = true) (insertDensity d) := by
  have valid := isValidName_of_isIdentifier isName
  unfold insertDensity
  apply Reports.guard rfl
  apply (Reports.check (fun _ => Table.quiet_checkParameters) fun _ => trivial).behind
  intro _ (_ : True)
  apply (Reports.check (fun _ => Table.quiet_checkDensities) fun _ => trivial).behind
  intro _ (_ : True)
  apply (Reports.check (fun _ => Table.quiet_validate) fun _ => trivial).behind
  intro _ (_ : True)
  apply (Reports.change fun _ => Table.quiet_declareDensity valid).behind
  intro _ _
  exact Reports.pure isName

/-- Making a parameter and declaring it. -/
theorem reports_declareParameter {made : Except ModelError α} {parameter : α → Parameter} {good : String → Prop}
    (quiet : Quiet made) (named : ∀ {a}, made = .ok a → (parameter a).name = name)
    (valid : isValidName name = true) (isGood : good name) :
    Reports none good (check (fun _ => made) >>= fun a =>
      change (fun table => table.declareParameter (parameter a)) >>= fun _ => pure name) := by
  apply (Reports.check (fun _ => quiet) fun built => named built).behind
  intro a namedHere
  rw [← namedHere] at valid
  apply (Reports.change fun _ => Table.quiet_declareParameter valid).behind
  intro _ _
  exact Reports.pure isGood

theorem reports_constant (value : Float) {text : String} (valid : isValidName text = true) :
    Reports none (fun _ => True) (constant value text) := by
  unfold constant
  apply Reports.get.behind
  intro seen _
  split
  · apply (Reports.check (fun _ => Table.quiet_parameter) fun _ => trivial).behind
    intro _ (_ : True)
    exact Reports.pure trivial
  · apply reports_declareParameter Parameter.quiet_free _ valid trivial
    intro p built
    exact (Parameter.free_eq_ok.1 built).2.2 ▸ rfl

/-- The parameters that conditionals are grouped by and the conditionals themselves are named by identifiers. -/
def GroupsIdentified (groups : Groups) : Prop := ∀ name ∈ groupNames groups, isIdentifier name.toList = true

theorem quiet_takeGenerator {shared : String} {before plain : List String} :
    Quiet (takeGenerator table shared before plain) := by
  induction plain generalizing before with
  | nil => exact .ok none
  | cons candidate rest ih =>
      rw [takeGenerator]
      split
      · rename_i failed
        exact Table.quiet_generatedVariables.passed failed
      · exact .ite (.ok _) ih

theorem quiet_pair {owner : String} {plain : List String} {groups : Groups} :
    Quiet (pair table owner plain groups) := by
  induction groups generalizing plain with
  | nil => exact .ok _
  | cons group rest ih =>
      obtain ⟨shared, conditionals⟩ := group
      rw [pair]
      split
      · rename_i failed
        exact quiet_takeGenerator.passed failed
      · exact .error rfl
      · split
        · rename_i failed
          exact ih.passed failed
        · exact .ok _

theorem reports_insertJoint {joint : Joint} (valid : isValidName name = true) :
    Reports none (fun _ => True) (insertJoint name joint) := by
  unfold insertJoint
  have named : ∀ {table d}, Table.conditionalJoint table name joint.conditionals joint.shared joint.marginal = .ok d →
      d.name = name := by
    intro table d made
    rw [(validate_of_conditionalJoint made).2]
  apply (Reports.check (fun _ => Table.quiet_conditionalJoint) named).behind
  intro d namedHere
  exact Reports.change fun _ => Table.quiet_declareDensity (by rwa [namedHere])

theorem reports_insertJoints {owner : String} (isOwner : isIdentifier owner.toList = true) {joints : List Joint}
    (identified : GroupsIdentified (joints.map fun joint => (joint.shared, joint.conditionals))) :
    Reports none (fun _ => True) (insertJoints owner joints) := by
  induction joints with
  | nil => exact Reports.pure trivial
  | cons joint rest ih =>
      rw [GroupsIdentified, List.map_cons, groupNames, List.flatMap_cons, List.forall_mem_append,
        List.forall_mem_cons] at identified
      obtain ⟨⟨isShared, areConditionals⟩, others⟩ := identified
      have valid := isValidName_of_isIdentifier (isIdentifier_jointName isOwner areConditionals isShared)
      unfold insertJoints
      apply Reports.guard rfl
      apply (reports_insertJoint valid).behind
      intro _ _
      apply (ih others).behind
      intro _ _
      exact Reports.pure trivial

theorem reports_insertProduct {plain : List String} {groups : Groups} (isName : isIdentifier name.toList = true)
    (identified : GroupsIdentified groups) :
    Reports none (fun name => isIdentifier name.toList = true) (insertProduct name plain groups) := by
  unfold insertProduct
  split
  · exact reports_insertDensity isName
  · have grouped : ∀ {table result}, pair table name plain groups = .ok result →
        GroupsIdentified (result.1.map fun joint => (joint.shared, joint.conditionals)) := by
      intro table result paired
      rwa [(pair_splits paired).1]
    apply (Reports.check (fun _ => quiet_pair) grouped).behind
    rintro ⟨joints, left⟩ jointsIdentified
    split
    · apply (reports_insertJoint (isValidName_of_isIdentifier isName)).behind
      intro _ _
      exact Reports.pure isName
    · rename_i same
      obtain ⟨rfl, rfl⟩ := Prod.mk.inj same
      apply (reports_insertJoints isName jointsIdentified).behind
      intro names _
      exact reports_insertDensity isName

theorem groupsIdentified_addToGroup {given conditional : String} {groups : Groups}
    (identified : GroupsIdentified groups) (isGiven : isIdentifier given.toList = true)
    (isConditional : isIdentifier conditional.toList = true) :
    GroupsIdentified (addToGroup given conditional groups) := by
  intro name member
  obtain rfl | ⟨rfl | old⟩ := (List.mem_cons.mp (groupNames_addToGroup given conditional groups member)).imp_right
    List.mem_cons.mp
  · exact isGiven
  · exact isConditional
  · exact identified name old

variable {refuses : Test}

mutual

theorem reports_elaborateWith : (declaration : Declaration) → declaration.Identified →
    Reports declaration.fault? (fun name => isIdentifier name.toList = true) (elaborateWith refuses declaration)
  | .free name value lower upper offset, identified => by
      rw [Identified] at identified
      rw [fault?]
      unfold elaborateWith
      apply Reports.guard rfl
      apply reports_declareParameter Parameter.quiet_free _ (isValidName_of_isIdentifier identified) identified
      intro p built
      exact (Parameter.free_eq_ok.1 built).2.2 ▸ rfl
  | .derived name source dependencies offset, identified => by
      rw [Identified] at identified
      obtain ⟨isName, inside⟩ := identified
      rw [fault?]
      unfold elaborateWith
      apply Reports.guard rfl
      apply (reports_elaborateParameters dependencies inside).followed
      intro names _
      exact @reports_declareParameter Formula name _ (Parameter.derived name) _ Formula.quiet_compile (fun _ => rfl)
        (isValidName_of_isIdentifier isName) isName
  | .density .gaussian name [x, mean, sigma] offset, identified => by
      rw [Identified] at identified
      obtain ⟨isName, inside⟩ := identified
      have faults : fault? (.density .gaussian name [x, mean, sigma] offset) =
          x.parameterFault?.or (mean.parameterFault?.or sigma.parameterFault?) := by
        simp [fault?, Keyword.arity, Arity.admits, Argument.parametersFault?]
      simp only [Argument.AllIdentified] at inside
      rw [faults]
      unfold elaborateWith
      apply Reports.guard rfl
      apply (reports_elaborateParameter x inside.1).bind
      intro x _
      apply (reports_elaborateParameter mean inside.2.1).bind
      intro mean _
      apply (reports_elaborateParameter sigma inside.2.2.1).followed
      intro sigma _
      exact reports_insertDensity isName
  | .density .gaussian name [] offset, _ | .density .gaussian name [_] offset, _
  | .density .gaussian name [_, _] offset, _ | .density .gaussian name (_ :: _ :: _ :: _ :: _) offset, _
  | .density .uniform name [] offset, _ | .density .mixture name [] offset, _
  | .density .mixture name [_] offset, _ | .density .product name [] offset, _ => by
      unfold elaborateWith
      apply Reports.guard rfl
      simp only [fault?, Keyword.arity, Arity.admits]
      exact Reports.found (.arity _ _)
  | .density .uniform name (first :: rest) offset, identified => by
      rw [Identified] at identified
      obtain ⟨isName, inside⟩ := identified
      have faults : fault? (.density .uniform name (first :: rest) offset) =
          Argument.parametersFault? (first :: rest) := by
        simp [fault?, Keyword.arity, Arity.admits]
      rw [faults]
      unfold elaborateWith
      apply Reports.guard rfl
      apply (reports_elaborateParameters (first :: rest) inside).followed
      intro names _
      exact reports_insertDensity isName
  | .density .mixture name (first :: second :: rest) offset, identified => by
      rw [Identified] at identified
      obtain ⟨isName, inside⟩ := identified
      have faults : fault? (.density .mixture name (first :: second :: rest) offset) =
          Argument.branchesFault? name (first :: second :: rest) := by
        simp [fault?, Keyword.arity, Arity.admits]
      rw [faults]
      unfold elaborateWith
      apply Reports.guard rfl
      apply (reports_elaborateBranches name (first :: second :: rest) inside).followed
      rintro ⟨branches, remainder⟩ _
      exact reports_insertDensity isName
  | .density .product name (first :: rest) offset, identified => by
      rw [Identified] at identified
      obtain ⟨isName, inside⟩ := identified
      have faults : fault? (.density .product name (first :: rest) offset) =
          Argument.factorsFault? (first :: rest) := by
        simp [fault?, Keyword.arity, Arity.admits]
      rw [faults]
      unfold elaborateWith
      apply Reports.guard rfl
      apply Reports.guard rfl
      apply (reports_elaborateFactors (first :: rest) inside (by simp [GroupsIdentified, groupNames])).followed
      rintro ⟨plain, groups⟩ grouped
      exact reports_insertProduct isName grouped

theorem reports_elaborateParameter : (argument : Argument) → argument.Identified →
    Reports argument.parameterFault? (fun _ => True) (elaborateParameter refuses argument)
  | .reference name offset, _ => by
      rw [Argument.parameterFault?]
      unfold elaborateParameter
      apply (Reports.check (fun _ => Table.quiet_parameter) fun _ => trivial).behind
      intro _ (_ : True)
      exact Reports.pure trivial
  | .constant value text, identified => by
      rw [Argument.Identified] at identified
      rw [Argument.parameterFault?]
      unfold elaborateParameter
      exact reports_constant value identified
  | .nested declaration, identified => by
      rw [Argument.Identified] at identified
      rw [Argument.parameterFault?]
      unfold elaborateParameter
      apply (reports_elaborateWith declaration identified).followed
      intro name _
      apply (Reports.check (fun _ => Table.quiet_parameter) fun _ => trivial).behind
      intro _ (_ : True)
      exact Reports.pure trivial
  | .conditioned part given offset, _ => by
      rw [Argument.parameterFault?]
      unfold elaborateParameter
      exact Reports.found (.misplaced .parameterExpected (.conditioned part given offset))
  | .weighted weight part offset, _ => by
      rw [Argument.parameterFault?]
      unfold elaborateParameter
      exact Reports.found (.misplaced .parameterExpected (.weighted weight part offset))

theorem reports_elaborateParameters : (arguments : List Argument) → Argument.AllIdentified arguments →
    Reports (Argument.parametersFault? arguments) (fun _ => True) (elaborateParameters refuses arguments)
  | [], _ => by
      rw [Argument.parametersFault?]
      unfold elaborateParameters
      exact Reports.pure trivial
  | argument :: rest, identified => by
      rw [Argument.AllIdentified] at identified
      rw [Argument.parametersFault?]
      unfold elaborateParameters
      apply (reports_elaborateParameter argument identified.1).bind
      intro name _
      apply (reports_elaborateParameters rest identified.2).followed
      intro names _
      exact Reports.pure trivial

theorem reports_elaborateDensity : (argument : Argument) → argument.Identified →
    Reports argument.densityFault? (fun name => isIdentifier name.toList = true) (elaborateDensity refuses argument)
  | .reference name offset, identified => by
      rw [Argument.Identified] at identified
      rw [Argument.densityFault?]
      unfold elaborateDensity
      apply (Reports.check (fun _ => Table.quiet_density) fun _ => trivial).behind
      intro _ (_ : True)
      exact Reports.pure identified
  | .constant value text, _ => by
      unfold elaborateDensity
      exact Reports.refusal rfl
  | .nested declaration, identified => by
      rw [Argument.Identified] at identified
      rw [Argument.densityFault?]
      unfold elaborateDensity
      apply (reports_elaborateWith declaration identified).followed
      intro name isName
      apply (Reports.check (fun _ => Table.quiet_density) fun _ => trivial).behind
      intro _ (_ : True)
      exact Reports.pure isName
  | .conditioned part given offset, _ => by
      rw [Argument.densityFault?]
      unfold elaborateDensity
      exact Reports.found (.misplaced .conditionedOutsideProduct (.conditioned part given offset))
  | .weighted weight part offset, _ => by
      rw [Argument.densityFault?]
      unfold elaborateDensity
      exact Reports.found (.misplaced .weightedOutsideMixture (.weighted weight part offset))

theorem reports_elaborateBranches (owner : String) : (arguments : List Argument) →
    Argument.AllIdentified arguments →
      Reports (Argument.branchesFault? owner arguments) (fun _ => True) (elaborateBranches refuses owner arguments)
  | [], _ => by
      rw [Argument.branchesFault?]
      unfold elaborateBranches
      exact Reports.found (.arity .mixture 0)
  | [remainder], identified => by
      rw [Argument.AllIdentified] at identified
      have reports := reports_elaborateDensity remainder identified.1
      cases remainder with
      | weighted weight part offset =>
          rw [Argument.branchesFault?]
          unfold elaborateBranches
          exact Reports.found (.misplaced (.weightedRemainder owner) (.weighted weight part offset))
      | _ =>
          unfold elaborateBranches
          simp only [Argument.branchesFault?]
          apply reports.followed
          intro name _
          exact Reports.pure trivial
  | .weighted weight part offset :: second :: rest, identified => by
      rw [Argument.AllIdentified, Argument.Identified] at identified
      obtain ⟨⟨weightIdentified, partIdentified⟩, others⟩ := identified
      have faults : Argument.branchesFault? owner (.weighted weight part offset :: second :: rest) =
          weight.parameterFault?.or (part.densityFault?.or (Argument.branchesFault? owner (second :: rest))) := by
        simp [Argument.branchesFault?]
      rw [faults]
      unfold elaborateBranches
      apply (reports_elaborateParameter weight weightIdentified).bind
      intro weightName _
      apply (reports_elaborateDensity part partIdentified).bind
      intro partName _
      apply (reports_elaborateBranches owner (second :: rest) others).followed
      rintro ⟨branches, remainder⟩ _
      exact Reports.pure trivial
  | .reference .. :: _ :: _, _ | .constant .. :: _ :: _, _ | .nested _ :: _ :: _, _
  | .conditioned .. :: _ :: _, _ => by
      unfold elaborateBranches
      simp only [Argument.branchesFault?]
      exact Reports.found (.misplaced (.unweightedBranch owner) _)

theorem reports_elaborateFactors {plain : List String} {groups : Groups} : (arguments : List Argument) →
    Argument.AllIdentified arguments → GroupsIdentified groups →
      Reports (Argument.factorsFault? arguments) (fun result => GroupsIdentified result.2)
        (elaborateFactors refuses plain groups arguments)
  | [], _, grouped => by
      rw [Argument.factorsFault?]
      unfold elaborateFactors
      exact Reports.pure grouped
  | argument :: rest, identified, grouped => by
      rw [Argument.AllIdentified] at identified
      obtain ⟨argumentIdentified, others⟩ := identified
      have reports := reports_elaborateDensity argument argumentIdentified
      cases argument with
      | conditioned part given offset =>
          rw [Argument.Identified] at argumentIdentified
          rw [Argument.factorsFault?]
          unfold elaborateFactors
          apply (reports_elaborateDensity part argumentIdentified.1).bind
          intro name isName
          apply (Reports.check (fun _ => Table.quiet_parameter) fun _ => trivial).behind
          intro _ (_ : True)
          exact reports_elaborateFactors rest others (groupsIdentified_addToGroup grouped argumentIdentified.2 isName)
      | _ =>
          unfold elaborateFactors
          simp only [Argument.factorsFault?]
          apply reports.bind
          intro name _
          exact reports_elaborateFactors rest others grouped

end

/-- What is malformed about a text, whatever the table that it is declared in. -/
def malformation? (text : String) : Option Error :=
  match parse text with
  | .error e => some e
  | .ok declaration => declaration.fault?.map Fault.error

end Declaration

namespace Table

open Declaration

variable {table : Table} {text : String} {e : Declaration.Error}

/-- A text is refused for what the model says, or because it is malformed in the same way for every table. -/
theorem declare_eq_error {refusal : ModelError} (failed : table.declare text = .error refusal) :
    refusal.isAboutModel = true ∨ ∃ e, malformation? text = some e ∧ refusal = .declaration e := by
  unfold malformation?
  cases parsed : parse text with
  | error unread =>
      simp only [declare, parsed] at failed
      cases failed
      exact .inr ⟨unread, rfl, rfl⟩
  | ok declaration =>
      simp only [declare, parsed] at failed
      obtain aboutModel | ⟨fault, found, rfl⟩ :=
        (reports_elaborateWith declaration (identified_of_parse parsed)).fails failed
      · exact .inl aboutModel
      · exact .inr ⟨fault.error, congrArg (Option.map Fault.error) found, rfl⟩

theorem malformation_of_declare (failed : table.declare text = .error (.declaration e)) :
    malformation? text = some e := by
  obtain impossible | ⟨_, malformed, same⟩ := declare_eq_error failed
  · cases impossible
  · cases same
    exact malformed

/-- No table accepts a malformed text. -/
theorem not_declared_of_malformation (table : Table) (malformed : malformation? text = some e) :
    ∃ refusal, table.declare text = .error refusal := by
  cases declared : table.declare text with
  | error refusal => exact ⟨refusal, rfl⟩
  | ok result =>
      obtain ⟨name, reached⟩ := result
      unfold declare at declared
      unfold malformation? at malformed
      split at declared
      · cases declared
      · rename_i declaration parsed
        have noFault := ((reports_elaborateWith declaration (identified_of_parse parsed)).succeeds declared).1
        simp [parsed, noFault] at malformed

/-- A text that one table finds malformed is malformed in one way, and every table refuses it.  Another table
may refuse it for another reason, unless the text cannot be read at all; if it finds the text malformed, then
with the same error. -/
theorem declare_malformed (failed : table.declare text = .error (.declaration e)) (other : Table) :
    malformation? text = some e ∧
      ∃ refusal, other.declare text = .error refusal ∧ (refusal.isSyntax = true → refusal = .declaration e) ∧
        (parse text = .error e → refusal = .declaration e) := by
  have malformed := malformation_of_declare failed
  obtain ⟨refusal, refused⟩ := not_declared_of_malformation other malformed
  refine ⟨malformed, refusal, refused, fun isSyntax => ?_, fun unread => ?_⟩
  · cases refusal with
    | declaration otherError =>
        have malformedToo := malformation_of_declare refused
        rw [Option.some.inj (malformed.symm.trans malformedToo)]
    | _ => cases isSyntax
  · rw [declare, unread] at refused
    exact (Except.error.inj refused).symm

/-- The table with one free parameter `x`. -/
def observed : Table := ⟨[.parameter ⟨"x", .free 0.5 ⟨0, 1⟩⟩]⟩

theorem declare_observed :
    observed.declare "Gaussian::g(x,u|x,1)" = .error (.declaration (.malformed .parameterExpected 14)) := by
  have failed : (observed.declare "Gaussian::g(x,u|x,1)").map (fun _ => ()) =
      .error (.declaration (.malformed .parameterExpected 14)) := by decide +kernel
  exact map_eq_error.1 failed

theorem declare_unobserved : empty.declare "Gaussian::g(x,u|x,1)" = .error (.unknownReference "x" .parameter) := by
  have failed : (empty.declare "Gaussian::g(x,u|x,1)").map (fun _ => ()) =
      .error (.unknownReference "x" .parameter) := by decide +kernel
  exact map_eq_error.1 failed

/-- The empty table refuses the text, too. -/
theorem declare_malformed_conditioned :
    observed.declare "Gaussian::g(x,u|x,1)" = .error (.declaration (.malformed .parameterExpected 14)) ∧
      malformation? "Gaussian::g(x,u|x,1)" = some (.malformed .parameterExpected 14) ∧
      ∃ refusal, empty.declare "Gaussian::g(x,u|x,1)" = .error refusal := by
  obtain ⟨malformed, refusal, refused, _⟩ := declare_malformed declare_observed empty
  exact ⟨declare_observed, malformed, refusal, refused⟩

/-- The name `x` is looked up before `u|x` is found to be no parameter, so that the table in which `x` is
declared finds the text malformed and the empty one does not. -/
theorem not_malformed_everywhere :
    (∃ table, empty.declare "x[0,1]" = .ok ("x", table) ∧ (table == observed) = true) ∧
      ¬ ∀ (text : String) (table other : Table),
        (∃ refusal, table.declare text = .error refusal ∧ refusal.isSyntax = true) →
          ∃ refusal, other.declare text = .error refusal ∧ refusal.isSyntax = true := by
  constructor
  · obtain ⟨⟨name, table⟩, declared, same⟩ := @exists_ok_of_any _ _ (empty.declare "x[0,1]")
      (fun result => decide (result.1 = "x") && result.2 == observed) (by decide +kernel)
    rw [Bool.and_eq_true, decide_eq_true_eq] at same
    obtain ⟨rfl, same⟩ := same
    exact ⟨table, declared, same⟩
  · intro everywhere
    obtain ⟨refusal, refused, isSyntax⟩ := everywhere _ observed empty ⟨_, declare_observed, rfl⟩
    obtain rfl := Except.error.inj (refused.symm.trans declare_unobserved)
    cases isSyntax

end Table

end DensityGraph
