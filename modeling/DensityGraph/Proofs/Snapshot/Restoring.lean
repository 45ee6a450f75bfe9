import DensityGraph.Proofs.Parameter
import DensityGraph.Proofs.Snapshot
import DensityGraph.Proofs.Table.Held
import Mathlib.Logic.Relation

/-!
# The course of a restore

A restore reads the bounds of all its parameters, one after another, and then
writes its values, one after another.  A value that has been found within the bounds
of its parameter can be written, since what is written in front of it leaves these
bounds alone: a restore that has begun to write does not fail.
-/

namespace DensityGraph

/-- A free parameter holds the value of its name, if there is one. -/
def Node.given (values : NameMap Float) : Node → Node
  | .parameter ⟨name, .free old bounds⟩ => .parameter ⟨name, .free ((values.get? name).getD old) bounds⟩
  | node => node

/-- The table in which free parameters hold the values of their names. -/
def Table.given (table : Table) (values : NameMap Float) : Table := ⟨table.nodes.map (Node.given values)⟩

/-- A name is that of a free parameter with these bounds. -/
def Table.BoundedBy (table : Table) (name : String) (bounds : Bounds) : Prop :=
  ∃ value, table.parameter name = .ok ⟨name, .free value bounds⟩

/-- An entry can be written: its value lies within the bounds of its parameter. -/
def Table.Within (table : Table) (entry : String × Float) : Prop :=
  ∃ bounds, table.BoundedBy entry.1 bounds ∧ bounds.contains entry.2 = true

/-- The value of an entry lies outside the bounds of its parameter. -/
def Table.Outside (table : Table) (entry : String × Float) : Prop :=
  ∃ bounds, table.BoundedBy entry.1 bounds ∧ bounds.contains entry.2 = false

namespace Node

variable {values other : NameMap Float} {node : Node}

@[simp]
theorem name_given : (node.given values).name = node.name := by
  obtain ⟨name, kind⟩ | d := node
  · cases kind <;> rfl
  · rfl

/-- Only the value of the own name counts. -/
theorem given_congr (same : values.get? node.name = other.get? node.name) : node.given values = node.given other := by
  obtain ⟨name, ⟨old, bounds⟩ | formula⟩ | d := node
  · change values.get? name = other.get? name at same
    rw [given, given, same]
  · rfl
  · rfl

theorem given_of_none (absent : values.get? node.name = none) : node.given values = node := by
  obtain ⟨name, ⟨old, bounds⟩ | formula⟩ | d := node
  · change values.get? name = none at absent
    rw [given, absent]
    rfl
  · rfl
  · rfl

end Node

namespace Table

variable {table : Table} {values : NameMap Float} {name : String} {value : Float} {bounds : Bounds}

theorem given_empty : table.given ⟨[]⟩ = table := by
  have same : table.nodes.map (Node.given ⟨[]⟩) = table.nodes := by
    conv_rhs => rw [← List.map_id table.nodes]
    exact List.map_congr_left fun node _ => Node.given_of_none rfl
  rw [given, same]

theorem find?_given : (table.given values).find? name = (table.find? name).map (Node.given values) := by
  simp only [given, find?, List.find?_map, Function.comp_def, Node.name_given]

theorem find?_given_of_notMem (absent : name ∉ values.names) :
    (table.given values).find? name = table.find? name := by
  rw [find?_given]
  cases found : table.find? name with
  | none => rfl
  | some node =>
      obtain ⟨_, rfl⟩ := mem_of_find? found
      have unnamed : values.get? node.name = none := by
        rw [NameMap.get?, List.lookup_eq_none_iff]
        intro entry member
        simp only [NameMap.names, List.mem_map, not_exists, not_and] at absent
        simpa using fun same => absent entry member same.symm
      rw [Option.map_some, Node.given_of_none unnamed]

theorem BoundedBy.unique {more : Bounds} (bounded : table.BoundedBy name bounds) (again : table.BoundedBy name more) :
    bounds = more := by
  obtain ⟨old, found⟩ := bounded
  obtain ⟨oldToo, foundToo⟩ := again
  cases found.symm.trans foundToo
  rfl

theorem IsFree.exists_bounded (free : table.IsFree name) : ∃ bounds, table.BoundedBy name bounds := by
  obtain ⟨⟨own, kind⟩, found, isFree⟩ := free
  obtain ⟨_, rfl⟩ := mem_of_find? (parameter_eq_ok.1 found)
  cases kind with
  | free value bounds => exact ⟨bounds, value, found⟩
  | derived formula => cases isFree

theorem Within.not_outside {entry : String × Float} (within : table.Within entry) : ¬ table.Outside entry := by
  rintro ⟨bounds, bounded, excluded⟩
  obtain ⟨more, boundedToo, included⟩ := within
  obtain rfl := bounded.unique boundedToo
  rw [included] at excluded
  cases excluded

theorem get?_append_of_ne {written : List (String × Float)} {own : String} (different : own ≠ name) :
    NameMap.get? ⟨written ++ [(name, value)]⟩ own = NameMap.get? ⟨written⟩ own := by
  simp [NameMap.get?, List.lookup_append, List.lookup_cons, beq_false_of_ne different]

theorem get?_append_self {written : List (String × Float)} (new : ∀ entry ∈ written, name ≠ entry.1) :
    NameMap.get? ⟨written ++ [(name, value)]⟩ name = some value := by
  have absent : written.lookup name = none := List.lookup_eq_none_iff.mpr (by simpa using new)
  simp [NameMap.get?, List.lookup_append, absent]

/-- A value within the bounds of its parameter can be written behind values of other
parameters. -/
theorem setValue_given (wellFormed : table.WellFormed) {written : List (String × Float)}
    (new : ∀ entry ∈ written, name ≠ entry.1) (within : table.Within (name, value)) :
    (table.given ⟨written⟩).setValue name value = .ok (table.given ⟨written ++ [(name, value)]⟩) := by
  obtain ⟨bounds, ⟨old, found⟩, included⟩ := within
  dsimp only at found included
  rw [parameter_eq_ok] at found
  obtain ⟨member, _⟩ := mem_of_find? found
  have valid := (wellFormed.sound _ member old bounds rfl).1
  have admitted : Parameter.admits bounds value = true := by
    rwa [Parameter.admits_eq_contains valid]
  rw [setValue_eq_ok]
  refine ⟨_, ⟨name, .free value bounds⟩, by rw [find?_given, found]; rfl,
    Parameter.setValue_eq_ok.2 ⟨_, bounds, rfl, admitted, rfl⟩, ?_⟩
  simp only [given, replace, List.map_map, mk.injEq]
  apply List.map_congr_left
  intro node inside
  rw [Function.comp_apply, Node.name_given]
  by_cases named : node.name = name
  · have foundNode := find?_of_mem wellFormed.distinct inside
    rw [named, found] at foundNode
    obtain rfl := Option.some.inj foundNode
    rw [if_pos named, Node.given, get?_append_self new]
    rfl
  · rw [if_neg named]
    exact Node.given_congr (get?_append_of_ne named)

end Table

namespace Snapshot

variable {table : Table} {entry : String × Float} {rest : List (String × Float)}

theorem checkBounds_cons :
    checkBounds table (entry :: rest) = checkBounds table [entry] >>= fun _ => checkBounds table rest := by
  simp only [checkBounds]
  cases found : table.parameter entry.1 with
  | error e => rfl
  | ok p =>
      cases limited : p.bounds? with
      | none => simp only [limited]; rfl
      | some bounds => cases within : bounds.contains entry.2 <;> simp only [limited, within] <;> rfl

theorem checkBounds_of_bounded {bounds : Bounds} (bounded : table.BoundedBy entry.1 bounds) :
    checkBounds table [entry] = if bounds.contains entry.2 then .ok ()
      else .error (.outOfBounds entry.1 entry.2 bounds.lower bounds.upper) := by
  obtain ⟨value, found⟩ := bounded
  simp only [checkBounds, found, Parameter.bounds?]

theorem checkBounds_eq_ok (free : table.IsFree entry.1) : checkBounds table [entry] = .ok () ↔ table.Within entry := by
  obtain ⟨bounds, bounded⟩ := free.exists_bounded
  rw [checkBounds_of_bounded bounded]
  constructor
  · intro checked
    split at checked
    · rename_i within
      exact ⟨bounds, bounded, within⟩
    · cases checked
  · rintro ⟨more, boundedToo, within⟩
    obtain rfl := bounded.unique boundedToo
    rw [if_pos within]

theorem checkBounds_eq_error (free : table.IsFree entry.1) {e : ModelError} :
    checkBounds table [entry] = .error e ↔ ∃ bounds, table.BoundedBy entry.1 bounds ∧
      bounds.contains entry.2 = false ∧ e = .outOfBounds entry.1 entry.2 bounds.lower bounds.upper := by
  obtain ⟨bounds, bounded⟩ := free.exists_bounded
  rw [checkBounds_of_bounded bounded]
  constructor
  · intro failed
    split at failed
    · cases failed
    · rename_i outside
      exact ⟨bounds, bounded, Bool.eq_false_of_not_eq_true outside, (Except.error.inj failed).symm⟩
  · rintro ⟨more, boundedToo, outside, rfl⟩
    obtain rfl := bounded.unique boundedToo
    rw [if_neg (by simp [outside])]

end Snapshot

/-- A moment of a restore: the table as it is, the entries whose values are still to
be checked, and those whose values are still to be written. -/
structure Restoring where
  table : Table
  unchecked : List (String × Float)
  unwritten : List (String × Float)

namespace Restoring

variable {m next : Restoring} {table changed : Table} {e : ModelError}

def start (table : Table) (snapshot : Snapshot) : Restoring :=
  ⟨table, snapshot.values.entries, snapshot.values.entries⟩

/-- One read or write.  Nothing is written before everything has been checked. -/
inductive Step : Restoring → Restoring → Prop where
  | check {table : Table} {entry : String × Float} {rest unwritten : List (String × Float)}
      (checked : Snapshot.checkBounds table [entry] = .ok ()) :
      Step ⟨table, entry :: rest, unwritten⟩ ⟨table, rest, unwritten⟩
  | write {table changed : Table} {entry : String × Float} {rest : List (String × Float)}
      (written : table.setValue entry.1 entry.2 = .ok changed) : Step ⟨table, [], entry :: rest⟩ ⟨changed, [], rest⟩

/-- The next read or write fails. -/
inductive Fails : Restoring → ModelError → Prop where
  | check {table : Table} {entry : String × Float} {rest unwritten : List (String × Float)} {e : ModelError}
      (refused : Snapshot.checkBounds table [entry] = .error e) : Fails ⟨table, entry :: rest, unwritten⟩ e
  | write {table : Table} {entry : String × Float} {rest : List (String × Float)} {e : ModelError}
      (refused : table.setValue entry.1 entry.2 = .error e) : Fails ⟨table, [], entry :: rest⟩ e

/-- The reads and writes from one moment to another. -/
def Run : Restoring → Restoring → Prop := Relation.ReflTransGen Step

/-- What becomes of a moment, and the table that it leaves. -/
def outcome (m : Restoring) : Except ModelError Unit × Table :=
  match Snapshot.checkBounds m.table m.unchecked with
  | .error e => (.error e, m.table)
  | .ok () => Snapshot.writeBack m.table m.unwritten

theorem outcome_start (snapshot : Snapshot) : (start table snapshot).outcome = snapshot.restore table :=
  rfl

theorem Step.outcome_eq (step : Step m next) : next.outcome = m.outcome := by
  cases step with
  | check checked =>
      unfold outcome
      rw [Snapshot.checkBounds_cons, checked]
      rfl
  | write written =>
      simp only [outcome, Snapshot.checkBounds, Snapshot.writeBack, written]

theorem Fails.outcome_eq (fails : m.Fails e) : m.outcome = (.error e, m.table) := by
  cases fails with
  | check refused =>
      unfold outcome
      rw [Snapshot.checkBounds_cons, refused]
      rfl
  | write refused =>
      simp only [outcome, Snapshot.checkBounds, Snapshot.writeBack, refused]

theorem Run.outcome_eq (run : Run m next) : next.outcome = m.outcome := by
  induction run with
  | refl => rfl
  | tail _ step ih => rw [step.outcome_eq, ih]

/-- Every restore comes to an end. -/
theorem exists_run (m : Restoring) : (∃ changed, Run m ⟨changed, [], []⟩) ∨ ∃ last e, Run m last ∧ last.Fails e := by
  obtain ⟨table, unchecked, unwritten⟩ := m
  induction unchecked with
  | cons entry rest ih =>
      cases checked : Snapshot.checkBounds table [entry] with
      | error e => exact .inr ⟨_, e, .refl, .check checked⟩
      | ok _ =>
          obtain ⟨changed, run⟩ | ⟨last, e, run, fails⟩ := ih
          · exact .inl ⟨changed, .head (.check checked) run⟩
          · exact .inr ⟨last, e, .head (.check checked) run, fails⟩
  | nil =>
      induction unwritten generalizing table with
      | nil => exact .inl ⟨table, .refl⟩
      | cons entry rest ih =>
          cases written : table.setValue entry.1 entry.2 with
          | error e => exact .inr ⟨_, e, .refl, .write written⟩
          | ok middle =>
              obtain ⟨changed, run⟩ | ⟨last, e, run, fails⟩ := ih middle
              · exact .inl ⟨changed, .head (.write written) run⟩
              · exact .inr ⟨last, e, .head (.write written) run, fails⟩

theorem outcome_eq_ok : m.outcome = (.ok (), changed) ↔ Run m ⟨changed, [], []⟩ := by
  constructor
  · intro done
    obtain ⟨other, run⟩ | ⟨last, e, run, fails⟩ := exists_run m
    · obtain ⟨_, rfl⟩ : _ ∧ other = changed := Prod.mk.inj (run.outcome_eq.trans done)
      exact run
    · rw [← run.outcome_eq, fails.outcome_eq] at done
      cases done
  · exact fun run => run.outcome_eq.symm

theorem outcome_eq_error : m.outcome = (.error e, changed) ↔ ∃ last, Run m last ∧ last.Fails e ∧ last.table = changed := by
  constructor
  · intro failed
    obtain ⟨other, run⟩ | ⟨last, other, run, fails⟩ := exists_run m
    · rw [outcome_eq_ok.2 run] at failed
      cases failed
    · rw [← run.outcome_eq, fails.outcome_eq] at failed
      obtain ⟨same, left⟩ := Prod.mk.inj failed
      obtain rfl := Except.error.inj same
      exact ⟨last, run, fails, left⟩
  · rintro ⟨last, run, fails, rfl⟩
    rw [← run.outcome_eq, fails.outcome_eq]

/-- What has been written is what the table holds, and what has been checked lies
within bounds.  There is nothing written while something is to be checked. -/
structure Progress (table : Table) (entries : List (String × Float)) (m : Restoring) : Prop where
  written : ∃ written, entries = written ++ m.unwritten ∧ m.table = table.given ⟨written⟩ ∧
    (m.unchecked ≠ [] → written = [])
  checked : ∃ checked, entries = checked ++ m.unchecked ∧ ∀ entry ∈ checked, table.Within entry

variable {entries : List (String × Float)}

theorem progress_start (table : Table) (snapshot : Snapshot) :
    Progress table snapshot.values.entries (start table snapshot) :=
  ⟨⟨[], rfl, Table.given_empty.symm, fun _ => rfl⟩, [], rfl, List.forall_mem_nil _⟩

/-- While something is to be checked nothing is changed. -/
theorem Progress.unchanged (progress : Progress table entries m) (checking : m.unchecked ≠ []) :
    m.table = table ∧ m.unwritten = entries := by
  obtain ⟨written, split, tableEq, nothing⟩ := progress.written
  obtain rfl := nothing checking
  exact ⟨tableEq.trans Table.given_empty, split.symm⟩

/-- The next write succeeds. -/
theorem Progress.setValue_eq (progress : Progress table entries m) (wellFormed : table.WellFormed)
    (sorted : NameMap.Sorted ⟨entries⟩) (checked : m.unchecked = []) {entry : String × Float}
    {rest : List (String × Float)} (next : m.unwritten = entry :: rest) :
    ∃ written, entries = written ++ entry :: rest ∧
      m.table.setValue entry.1 entry.2 = .ok (table.given ⟨written ++ [entry]⟩) := by
  obtain ⟨written, split, tableEq, _⟩ := progress.written
  obtain ⟨all, allSplit, within⟩ := progress.checked
  rw [checked, List.append_nil] at allSplit
  rw [next] at split
  refine ⟨written, split, ?_⟩
  rw [tableEq]
  apply Table.setValue_given wellFormed
  · intro earlier member same
    have before := (List.pairwise_append.mp (split ▸ sorted)).2.2 earlier member entry List.mem_cons_self
    exact String.lt_irrefl _ (same ▸ before)
  · apply within
    rw [← allSplit, split]
    exact List.mem_append_right _ List.mem_cons_self

theorem Step.progress (step : Step m next) (progress : Progress table entries m) (wellFormed : table.WellFormed)
    (free : ∀ entry ∈ entries, table.IsFree entry.1) (sorted : NameMap.Sorted ⟨entries⟩) :
    Progress table entries next := by
  cases step with
  | @check _ entry rest unwritten checked =>
      obtain ⟨rfl, rfl⟩ := progress.unchanged (List.cons_ne_nil _ _)
      obtain ⟨before, split, within⟩ := progress.checked
      refine ⟨⟨[], rfl, Table.given_empty.symm, fun _ => rfl⟩, before ++ [entry], by simpa using split, ?_⟩
      rw [List.forall_mem_append, List.forall_mem_singleton]
      refine ⟨within, (Snapshot.checkBounds_eq_ok (free entry ?_)).1 checked⟩
      rw [split]
      exact List.mem_append_right _ List.mem_cons_self
  | @write _ _ entry rest done =>
      obtain ⟨written, split, set⟩ := progress.setValue_eq wellFormed sorted rfl rfl
      obtain rfl := Except.ok.inj (done.symm.trans set)
      exact ⟨⟨written ++ [entry], by simpa using split, rfl, fun checking => absurd rfl checking⟩, progress.checked⟩

theorem Run.progress (run : Run m next) (progress : Progress table entries m) (wellFormed : table.WellFormed)
    (free : ∀ entry ∈ entries, table.IsFree entry.1) (sorted : NameMap.Sorted ⟨entries⟩) :
    Progress table entries next := by
  induction run with
  | refl => exact progress
  | tail _ step ih => exact step.progress ih wellFormed free sorted

/-- Nothing fails but the check of the first entry whose value lies outside bounds. -/
theorem Fails.first_outside (fails : m.Fails e) (progress : Progress table entries m) (wellFormed : table.WellFormed)
    (free : ∀ entry ∈ entries, table.IsFree entry.1) (sorted : NameMap.Sorted ⟨entries⟩) :
    m.unchecked ≠ [] ∧ ∃ before entry after bounds, entries = before ++ entry :: after ∧
      (∀ earlier ∈ before, table.Within earlier) ∧ table.BoundedBy entry.1 bounds ∧
      bounds.contains entry.2 = false ∧ e = .outOfBounds entry.1 entry.2 bounds.lower bounds.upper := by
  cases fails with
  | @check _ entry rest _ _ refused =>
      refine ⟨List.cons_ne_nil _ _, ?_⟩
      obtain ⟨rfl, rfl⟩ := progress.unchanged (List.cons_ne_nil _ _)
      obtain ⟨before, split, within⟩ := progress.checked
      have member : entry ∈ before ++ entry :: rest := List.mem_append_right _ List.mem_cons_self
      obtain ⟨bounds, bounded, outside, rfl⟩ := (Snapshot.checkBounds_eq_error (free entry (split ▸ member))).1 refused
      exact ⟨before, entry, rest, bounds, split, within, bounded, outside, rfl⟩
  | write refused =>
      obtain ⟨_, _, set⟩ := progress.setValue_eq wellFormed sorted rfl rfl
      rw [set] at refused
      cases refused

end Restoring

end DensityGraph
