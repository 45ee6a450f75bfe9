import DensityGraph.Proofs.Snapshot.Restoring
import DensityGraph.Proofs.Workspace.Reachable

/-!
# Restoring is all or nothing

In a workspace that is built by the operations every stored snapshot holds values of
free parameters, though not values within their bounds: ranges may have been set
since, and a stored workspace is not checked for it.  A restore that fails has not
written anything, and one that succeeds has written all values and nothing else.
-/

namespace DensityGraph

/-- The first entry in the order of names whose value lies outside bounds. -/
structure Table.FirstOutside (table : Table) (entries : List (String × Float)) (entry : String × Float) : Prop where
  member : entry ∈ entries
  outside : table.Outside entry
  first : ∀ other ∈ entries, table.Outside other → entry.1 ≤ other.1

theorem Table.FirstOutside.unique {table : Table} {entries : List (String × Float)} {entry other : String × Float}
    (sorted : NameMap.Sorted ⟨entries⟩) (first : table.FirstOutside entries entry)
    (again : table.FirstOutside entries other) : entry = other := by
  have sameName : entry.1 = other.1 :=
    String.le_antisymm (first.first other again.member again.outside) (again.first entry first.member first.outside)
  have found := sorted.get?_eq_some_iff.2 first.member
  rw [sameName, sorted.get?_eq_some_iff.2 again.member] at found
  exact Prod.ext sameName (Option.some.inj found).symm

namespace Snapshot

variable {table changed : Table} {snapshot : Snapshot} {e : ModelError}

/-- The values of a snapshot are those of free parameters, and it has one for each
of its names. -/
structure Kept (table : Table) (snapshot : Snapshot) : Prop where
  wellFormed : table.WellFormed
  free : ∀ entry ∈ snapshot.values.entries, table.IsFree entry.1
  sorted : snapshot.values.Sorted

theorem restore_eq_ok : snapshot.restore table = (.ok (), changed) ↔
    Restoring.Run (.start table snapshot) ⟨changed, [], []⟩ := by
  rw [← Restoring.outcome_start, Restoring.outcome_eq_ok]

theorem restore_eq_error : snapshot.restore table = (.error e, changed) ↔
    ∃ last, Restoring.Run (.start table snapshot) last ∧ last.Fails e ∧ last.table = changed := by
  rw [← Restoring.outcome_start, Restoring.outcome_eq_error]

namespace Kept

variable (kept : snapshot.Kept table)

include kept

theorem progress {m : Restoring} (run : Restoring.Run (.start table snapshot) m) :
    m.Progress table snapshot.values.entries :=
  run.progress (Restoring.progress_start table snapshot) kept.wellFormed kept.free kept.sorted

theorem unchanged_of_fails {last : Restoring} (run : Restoring.Run (.start table snapshot) last)
    (fails : last.Fails e) : last.table = table ∧ last.unwritten = snapshot.values.entries := by
  have progress := kept.progress run
  exact progress.unchanged (fails.first_outside progress kept.wellFormed kept.free kept.sorted).1

theorem restored (done : snapshot.restore table = (.ok (), changed)) :
    changed = table.given snapshot.values ∧ ∀ entry ∈ snapshot.values.entries, table.Within entry := by
  obtain ⟨⟨written, split, tableEq, _⟩, checked, splitToo, within⟩ := kept.progress (restore_eq_ok.1 done)
  rw [List.append_nil] at split splitToo
  rw [← split] at tableEq
  rw [← splitToo] at within
  exact ⟨tableEq, within⟩

/-- Every captured parameter holds its value within the same bounds. -/
theorem parameter_given {entry : String × Float} (member : entry ∈ snapshot.values.entries) {bounds : Bounds}
    (bounded : table.BoundedBy entry.1 bounds) :
    (table.given snapshot.values).parameter entry.1 = .ok ⟨entry.1, .free entry.2 bounds⟩ := by
  obtain ⟨old, found⟩ := bounded
  rw [Table.parameter_eq_ok] at found ⊢
  rw [Table.find?_given, found, Option.map_some, Node.given, kept.sorted.get?_eq_some_iff.2 member, Option.getD_some]

theorem firstOutside_of_fails {last : Restoring} (run : Restoring.Run (.start table snapshot) last)
    (fails : last.Fails e) : ∃ entry bounds, table.FirstOutside snapshot.values.entries entry ∧
      table.BoundedBy entry.1 bounds ∧ e = .outOfBounds entry.1 entry.2 bounds.lower bounds.upper := by
  obtain ⟨_, before, entry, after, bounds, split, within, bounded, outside, rfl⟩ :=
    fails.first_outside (kept.progress run) kept.wellFormed kept.free kept.sorted
  have sorted := kept.sorted
  rw [NameMap.Sorted, split, List.pairwise_append, List.pairwise_cons] at sorted
  obtain ⟨_, ⟨least, _⟩, _⟩ := sorted
  refine ⟨entry, bounds, ⟨?_, ⟨bounds, bounded, outside⟩, ?_⟩, bounded, rfl⟩
  · rw [split]
    exact List.mem_append_right _ List.mem_cons_self
  · intro other member otherOutside
    rw [split] at member
    rcases List.mem_append.mp member with earlier | here
    · exact absurd otherOutside (within other earlier).not_outside
    · rcases List.mem_cons.mp here with rfl | behind
      · exact String.le_refl _
      · exact Std.le_of_lt (least other behind)

/-- A restore that fails leaves the table as it was. -/
theorem unchanged_of_restore (failed : snapshot.restore table = (.error e, changed)) : changed = table := by
  obtain ⟨last, run, fails, rfl⟩ := restore_eq_error.1 failed
  exact (kept.unchanged_of_fails run fails).1

/-- A restore fails because of the first value outside bounds, and for no other
reason. -/
theorem restore_eq_outOfBounds : (snapshot.restore table).1 = .error e ↔
    ∃ entry bounds, table.FirstOutside snapshot.values.entries entry ∧ table.BoundedBy entry.1 bounds ∧
      e = .outOfBounds entry.1 entry.2 bounds.lower bounds.upper := by
  have reported : ∀ {e}, (snapshot.restore table).1 = .error e → ∃ entry bounds,
      table.FirstOutside snapshot.values.entries entry ∧ table.BoundedBy entry.1 bounds ∧
        e = .outOfBounds entry.1 entry.2 bounds.lower bounds.upper := by
    intro e failed
    obtain ⟨last, run, fails, _⟩ := restore_eq_error.1 (Prod.ext failed rfl)
    exact kept.firstOutside_of_fails run fails
  constructor
  · exact reported
  · rintro ⟨entry, bounds, first, bounded, rfl⟩
    cases restored : (snapshot.restore table).1 with
    | ok done =>
        have within := (kept.restored (Prod.ext restored rfl)).2 entry first.member
        exact absurd first.outside within.not_outside
    | error e =>
        obtain ⟨other, more, firstToo, boundedToo, rfl⟩ := reported restored
        obtain rfl := first.unique kept.sorted firstToo
        obtain rfl := bounded.unique boundedToo
        rfl

theorem exists_outOfBounds_iff :
    (∃ own value lower upper, (snapshot.restore table).1 = .error (.outOfBounds own value lower upper)) ↔
      ∃ entry ∈ snapshot.values.entries, table.Outside entry := by
  constructor
  · rintro ⟨own, value, lower, upper, failed⟩
    obtain ⟨entry, _, first, _⟩ := kept.restore_eq_outOfBounds.1 failed
    exact ⟨entry, first.member, first.outside⟩
  · rintro ⟨entry, member, outside⟩
    cases restored : (snapshot.restore table).1 with
    | ok done =>
        have within := (kept.restored (Prod.ext restored rfl)).2 entry member
        exact absurd outside within.not_outside
    | error e =>
        obtain ⟨_, _, _, _, rfl⟩ := kept.restore_eq_outOfBounds.1 restored
        exact ⟨_, _, _, _, rfl⟩

end Kept

end Snapshot

namespace Workspace

variable {w changed : Workspace} {name : String} {snapshot : Snapshot} {e : ModelError}

theorem Valid.kept (valid : w.Valid) (found : w.snapshots.get? name = some snapshot) : snapshot.Kept w.table := by
  have member := valid.snapshots_sorted.get?_eq_some_iff.1 found
  exact ⟨valid.coherent.toWellFormed, fun entry inside => ((valid.snapshots _ member).admits entry inside).1,
    valid.values_sorted _ member⟩

theorem restore_of_found (found : w.snapshots.get? name = some snapshot) :
    w.restore name = ((snapshot.restore w.table).1, { w with table := (snapshot.restore w.table).2 }) := by
  simp only [restore, Snapshots.restore, found]

theorem restore_eq_iff (found : w.snapshots.get? name = some snapshot) {result : Except ModelError Unit} :
    w.restore name = (result, changed) ↔
      ∃ table, snapshot.restore w.table = (result, table) ∧ changed = { w with table } := by
  rw [restore_of_found found]
  constructor
  · intro restored
    obtain ⟨rfl, rfl⟩ := Prod.mk.inj restored
    exact ⟨_, rfl, rfl⟩
  · rintro ⟨table, restored, rfl⟩
    rw [restored]

/-- Restoring a snapshot ends in one of two ways.  A read fails, and nothing has been
written: there is no such snapshot, or the error is about the first value, in the
order of names, that lies outside the current bounds of its parameter.  Or every
write succeeds: each captured parameter holds its value within its bounds, and
nothing else is changed. -/
theorem Reachable.restore_all_or_nothing (reachable : w.Reachable) (name : String) :
    (w.snapshots.get? name = none → w.restore name = (.error (.unknownSnapshot name), w)) ∧
    ∀ snapshot, w.snapshots.get? name = some snapshot →
      (∀ e left, w.restore name = (.error e, left) ↔ ∃ last, Restoring.Run (.start w.table snapshot) last ∧
        last.Fails e ∧ left = { w with table := last.table }) ∧
      (∀ changed, w.restore name = (.ok (), changed) ↔
        ∃ table, Restoring.Run (.start w.table snapshot) ⟨table, [], []⟩ ∧ changed = { w with table }) ∧
      (∀ last e, Restoring.Run (.start w.table snapshot) last → last.Fails e →
        last.table = w.table ∧ last.unwritten = snapshot.values.entries) ∧
      (∀ e left, w.restore name = (.error e, left) → left = w) ∧
      (∀ changed, w.restore name = (.ok (), changed) →
        changed = { w with table := w.table.given snapshot.values } ∧
        (∀ entry ∈ snapshot.values.entries, ∃ bounds, w.table.BoundedBy entry.1 bounds ∧
          bounds.contains entry.2 = true ∧
          changed.table.parameter entry.1 = .ok ⟨entry.1, .free entry.2 bounds⟩) ∧
        ∀ other, other ∉ snapshot.values.names → changed.table.find? other = w.table.find? other) ∧
      ((∃ own value lower upper, (w.restore name).1 = .error (.outOfBounds own value lower upper)) ↔
        ∃ entry ∈ snapshot.values.entries, w.table.Outside entry) ∧
      ∀ e, (w.restore name).1 = .error e ↔
        ∃ entry bounds, w.table.FirstOutside snapshot.values.entries entry ∧
          w.table.BoundedBy entry.1 bounds ∧ e = .outOfBounds entry.1 entry.2 bounds.lower bounds.upper := by
  constructor
  · intro absent
    simp only [Workspace.restore, Snapshots.restore, absent]
  intro snapshot found
  have kept := reachable.valid.kept found
  refine ⟨?_, ?_, fun last e run fails => kept.unchanged_of_fails run fails, ?_, ?_, ?_, ?_⟩
  · intro e left
    rw [restore_eq_iff found]
    constructor
    · rintro ⟨table, failed, rfl⟩
      obtain ⟨last, run, fails, rfl⟩ := Snapshot.restore_eq_error.1 failed
      exact ⟨last, run, fails, rfl⟩
    · rintro ⟨last, run, fails, rfl⟩
      exact ⟨last.table, Snapshot.restore_eq_error.2 ⟨last, run, fails, rfl⟩, rfl⟩
  · intro changed
    simp only [restore_eq_iff found, Snapshot.restore_eq_ok]
  · intro e left failed
    obtain ⟨table, failedToo, rfl⟩ := (restore_eq_iff found).1 failed
    obtain rfl := kept.unchanged_of_restore failedToo
    rfl
  · intro changed restored
    obtain ⟨table, done, rfl⟩ := (restore_eq_iff found).1 restored
    obtain ⟨rfl, within⟩ := kept.restored done
    refine ⟨rfl, ?_, fun other absent => Table.find?_given_of_notMem absent⟩
    intro entry member
    obtain ⟨bounds, bounded, included⟩ := within entry member
    exact ⟨bounds, bounded, included, kept.parameter_given member bounded⟩
  · simp only [restore_of_found found, kept.exists_outOfBounds_iff]
  · intro e
    rw [restore_of_found found, kept.restore_eq_outOfBounds]

/-- Three values are captured, and the ranges of two parameters are set to ones that
leave their values out. -/
def narrowed : Except ModelError (Workspace × Workspace × Workspace × Workspace) := do
  let (_, w) ← (new "w" ⟨0, 0, 0⟩).declare "Gaussian::g(x[-5,5],m[0,-1,1],s[1,0.1,2])"
  let captured ← w.saveSnapshot "k" ["s", "x", "m"] ⟨0, 0, 0⟩
  let lifted ← captured.setRange "s" 1.5 2
  let later ← lifted.setRange "m" 0.5 1
  return (w, captured, lifted, later)

/-- The violation that is reported is that of `m`, the first of two, and nothing has
been written then. -/
theorem restore_all_or_nothing_narrowed : ∃ (w : Workspace) (snapshot : Snapshot), w.Reachable ∧
    w.snapshots.get? "k" = some snapshot ∧ (∃ entry ∈ snapshot.values.entries, w.table.Outside entry) ∧
      w.restore "k" = (.error (.outOfBounds "m" 0 0.5 1), w) ∧
      ∃ last, Restoring.Run (.start w.table snapshot) last ∧ last.Fails (.outOfBounds "m" 0 0.5 1) ∧
        last.table = w.table := by
  have evaluated : narrowed.toOption.any (fun (_, _, _, later) => (later.snapshots.get? "k").isSome &&
      match (later.restore "k").1 with
      | .ok _ => false
      | .error e => decide (e = .outOfBounds "m" 0 0.5 1)) = true := by
    decide +kernel
  cases built : narrowed with
  | error e => simp [built, Except.toOption] at evaluated
  | ok result =>
      obtain ⟨w, captured, lifted, later⟩ := result
      simp only [built, Except.toOption, Option.any_some, Bool.and_eq_true, Option.isSome_iff_exists] at evaluated
      obtain ⟨⟨snapshot, found⟩, refused⟩ := evaluated
      simp only [narrowed, bind_eq_ok, pure_eq_ok] at built
      obtain ⟨_, done, _, saved, _, set, _, setToo, same⟩ := built
      cases same
      have reachable : later.Reachable :=
        .setRange (.setRange (.saveSnapshot (.declare (.new _ _) done) saved) set) setToo
      have failed : (later.restore "k").1 = .error (.outOfBounds "m" 0 0.5 1) := by
        split at refused
        · cases refused
        · rename_i e failed
          rw [failed, of_decide_eq_true refused]
      obtain ⟨_, restoring⟩ := Reachable.restore_all_or_nothing reachable "k"
      obtain ⟨failing, _, unwritten, unchanged, _, outside, _⟩ := restoring snapshot found
      obtain ⟨last, run, fails, _⟩ := (failing _ _).1 (Prod.ext failed rfl)
      have same : (later.restore "k").2 = later := unchanged _ _ (Prod.ext failed rfl)
      exact ⟨later, snapshot, reachable, found, outside.1 ⟨_, _, _, _, failed⟩, Prod.ext failed same, last, run,
        fails, (unwritten last _ run fails).1⟩

end Workspace

end DensityGraph
