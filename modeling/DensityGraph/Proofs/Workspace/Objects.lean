import DensityGraph.CommandLine.Output
import DensityGraph.Proofs.Workspace.Reachable

/-!
# Objects by name and in the listing

Nodes, sets, snapshots and data sets of a workspace have names apart from each
other, so one name can stand for several objects.  It is searched among the nodes
first, then among the sets, the snapshots and the data sets.
-/

namespace DensityGraph.Workspace

open CommandLine

variable {w : Workspace} {name : String} {object other : Object}

/-- An object stands under a name in the part of the workspace that is for its kind. -/
def Stores (w : Workspace) (name : String) : Object → Prop
  | .parameter p => .parameter p ∈ w.table.nodes ∧ p.name = name
  | .density d => .density d ∈ w.table.nodes ∧ d.name = name
  | .set members => (name, members) ∈ w.sets.entries
  | .snapshot snapshot => (name, snapshot) ∈ w.snapshots.entries
  | .dataset d => (name, d) ∈ w.datasets.entries

/-- The place of the kind of an object in the search. -/
def Object.rank : Object → Nat
  | parameter _ => 0
  | density _ => 0
  | set _ => 1
  | snapshot _ => 2
  | dataset _ => 3

theorem Valid.find?_eq_some_iff (valid : w.Valid) {node : Node} :
    w.table.find? name = some node ↔ node ∈ w.table.nodes ∧ node.name = name :=
  Table.find?_eq_some_iff valid.coherent.distinct

theorem Valid.stores_of_object? (valid : w.Valid) (found : w.object? name = some object) : w.Stores name object := by
  unfold object? at found
  split at found
  · rename_i p isParameter
    obtain rfl := Option.some.inj found
    exact valid.find?_eq_some_iff.mp isParameter
  · rename_i d isDensity
    obtain rfl := Option.some.inj found
    exact valid.find?_eq_some_iff.mp isDensity
  · split at found
    · rename_i members isSet
      obtain rfl := Option.some.inj found
      exact valid.sets_sorted.get?_eq_some_iff.mp isSet
    · split at found
      · rename_i snapshot isSnapshot
        obtain rfl := Option.some.inj found
        exact valid.snapshots_sorted.get?_eq_some_iff.mp isSnapshot
      · obtain ⟨d, isDataset, rfl⟩ := Option.map_eq_some_iff.mp found
        exact valid.datasets_sorted.get?_eq_some_iff.mp isDataset

/-- The search comes to nothing later than what is stored. -/
theorem Valid.object?_of_stores (valid : w.Valid) (stored : w.Stores name object) :
    ∃ found, w.object? name = some found ∧ found.rank ≤ object.rank := by
  unfold object?
  cases object with
  | parameter _ | density _ =>
      rw [valid.find?_eq_some_iff.mpr stored]
      exact ⟨_, rfl, Nat.le_refl _⟩
  | set members =>
      rw [valid.sets_sorted.get?_eq_some_iff.mpr stored]
      split
      · exact ⟨_, rfl, Nat.zero_le _⟩
      · exact ⟨_, rfl, Nat.zero_le _⟩
      · exact ⟨_, rfl, Nat.le_refl _⟩
  | snapshot snapshot =>
      rw [valid.snapshots_sorted.get?_eq_some_iff.mpr stored]
      split
      · exact ⟨_, rfl, Nat.zero_le _⟩
      · exact ⟨_, rfl, Nat.zero_le _⟩
      · split
        · exact ⟨_, rfl, by simp [Object.rank]⟩
        · exact ⟨_, rfl, Nat.le_refl _⟩
  | dataset d =>
      rw [valid.datasets_sorted.get?_eq_some_iff.mpr stored]
      split
      · exact ⟨_, rfl, Nat.zero_le _⟩
      · exact ⟨_, rfl, Nat.zero_le _⟩
      · split
        · exact ⟨_, rfl, by simp [Object.rank]⟩
        · split
          · exact ⟨_, rfl, by simp [Object.rank]⟩
          · exact ⟨_, rfl, Nat.le_refl _⟩

/-- Objects of kinds that are searched together are the same under one name. -/
theorem Valid.stores_unique (valid : w.Valid) (first : w.Stores name object) (second : w.Stores name other)
    (together : object.rank = other.rank) : object = other := by
  have sameNode {node node' : Node} (member : node ∈ w.table.nodes ∧ node.name = name)
      (member' : node' ∈ w.table.nodes ∧ node'.name = name) : node = node' := by
    rw [← valid.find?_eq_some_iff] at member member'
    exact Option.some.inj (member.symm.trans member')
  have sameEntry {α : Type} {map : NameMap α} {value value' : α} (sorted : map.Sorted)
      (member : (name, value) ∈ map.entries) (member' : (name, value') ∈ map.entries) : value = value' := by
    rw [← sorted.get?_eq_some_iff] at member member'
    exact Option.some.inj (member.symm.trans member')
  cases object <;> cases other
  case parameter.parameter => exact congrArg _ (Node.parameter.inj (sameNode first second))
  case parameter.density => cases sameNode first second
  case density.parameter => cases sameNode first second
  case density.density => exact congrArg _ (Node.density.inj (sameNode first second))
  case set.set => exact congrArg _ (sameEntry valid.sets_sorted first second)
  case snapshot.snapshot => exact congrArg _ (sameEntry valid.snapshots_sorted first second)
  case dataset.dataset => exact congrArg _ (sameEntry valid.datasets_sorted first second)
  -- no other two kinds are searched together
  all_goals simp [Object.rank] at together

/-- A name leads to what is stored under it and searched before all else that is. -/
theorem Valid.object?_eq_some_iff (valid : w.Valid) :
    w.object? name = some object ↔
      w.Stores name object ∧ ∀ other, w.Stores name other → object.rank ≤ other.rank := by
  constructor
  · intro found
    refine ⟨valid.stores_of_object? found, fun other stored => ?_⟩
    obtain ⟨_, foundToo, earlier⟩ := valid.object?_of_stores stored
    obtain rfl := Option.some.inj (found.symm.trans foundToo)
    exact earlier
  · rintro ⟨stored, first⟩
    obtain ⟨other, found, earlier⟩ := valid.object?_of_stores stored
    have storedToo := valid.stores_of_object? found
    rw [found, valid.stores_unique storedToo stored (Nat.le_antisymm earlier (first other storedToo))]

/-- The line of an object under its name. -/
def objectLine (w : Workspace) : String × Object → String
  | (_, .parameter p) => parameterLine w p
  | (_, .density d) => densityLine d
  | (name, .set members) => "  " ++ padded 16 name ++ " (" ++ joined ", " members ++ ")"
  | (name, .snapshot snapshot) => snapshotLine name snapshot
  | (_, .dataset d) => datasetLine d

/-- A line that is not a headline. -/
def Indented (line : String) : Prop := "  ".toList <+: line.toList

instance : DecidablePred Indented := fun _ => inferInstanceAs (Decidable (_ <+: _))

theorem indented_append (rest : String) : Indented ("  " ++ rest) := by
  rw [Indented, String.toList_append]
  exact List.prefix_append _ _

theorem indented_objectLine (entry : String × Object) : Indented (objectLine w entry) := by
  obtain ⟨name, object⟩ := entry
  cases object with
  | parameter p =>
      rw [objectLine, parameterLine]
      split
      all_goals
        simp only [String.append_assoc]
        exact indented_append _
  | density _ | set _ | snapshot _ | dataset _ =>
      simp only [objectLine, densityLine, snapshotLine, datasetLine, String.append_assoc]
      exact indented_append _

/-- The objects that have lines in the listing, in the order of these. -/
def listed (w : Workspace) : List (String × Object) :=
  (w.table.parameters.map fun p => (p.name, Object.parameter p)) ++
  (w.table.densities.map fun d => (d.name, Object.density d)) ++
  ((w.sets.entries.filter fun entry => !w.table.contains entry.1).map fun entry => (entry.1, Object.set entry.2)) ++
  (w.snapshots.entries.map fun entry => (entry.1, Object.snapshot entry.2)) ++
  (w.datasets.entries.map fun entry => (entry.1, Object.dataset entry.2))

theorem Valid.setLine?_eq (valid : w.Valid) {entry : String × List String} (member : entry ∈ w.sets.entries) :
    setLine? w entry.1 =
      if w.table.contains entry.1 then none else some (objectLine w (entry.1, .set entry.2)) := by
  have found : w.sets.get? entry.1 = some entry.2 := valid.sets_sorted.get?_eq_some_iff.mpr member
  rw [setLine?, object?, Table.contains]
  cases w.table.find? entry.1 with
  | some node => cases node <;> rfl
  | none => simp [found, objectLine]

theorem Valid.filterMap_setLine? (valid : w.Valid) :
    w.sets.names.filterMap (setLine? w) =
      (w.sets.entries.filter fun entry => !w.table.contains entry.1).map fun entry =>
        objectLine w (entry.1, .set entry.2) := by
  rw [NameMap.names, List.filterMap_map, ← List.filterMap_eq_map, List.filterMap_filter]
  refine List.filterMap_congr fun entry member => ?_
  rw [Function.comp_apply, valid.setLine?_eq member]
  cases w.table.contains entry.1 <;> rfl

/-- The blocks of the listing are made of the lines of the listed objects. -/
theorem filter_block {title : String} (headline : ¬ Indented title) (entries : List (String × Object)) :
    (block title (entries.map (objectLine w))).filter (Indented ·) = entries.map (objectLine w) := by
  have blank : ¬ Indented "" := by decide
  have all : ∀ line ∈ entries.map (objectLine w), decide (Indented line) = true := by
    rw [List.forall_mem_map]
    exact fun entry _ => decide_eq_true (indented_objectLine entry)
  rw [block, List.filter_cons_of_neg (by simpa using blank), List.filter_cons_of_neg (by simpa using headline),
    List.filter_eq_self.mpr all]

theorem filter_blockUnless {empty : Bool} {title : String} (headline : ¬ Indented title)
    {entries : List (String × Object)} (nothing : empty = true → entries = []) :
    (blockUnless empty title (entries.map (objectLine w))).filter (Indented ·) = entries.map (objectLine w) := by
  cases empty with
  | false => exact filter_block headline entries
  | true => rw [nothing rfl]; rfl

/-- The lines that are not headlines are those of the listed objects. -/
theorem Valid.filter_listing (valid : w.Valid) :
    (listing w).filter (Indented ·) = (listed w).map (objectLine w) := by
  have first (rest : String) : ¬ Indented ("workspace " ++ rest) := by
    rw [Indented, String.toList_append]
    rintro ⟨_, same⟩
    cases same
  have parameters : w.table.parameters.map (parameterLine w) =
      (w.table.parameters.map fun p => (p.name, Object.parameter p)).map (objectLine w) := by
    rw [List.map_map]; rfl
  have densities : w.table.densities.map densityLine =
      (w.table.densities.map fun d => (d.name, Object.density d)).map (objectLine w) := by
    rw [List.map_map]; rfl
  have sets : w.sets.names.filterMap (setLine? w) =
      ((w.sets.entries.filter fun entry => !w.table.contains entry.1).map fun entry =>
        (entry.1, Object.set entry.2)).map (objectLine w) := by
    rw [valid.filterMap_setLine?, List.map_map]; rfl
  have snapshots : (w.snapshots.entries.map fun entry => snapshotLine entry.1 entry.2) =
      (w.snapshots.entries.map fun entry => (entry.1, Object.snapshot entry.2)).map (objectLine w) := by
    rw [List.map_map]; rfl
  have datasets : w.datasets.values.map datasetLine =
      (w.datasets.entries.map fun entry => (entry.1, Object.dataset entry.2)).map (objectLine w) := by
    rw [NameMap.values, List.map_map, List.map_map]; rfl
  simp only [listing, parameters, densities, sets, snapshots, datasets, List.filter_append, String.append_assoc]
  rw [filter_block (by decide), filter_block (by decide), filter_blockUnless (by decide),
    filter_blockUnless (by decide), filter_blockUnless (by decide)]
  · simp [listed, first]
  all_goals
    intro empty
    simp [List.isEmpty_iff.mp empty]

/-- What tells the lines of the listing apart: a kind of objects and a name. -/
def lineKey (entry : String × Object) : String × String := (entry.2.kind, entry.1)

theorem keys_listed : (listed w).map lineKey =
    (w.table.parameters.map (·.name)).map (Prod.mk "parameter") ++
    (w.table.densities.map (·.name)).map (Prod.mk "pdf") ++
    (w.sets.names.filter fun name => !w.table.contains name).map (Prod.mk "set") ++
    w.snapshots.names.map (Prod.mk "snapshot") ++
    w.datasets.names.map (Prod.mk "dataset") := by
  simp only [listed, NameMap.names, List.map_append, List.map_map, List.filter_map]
  rfl

theorem count_keys (names : List String) (kind other : String) :
    (names.map (Prod.mk other)).count (kind, name) = if other = kind then names.count name else 0 := by
  split
  case isTrue same =>
    subst same
    exact List.count_map_of_injective _ _ (Prod.mk_right_injective _) _
  case isFalse different =>
    refine List.count_eq_zero.mpr fun member => ?_
    obtain ⟨_, _, same⟩ := List.mem_map.mp member
    exact different (Prod.mk.inj same).1

theorem mem_parameters {table : Table} {p : Parameter} : p ∈ table.parameters ↔ .parameter p ∈ table.nodes := by
  unfold Table.parameters
  rw [List.mem_filterMap]
  constructor
  · rintro ⟨node, member, isParameter⟩
    cases node with
    | parameter q =>
        obtain rfl := Option.some.inj isParameter
        exact member
    | density d => cases isParameter
  · exact fun member => ⟨_, member, rfl⟩

/-- The names of the nodes that a choice takes are different, as those of all nodes are. -/
theorem Valid.nodup_chosen {α : Type} (valid : w.Valid) {choose : Node → Option α} {nameOf : α → String}
    (named : ∀ node a, choose node = some a → nameOf a = node.name) :
    ((w.table.nodes.filterMap choose).map nameOf).Nodup := by
  refine List.pairwise_map.mpr (List.Pairwise.filterMap choose ?_ (List.pairwise_map.mp valid.coherent.distinct))
  intro node node' different a chosen a' chosen'
  rw [named node a chosen, named node' a' chosen']
  exact different

theorem Valid.count_listed (valid : w.Valid) (stored : w.Stores name object)
    (shown : object.kind = "set" → w.table.contains name = false) :
    ((listed w).map lineKey).count (object.kind, name) = 1 := by
  rw [keys_listed]
  simp only [List.count_append, count_keys]
  cases object with
  | parameter p =>
      have member : name ∈ w.table.parameters.map (·.name) :=
        List.mem_map.mpr ⟨p, mem_parameters.mpr stored.1, stored.2⟩
      have nodup : (w.table.parameters.map (·.name)).Nodup := by
        refine valid.nodup_chosen fun node p chosen => ?_
        cases node <;> cases chosen
        rfl
      simpa [Object.kind] using List.count_eq_one_of_mem nodup member
  | density d =>
      have member : name ∈ w.table.densities.map (·.name) :=
        List.mem_map.mpr ⟨d, mem_densities.mpr stored.1, stored.2⟩
      have nodup : (w.table.densities.map (·.name)).Nodup := by
        refine valid.nodup_chosen fun node d chosen => ?_
        cases node <;> cases chosen
        rfl
      simpa [Object.kind] using List.count_eq_one_of_mem nodup member
  | set members =>
      have member : name ∈ w.sets.names.filter fun name => !w.table.contains name :=
        List.mem_filter.mpr ⟨List.mem_map_of_mem stored, by simp [shown rfl]⟩
      have nodup := valid.sets_sorted.names_nodup.filter fun name => !w.table.contains name
      simpa [Object.kind] using List.count_eq_one_of_mem nodup member
  | snapshot snapshot =>
      have member : name ∈ w.snapshots.names := List.mem_map_of_mem stored
      simpa [Object.kind] using List.count_eq_one_of_mem valid.snapshots_sorted.names_nodup member
  | dataset d =>
      have member : name ∈ w.datasets.names := List.mem_map_of_mem stored
      simpa [Object.kind] using List.count_eq_one_of_mem valid.datasets_sorted.names_nodup member

theorem stores_of_listed {entry : String × Object} (member : entry ∈ listed w) : w.Stores entry.1 entry.2 := by
  simp only [listed, List.mem_append, List.mem_map] at member
  rcases member with (((⟨p, inside, rfl⟩ | ⟨d, inside, rfl⟩) | ⟨_, inside, rfl⟩) | ⟨_, inside, rfl⟩) |
    ⟨_, inside, rfl⟩
  · exact ⟨mem_parameters.mp inside, rfl⟩
  · exact ⟨mem_densities.mp inside, rfl⟩
  · exact (List.mem_filter.mp inside).1
  · exact inside
  · exact inside

/-- A name leads to the object that is searched first of those stored under it.  The
lines of the listing, apart from its headlines, are those of stored objects: of each
node, snapshot and data set one, and one of each set that no node has the name of. -/
theorem Reachable.addressable_and_listed (reachable : w.Reachable) :
    (∀ name object, w.object? name = some object ↔
      w.Stores name object ∧ ∀ other, w.Stores name other → object.rank ≤ other.rank) ∧
    ∃ objects : List (String × Object),
      (listing w).filter (Indented ·) = objects.map (objectLine w) ∧
      (∀ entry ∈ objects, w.Stores entry.1 entry.2) ∧
      ∀ name object, w.Stores name object → (object.kind = "set" → w.table.contains name = false) →
        (objects.map lineKey).count (object.kind, name) = 1 := by
  have valid := reachable.valid
  refine ⟨fun _ _ => valid.object?_eq_some_iff, listed w, valid.filter_listing, fun _ => stores_of_listed, ?_⟩
  exact fun _ _ stored shown => valid.count_listed stored shown

/-- A parameter with two sets of its own, one of which has its name. -/
def namesakes : Except ModelError Workspace := do
  let (_, w) ← (new "w" ⟨0, 0, 0⟩).declare "x[0,1]"
  let w ← w.defineSet "x" ["x"]
  w.defineSet "s" ["x"]

theorem reachable_namesakes (built : namesakes = .ok w) : w.Reachable := by
  simp only [namesakes, bind_eq_ok] at built
  obtain ⟨_, declared, _, defined, definedNext⟩ := built
  exact .defineSet (.defineSet (.declare (.new "w" ⟨0, 0, 0⟩) declared) defined) definedNext

/-- A parameter and a set are found under their names, and have one line each. -/
theorem addressable_and_listed_namesakes : ∃ w : Workspace, namesakes = .ok w ∧ w.Reachable ∧
    (∃ object, w.object? "s" = some object ∧ object.kind = "set" ∧ w.Stores "s" object ∧
      ∀ other, w.Stores "s" other → object.rank ≤ other.rank) ∧
    ∃ objects : List (String × Object), (listing w).filter (Indented ·) = objects.map (objectLine w) ∧
      (objects.map lineKey).count ("parameter", "x") = 1 ∧ (objects.map lineKey).count ("set", "s") = 1 := by
  have evaluated : namesakes.toOption.any (fun w => decide ((w.object? "s").map Object.kind = some "set") &&
      decide ((w.object? "x").map Object.kind = some "parameter") && !w.table.contains "s") = true := by
    decide +kernel
  cases built : namesakes with
  | error e => simp [built, Except.toOption] at evaluated
  | ok w =>
      simp only [built, Except.toOption, Option.any_some, Bool.and_eq_true, decide_eq_true_eq,
        Bool.not_eq_true'] at evaluated
      obtain ⟨⟨foundSet, foundParameter⟩, noNode⟩ := evaluated
      obtain ⟨set, foundSet, isSet⟩ := Option.map_eq_some_iff.mp foundSet
      obtain ⟨parameter, foundParameter, isParameter⟩ := Option.map_eq_some_iff.mp foundParameter
      have reachable := reachable_namesakes built
      obtain ⟨search, objects, lines, _, once⟩ := Reachable.addressable_and_listed reachable
      have storedSet := (search _ _).mp foundSet
      have storedParameter := ((search _ _).mp foundParameter).1
      refine ⟨w, rfl, reachable, ⟨set, foundSet, isSet, storedSet⟩, objects, lines, ?_, ?_⟩
      · simpa [isParameter] using once _ _ storedParameter
      · simpa [isSet, noNode] using once _ _ storedSet.1

/-- A set with the name of a parameter is neither found under its name nor listed. -/
theorem not_addressable_of_namesake : ∃ w : Workspace, w.Reachable ∧ w.Stores "x" (.set ["x"]) ∧
    (w.object? "x").map Object.kind = some "parameter" ∧ objectLine w ("x", .set ["x"]) ∉ listing w := by
  have evaluated : namesakes.toOption.any (fun w => decide (("x", ["x"]) ∈ w.sets.entries) &&
      decide ((w.object? "x").map Object.kind = some "parameter") &&
        decide (objectLine w ("x", .set ["x"]) ∉ listing w)) = true := by
    decide +kernel
  cases built : namesakes with
  | error e => simp [built, Except.toOption] at evaluated
  | ok w =>
      simp only [built, Except.toOption, Option.any_some, Bool.and_eq_true, decide_eq_true_eq] at evaluated
      obtain ⟨⟨stored, found⟩, unlisted⟩ := evaluated
      exact ⟨w, reachable_namesakes built, stored, found, unlisted⟩

end DensityGraph.Workspace
