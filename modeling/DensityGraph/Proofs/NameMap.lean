import DensityGraph.Name
import Mathlib.Data.List.Pairwise

/-!
# Maps in the order of their names

An insertion keeps the names of a map increasing.  A map is determined by the
list of its entries: made again from it, it is the same map.
-/

namespace DensityGraph.NameMap

variable {α : Type} {map : NameMap α} {entries : List (String × α)} {name : String} {value : α}

/-- The names of the entries increase. -/
def Sorted (map : NameMap α) : Prop :=
  map.entries.Pairwise fun first second => first.1 < second.1

theorem lt_of_not_lt {first second : String} (notLess : ¬ first < second) (different : second ≠ first) :
    second < first := by
  by_contra notGreater
  exact different (String.le_antisymm (String.not_lt.mp notLess) (String.not_lt.mp notGreater))

theorem sorted_empty : (empty : NameMap α).Sorted :=
  List.Pairwise.nil

/-- What is there after an insertion has been inserted or was there before. -/
theorem mem_insertEntry {entry : String × α} (member : entry ∈ insertEntry name value entries) :
    entry = (name, value) ∨ entry ∈ entries := by
  induction entries with
  | nil => exact .inl (List.mem_singleton.mp member)
  | cons first rest ih =>
      obtain ⟨key, old⟩ := first
      rw [insertEntry] at member
      split at member
      · exact List.mem_cons.mp member
      · split at member
        · rcases List.mem_cons.mp member with new | later
          · exact .inl new
          · exact .inr (List.mem_cons_of_mem _ later)
        · rcases List.mem_cons.mp member with here | later
          · exact .inr (here ▸ List.mem_cons_self)
          · exact (ih later).imp_right (List.mem_cons_of_mem _)

theorem forall_insert {holds : String × α → Prop} (old : ∀ entry ∈ map.entries, holds entry)
    (new : holds (name, value)) : ∀ entry ∈ (map.insert name value).entries, holds entry := by
  intro entry member
  rcases mem_insertEntry member with rfl | before
  · exact new
  · exact old entry before

theorem Sorted.insert (sorted : map.Sorted) (name : String) (value : α) : (map.insert name value).Sorted := by
  obtain ⟨entries⟩ := map
  change (insertEntry name value entries).Pairwise _
  replace sorted : entries.Pairwise _ := sorted
  induction entries with
  | nil => exact List.pairwise_singleton _ _
  | cons first rest ih =>
      obtain ⟨key, old⟩ := first
      obtain ⟨least, sortedRest⟩ := List.pairwise_cons.mp sorted
      rw [insertEntry]
      split
      · rename_i less
        refine List.pairwise_cons.mpr ⟨?_, sorted⟩
        rintro entry member
        rcases List.mem_cons.mp member with rfl | later
        · exact less
        · exact String.lt_trans less (least entry later)
      · split
        · rename_i same
          subst same
          exact List.pairwise_cons.mpr ⟨least, sortedRest⟩
        · rename_i notLess different
          refine List.pairwise_cons.mpr ⟨?_, ih sortedRest⟩
          intro entry member
          rcases mem_insertEntry member with rfl | later
          · exact lt_of_not_lt notLess different
          · exact least entry later

theorem mem_names_insert {own : String} : own ∈ (map.insert name value).names ↔ own = name ∨ own ∈ map.names := by
  obtain ⟨entries⟩ := map
  change own ∈ (insertEntry name value entries).map (·.1) ↔ own = name ∨ own ∈ entries.map (·.1)
  induction entries with
  | nil => simp [insertEntry]
  | cons first rest ih =>
      obtain ⟨key, old⟩ := first
      rw [insertEntry]
      split
      · simp
      · split
        · rename_i same
          simp [same]
        · simp only [List.map_cons, List.mem_cons, ih]
          exact or_left_comm

theorem get?_insert_self : (map.insert name value).get? name = some value := by
  obtain ⟨entries⟩ := map
  change (insertEntry name value entries).lookup name = some value
  induction entries with
  | nil => simp [insertEntry]
  | cons first rest ih =>
      obtain ⟨key, old⟩ := first
      rw [insertEntry]
      split
      · simp
      · split
        · simp
        · rename_i different
          rw [List.lookup_cons, beq_false_of_ne (Ne.symm different)]
          exact ih

theorem get?_insert_of_ne {own : String} (different : own ≠ name) :
    (map.insert name value).get? own = map.get? own := by
  obtain ⟨entries⟩ := map
  change (insertEntry name value entries).lookup own = entries.lookup own
  have skipped : (own == name) = false := beq_false_of_ne different
  induction entries with
  | nil => simp [insertEntry, List.lookup_cons, skipped]
  | cons first rest ih =>
      obtain ⟨key, old⟩ := first
      rw [insertEntry]
      split
      · simp only [List.lookup_cons, skipped]
      · split
        · rename_i same
          simp only [List.lookup_cons, same, skipped]
        · rw [List.lookup_cons, List.lookup_cons, ih]

theorem get?_insert_of_new {own : String} {old : α} (new : ¬ map.contains name = true)
    (found : map.get? own = some old) : (map.insert name value).get? own = some old := by
  rw [get?_insert_of_ne, found]
  rintro rfl
  exact new (by rw [contains, found, Option.isSome_some])

theorem contains_insert_self : (map.insert name value).contains name = true := by
  rw [contains, get?_insert_self, Option.isSome_some]

theorem contains_insert {own : String} (old : map.contains own = true) :
    (map.insert name value).contains own = true := by
  by_cases same : own = name
  · rw [same, contains_insert_self]
  · rwa [contains, get?_insert_of_ne same]

/-- A greatest name is inserted behind all others. -/
theorem insertEntry_greatest (greatest : ∀ entry ∈ entries, entry.1 < name) :
    insertEntry name value entries = entries ++ [(name, value)] := by
  induction entries with
  | nil => rfl
  | cons first rest ih =>
      rw [List.forall_mem_cons] at greatest
      obtain ⟨less, others⟩ := greatest
      have notLess : ¬ name < first.1 := fun more => String.lt_irrefl _ (String.lt_trans less more)
      have different : first.1 ≠ name := by
        rintro same
        exact String.lt_irrefl _ (same ▸ less)
      rw [insertEntry, if_neg notLess, if_neg different, ih others, List.cons_append]

theorem foldl_insert (before : List (String × α)) (sorted : Sorted ⟨before ++ entries⟩) :
    entries.foldl (fun (map : NameMap α) entry => map.insert entry.1 entry.2) ⟨before⟩ =
      ⟨before ++ entries⟩ := by
  induction entries generalizing before with
  | nil => simp
  | cons first rest ih =>
      have greatest : ∀ entry ∈ before, entry.1 < first.1 := by
        intro entry member
        exact (List.pairwise_append.mp sorted).2.2 entry member first List.mem_cons_self
      rw [List.foldl_cons, insert, insertEntry_greatest greatest, ih]
      · rw [List.append_assoc, List.singleton_append]
      · rw [List.append_assoc, List.singleton_append]
        exact sorted

/-- A map is the map of its entries. -/
theorem Sorted.ofList_entries (sorted : map.Sorted) : ofList map.entries = map := by
  obtain ⟨entries⟩ := map
  exact foldl_insert [] sorted

theorem sorted_ofList (entries : List (String × α)) : (ofList entries).Sorted := by
  have folded : ∀ {map : NameMap α}, map.Sorted →
      (entries.foldl (fun map entry => map.insert entry.1 entry.2) map).Sorted := by
    induction entries with
    | nil => exact fun sorted => sorted
    | cons first rest ih => exact fun sorted => ih (sorted.insert first.1 first.2)
  exact folded sorted_empty

/-- The map of a list has no entries but those of the list. -/
theorem forall_ofList {holds : String × α → Prop} (each : ∀ entry ∈ entries, holds entry) :
    ∀ entry ∈ (ofList entries).entries, holds entry := by
  have folded : ∀ {map : NameMap α}, (∀ entry ∈ map.entries, holds entry) →
      ∀ entry ∈ (entries.foldl (fun map entry => map.insert entry.1 entry.2) map).entries, holds entry := by
    induction entries with
    | nil => exact fun old => old
    | cons first rest ih =>
        rw [List.forall_mem_cons] at each
        exact fun old => ih each.2 (forall_insert old each.1)
  exact folded (List.forall_mem_nil _)

theorem Sorted.names_nodup (sorted : map.Sorted) : map.names.Nodup :=
  List.pairwise_map.mpr (sorted.imp fun less => String.ne_of_lt less)

/-- The value of a name is that of the only entry of this name. -/
theorem Sorted.get?_eq_some_iff (sorted : map.Sorted) :
    map.get? name = some value ↔ (name, value) ∈ map.entries := by
  obtain ⟨entries⟩ := map
  change entries.lookup name = some value ↔ (name, value) ∈ entries
  replace sorted : entries.Pairwise _ := sorted
  induction entries with
  | nil => simp
  | cons first rest ih =>
      obtain ⟨key, old⟩ := first
      obtain ⟨least, sortedRest⟩ := List.pairwise_cons.mp sorted
      rw [List.lookup_cons, List.mem_cons]
      by_cases same : name = key
      · subst same
        have absent : (name, value) ∉ rest := fun later => String.lt_irrefl name (least (name, value) later)
        simp [absent, eq_comm]
      · rw [beq_false_of_ne same]
        simp [same, ih sortedRest]

end DensityGraph.NameMap
