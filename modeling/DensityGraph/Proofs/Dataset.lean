import DensityGraph.Dataset
import Mathlib.Data.List.Nodup

/-!
# Checked data sets

The check of a data set accepts it exactly when its columns are distinct and
every row holds one finite value for each of them.
-/

namespace DensityGraph.Dataset

/-- What the check of a data set asks for. -/
structure Rectangular (d : Dataset) : Prop where
  distinct : d.columns.Nodup
  width : ∀ row ∈ d.rows, row.length = d.columns.length
  finite : ∀ row ∈ d.rows, ∀ value ∈ row, value.isFinite = true

theorem firstRepeated_eq_none {seen names : List String} :
    firstRepeated seen names = none ↔ names.Nodup ∧ ∀ name ∈ names, name ∉ seen := by
  induction names generalizing seen with
  | nil => simp [firstRepeated]
  | cons name rest ih =>
      rw [firstRepeated]
      by_cases old : name ∈ seen
      · simp [old]
      · rw [if_neg (by simpa using old), ih, List.nodup_cons, List.forall_mem_cons]
        simp only [List.mem_cons, not_or]
        constructor
        · rintro ⟨distinct, new⟩
          exact ⟨⟨fun member => (new name member).1 rfl, distinct⟩, old,
            fun other member => (new other member).2⟩
        · rintro ⟨⟨single, distinct⟩, _, new⟩
          refine ⟨distinct, fun other member => ⟨?_, new other member⟩⟩
          rintro rfl
          exact single member

theorem checkRows_eq_ok {name : String} {width number : Nat} {rows : List (List Float)} :
    checkRows name width number rows = .ok () ↔
      ∀ row ∈ rows, row.length = width ∧ ∀ value ∈ row, value.isFinite = true := by
  induction rows generalizing number with
  | nil => simp [checkRows]
  | cons row rest ih =>
      rw [checkRows, List.forall_mem_cons, ← List.all_eq_true]
      by_cases fits : row.length = width
      · by_cases finite : row.all Float.isFinite = true
        · simp [fits, finite, ih]
        · simp [fits, finite]
      · simp [fits]

theorem check_eq_ok {d : Dataset} : d.check = .ok () ↔ d.Rectangular := by
  unfold check
  cases repeated : firstRepeated [] d.columns with
  | some name =>
      have notDistinct : ¬ d.columns.Nodup := by
        intro distinct
        have none := firstRepeated_eq_none.2 ⟨distinct, fun name _ => List.not_mem_nil (a := name)⟩
        rw [repeated] at none
        cases none
      simp only [reduceCtorEq, false_iff]
      exact fun rectangular => notDistinct rectangular.distinct
  | none =>
      simp only [checkRows_eq_ok]
      have distinct := (firstRepeated_eq_none.1 repeated).1
      constructor
      · exact fun rows => ⟨distinct, fun row member => (rows row member).1, fun row member => (rows row member).2⟩
      · exact fun ⟨_, width, finite⟩ row member => ⟨width row member, finite row member⟩

theorem Rectangular.rename {d : Dataset} (rectangular : d.Rectangular) (name : String) :
    (d.rename name).Rectangular :=
  ⟨rectangular.distinct, rectangular.width, rectangular.finite⟩

theorem rectangular_of_ofRows {name : String} {columns : List String} {rows : List (List Float)} {d : Dataset}
    (made : ofRows name columns rows = .ok d) : d.Rectangular := by
  unfold ofRows at made
  cases checked : Dataset.check ⟨name, columns, rows⟩ with
  | error e =>
      simp only [checked] at made
      cases made
  | ok =>
      simp only [checked] at made
      obtain rfl := Except.ok.inj made
      exact check_eq_ok.1 checked

end DensityGraph.Dataset
