import DensityGraph.Proofs.Workspace.Reachable

/-!
# The views of a data set

A data set is seen cell by cell, row by row, as records and as columns.  All these
views agree as soon as the columns have different names and every row is as wide as
the columns are many, and every way to a data set leads to such a one.
-/

namespace DensityGraph.Dataset

open DensityGraph.Random (Stream)

variable {d : Dataset} {number place : Nat} {name : String}

/-- The columns have different names, and every row has one value for each. -/
structure Aligned (d : Dataset) : Prop where
  distinct : d.columns.Nodup
  width : ∀ row ∈ d.rows, row.length = d.columns.length

theorem Rectangular.aligned (rectangular : d.Rectangular) : d.Aligned :=
  ⟨rectangular.distinct, rectangular.width⟩

/-- What the views of a data set show of a variable in an observation. -/
structure ViewsAgree (d : Dataset) (number : Nat) (name : String) : Prop where
  /-- the entry of the variable in the record of the observation -/
  record : ((d.record? number).bind fun record => record.lookup name) = d.get? number name
  /-- the entry of the observation in the column of the variable -/
  column : ((d.column? name).bind fun column => column[number]?) = d.get? number name
  /-- the entry of the row of the observation at the place of the variable -/
  row : ((d.row? number).bind fun row => (d.columns.idxOf? name).bind fun place => row[place]?) =
    d.get? number name
  absent : d.get? number name = none ↔ d.size ≤ number ∨ name ∉ d.columns
  known : name ∈ d.columns → ∃ column, d.column? name = some column ∧ column.length = d.size
  unknown : name ∉ d.columns → d.column? name = none
  /-- the place of a variable lies within every row -/
  inside : ∀ place, d.columns.idxOf? name = some place → ∀ row ∈ d.rows, place < row.length

/-- A data set that is made of rows, generated from any table, renamed, or held by a
workspace that is read from a text or a file. -/
inductive Obtained : Dataset → Prop where
  | ofRows {name : String} {columns : List String} {rows : List (List Float)} {d : Dataset}
      (made : ofRows name columns rows = .ok d) : Obtained d
  | generate {table : Table} {density : String} {observables : List String} {count : Nat}
      {config : Sampling.Config} {stream rest : Stream} {d : Dataset}
      (made : Sampling.generate table density observables count config stream = .ok (d, rest)) : Obtained d
  | rename {d : Dataset} (before : Obtained d) (name : String) : Obtained (d.rename name)
  | ofText {w : Workspace} {text key : String} {d : Dataset} (read : Workspace.ofText text = .ok w)
      (held : (key, d) ∈ w.datasets.entries) : Obtained d
  | load {w : Workspace} {directory : Directory} {path key : String} {d : Dataset}
      (read : Workspace.load directory path = .ok w) (held : (key, d) ∈ w.datasets.entries) : Obtained d

theorem aligned_of_generate {table : Table} {density : String} {observables : List String} {count : Nat}
    {config : Sampling.Config} {stream rest : Stream}
    (made : Sampling.generate table density observables count config stream = .ok (d, rest)) : d.Aligned := by
  obtain ⟨rfl, distinct, _, width⟩ := Sampling.shape_of_generate made
  exact ⟨distinct, width⟩

theorem Obtained.aligned (obtained : d.Obtained) : d.Aligned := by
  induction obtained with
  | ofRows made => exact (rectangular_of_ofRows made).aligned
  | generate made => exact aligned_of_generate made
  | rename _ name ih => exact ⟨ih.distinct, ih.width⟩
  | ofText read held => exact ((Workspace.valid_of_ofText read).datasets _ held).rectangular.aligned
  | load read held => exact ((Workspace.valid_of_load read).datasets _ held).rectangular.aligned

/-- Under different names a record holds the values of its row, each at the place of its variable. -/
theorem lookup_record {columns : List String} {row : List Float} (distinct : columns.Nodup)
    (width : row.length = columns.length) :
    (columns.zip row).reverse.lookup name = (columns.idxOf? name).bind fun place => row[place]? := by
  induction columns generalizing row with
  | nil => rfl
  | cons first others ih =>
      obtain ⟨new, distinctOthers⟩ := List.nodup_cons.mp distinct
      cases row with
      | nil => cases width
      | cons value values =>
          have widthOthers : values.length = others.length := by simpa using width
          rw [List.zip_cons_cons, List.reverse_cons, List.lookup_append, ih distinctOthers widthOthers,
            List.idxOf?_cons]
          by_cases same : first = name
          · subst same
            simp [List.idxOf?_eq_none_iff.2 new]
          · have skipped : (name == first) = false := beq_false_of_ne (Ne.symm same)
            rw [if_neg (by simpa using same)]
            cases others.idxOf? name <;> simp [List.lookup_cons, skipped]

theorem exists_mapM {α β : Type} (f : α → Option β) (list : List α) (total : ∀ a ∈ list, ∃ b, f a = some b) :
    ∃ results, list.mapM f = some results ∧ results.length = list.length ∧
      ∀ number : Nat, results[number]? = list[number]?.bind f := by
  induction list with
  | nil => exact ⟨[], rfl, rfl, fun _ => rfl⟩
  | cons first rest ih =>
      rw [List.forall_mem_cons] at total
      obtain ⟨b, found⟩ := total.1
      obtain ⟨results, mapped, length, entries⟩ := ih total.2
      refine ⟨b :: results, by simp [found, mapped], by rw [List.length_cons, List.length_cons, length], ?_⟩
      intro number
      cases number with
      | zero => simp [found]
      | succ number => simpa using entries number

theorem Aligned.inside (aligned : d.Aligned) (placed : d.columns.idxOf? name = some place) {row : List Float}
    (member : row ∈ d.rows) : place < row.length := by
  obtain ⟨inside, _, _⟩ := List.idxOf?_eq_some_iff.mp placed
  rw [aligned.width row member]
  exact inside

/-- The column of a variable holds the value of each row at the place of the variable. -/
theorem Aligned.column (aligned : d.Aligned) (placed : d.columns.idxOf? name = some place) :
    ∃ column, d.column? name = some column ∧ column.length = d.size ∧
      ∀ number, column[number]? = (d.row? number).bind fun row => row[place]? := by
  simp only [column?, placed]
  apply exists_mapM
  intro row member
  exact ⟨_, List.getElem?_eq_getElem (aligned.inside placed member)⟩

theorem get?_eq_bind :
    d.get? number name = (d.row? number).bind fun row => (d.columns.idxOf? name).bind fun place => row[place]? := by
  unfold get?
  cases d.columns.idxOf? name <;> cases d.row? number <;> rfl

theorem row?_eq_none_iff : d.row? number = none ↔ d.size ≤ number :=
  List.getElem?_eq_none_iff

theorem mem_of_row? {row : List Float} (found : d.row? number = some row) : row ∈ d.rows :=
  List.mem_of_getElem? found

theorem Aligned.record (aligned : d.Aligned) :
    ((d.record? number).bind fun record => record.lookup name) = d.get? number name := by
  rw [get?_eq_bind, record?]
  cases found : d.row? number with
  | none => rfl
  | some row => exact lookup_record aligned.distinct (aligned.width row (mem_of_row? found))

theorem Aligned.viewsAgree (aligned : d.Aligned) (number : Nat) (name : String) : d.ViewsAgree number name := by
  cases placed : d.columns.idxOf? name with
  | none =>
      have unknown : name ∉ d.columns := List.idxOf?_eq_none_iff.1 placed
      have absent : d.get? number name = none := by simp [get?, placed]
      have noColumn : d.column? name = none := by simp [column?, placed]
      constructor
      case record => exact aligned.record
      case column => rw [noColumn, absent]; rfl
      case row => exact get?_eq_bind.symm
      case absent => simp [absent, unknown]
      case known => exact fun member => absurd member unknown
      case unknown => exact fun _ => noColumn
      case inside => simp [placed]
  | some place =>
      have known : name ∈ d.columns := by
        rw [← List.isSome_idxOf?, placed]
        rfl
      obtain ⟨column, columnEq, length, entries⟩ := aligned.column placed
      have cell : d.get? number name = (d.row? number).bind fun row => row[place]? := by
        rw [get?_eq_bind, placed]
        rfl
      constructor
      case record => exact aligned.record
      case column => rw [columnEq, cell]; exact entries number
      case row => exact get?_eq_bind.symm
      case absent =>
        rw [cell, ← row?_eq_none_iff]
        cases found : d.row? number with
        | none => simp
        | some row => simpa [known] using aligned.inside placed (mem_of_row? found)
      case known => exact fun _ => ⟨column, columnEq, length⟩
      case unknown => exact fun new => absurd known new
      case inside =>
        intro other placedToo row member
        exact aligned.inside placedToo member

theorem ofRows_eq_ok {columns : List String} {rows : List (List Float)} :
    ofRows name columns rows = .ok d ↔ d = ⟨name, columns, rows⟩ ∧ d.Rectangular := by
  simp only [ofRows, map_eq_ok, exists_unit, check_eq_ok]
  constructor
  · rintro ⟨rectangular, rfl⟩
    exact ⟨rfl, rectangular⟩
  · rintro ⟨rfl, rectangular⟩
    exact ⟨rectangular, rfl⟩

/-- All views of a data set agree, from wherever it comes, and a data set is made of
rows exactly if the columns have different names and every row holds one finite
value for each of them. -/
theorem views_agree :
    (∀ d : Dataset, d.Obtained → ∀ number name, d.ViewsAgree number name) ∧
      ∀ name columns rows d, ofRows name columns rows = .ok d ↔ d = ⟨name, columns, rows⟩ ∧ columns.Nodup ∧
        ∀ row ∈ rows, row.length = columns.length ∧ ∀ value ∈ row, value.isFinite = true := by
  constructor
  · exact fun d obtained number name => obtained.aligned.viewsAgree number name
  · intro name columns rows d
    rw [ofRows_eq_ok]
    apply and_congr_right
    rintro rfl
    constructor
    · exact fun ⟨distinct, width, finite⟩ => ⟨distinct, fun row member => ⟨width row member, finite row member⟩⟩
    · exact fun ⟨distinct, rows⟩ =>
        ⟨distinct, fun row member => (rows row member).1, fun row member => (rows row member).2⟩

/-- The text of a workspace that holds two observations of two variables. -/
def twoObservations : String :=
  "\x7b\"name\":\"w\",\"created_at\":\"1970-01-01T00:00:00Z\",\"symbols\":[],\"sets\":\x7b\x7d," ++
    "\"snapshots\":\x7b\x7d,\"datasets\":\x7b\"d\":\x7b\"name\":\"d\",\"variables\":[\"x\",\"res\"]," ++
    "\"rows\":[[0.5,1],[-1,0.25]]\x7d\x7d\x7d"

/-- A value of a data set that is read from a text and renamed, in all views; rows of
which one is too short make no data set. -/
theorem views_agree_twoObservations :
    ∃ w d, Workspace.ofText twoObservations = .ok w ∧ ("d", d) ∈ w.datasets.entries ∧
      Obtained (d.rename "sample") ∧ (d.rename "sample").get? 1 "res" = some 0.25 ∧
      (((d.rename "sample").record? 1).bind fun record => record.lookup "res") = some 0.25 ∧
      (((d.rename "sample").column? "res").bind fun column => column[1]?) = some 0.25 ∧
      ¬ ∃ short, ofRows "d" ["x", "res"] [[0.5, 1], [-1]] = .ok short := by
  let d : Dataset := ⟨"d", ["x", "res"], [[0.5, 1], [-1, 0.25]]⟩
  obtain ⟨w, read, tested⟩ := @exists_ok_of_any _ _ (Workspace.ofText twoObservations)
    (fun w => decide (w.datasets.entries = [("d", d)])) (by decide +kernel)
  have held : ("d", d) ∈ w.datasets.entries := by
    rw [of_decide_eq_true tested]
    exact List.mem_cons_self
  obtain ⟨agree, made⟩ := views_agree
  have obtained := (Obtained.ofText read held).rename "sample"
  have views := agree _ obtained 1 "res"
  refine ⟨w, d, read, held, obtained, by decide +kernel, views.record.trans (by decide +kernel),
    views.column.trans (by decide +kernel), ?_⟩
  rintro ⟨short, madeOfRows⟩
  obtain ⟨_, _, rows⟩ := (made _ _ _ _).1 madeOfRows
  have tooShort := (rows [-1] (by simp)).1
  cases tooShort

end DensityGraph.Dataset
