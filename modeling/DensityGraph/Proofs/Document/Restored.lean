import DensityGraph.Proofs.Document.Model
import DensityGraph.Proofs.Document.Workspace
import DensityGraph.Proofs.Json.Value

/-!
# Documents that are read back

The value that is written for a model or for a workspace is decoded as the same
model or workspace, if it is valid.
-/

namespace DensityGraph

open Json.Decode (record required tagged wordOf? wordOrPlaceOf? float_ofFloat list_ofStrings list_map map_map)

theorem Bounds.ofJson_toJson {bounds : Bounds} (valid : bounds.valid = true) : ofJson bounds.toJson = .ok bounds := by
  obtain ⟨lower, upper, _⟩ := valid_iff.1 valid
  simp [ofJson, toJson, record, Json.Decode.fields, float_ofFloat lower, float_ofFloat upper, required, ok_bind]

theorem Formula.ofJson_toJson {formula : Formula}
    (compiled : compile formula.source formula.dependencies = .ok formula) : ofJson formula.toJson = .ok formula := by
  simp [ofJson, toJson, record, Json.Decode.fields, list_ofStrings, Json.Decode.string, Json.Decode.required, compiled,
    ok_bind, Except.mapError]

theorem Parameter.Kind.ofJson_toJson {p : Parameter} (sound : p.Sound) (compiled : p.Compiled) :
    ofJson p.kind.toJson = .ok p.kind := by
  obtain ⟨name, kind⟩ := p
  cases kind with
  | free value bounds =>
      obtain ⟨valid, admitted⟩ := sound value bounds rfl
      have finite := (admits_iff.1 admitted).1
      simp [ofJson, toJson, tagged, wordOrPlaceOf?, wordOf?, freeOfJson, record, Json.Decode.fields, float_ofFloat finite,
        Bounds.ofJson_toJson valid, required, ok_bind]
  | derived formula =>
      have formulaRead := Formula.ofJson_toJson (compiled formula rfl)
      simp [ofJson, toJson, tagged, wordOrPlaceOf?, wordOf?, derivedOfJson, record, Json.Decode.fields, formulaRead, required,
        ok_bind]

theorem Branch.ofJson_toJson (branch : Branch) : ofJson branch.toJson = .ok branch := by
  simp [ofJson, toJson, record, Json.Decode.fields, Json.Decode.string, required, ok_bind]

theorem Density.Kind.ofJson_toJson (kind : Density.Kind) : ofJson kind.toJson = .ok kind := by
  cases kind with
  | gaussian x mean sigma =>
      simp [ofJson, toJson, tagged, wordOrPlaceOf?, wordOf?, gaussianOfJson, record, Json.Decode.fields, Json.Decode.string,
        required, ok_bind]
  | uniform parameters =>
      simp [ofJson, toJson, tagged, wordOrPlaceOf?, wordOf?, namesOfJson, record, Json.Decode.fields, list_ofStrings,
        required, ok_bind]
  | product factors =>
      simp [ofJson, toJson, tagged, wordOrPlaceOf?, wordOf?, namesOfJson, record, Json.Decode.fields, list_ofStrings,
        required, ok_bind]
  | mixture branches remainder =>
      have branchesRead : Json.Decode.list Branch.ofJson (.array (branches.map Branch.toJson)) = .ok branches :=
        list_map fun branch _ => Branch.ofJson_toJson branch
      simp [ofJson, toJson, tagged, wordOrPlaceOf?, wordOf?, mixtureOfJson, record, Json.Decode.fields, branchesRead,
        Json.Decode.string, required, ok_bind]
  | conditionalJoint shared marginal conditionals =>
      simp [ofJson, toJson, tagged, wordOrPlaceOf?, wordOf?, conditionalOfJson, record, Json.Decode.fields, list_ofStrings,
        Json.Decode.string, required, ok_bind]

theorem namedOfJson_toJson {α β : Type} {kind : Json.Decoder α} {held : α} {value : Json}
    (make : String → α → β) (name : String) (kindRead : kind value = .ok held) :
    namedOfJson kind make (.object [("name", .string name), ("kind", value)]) = .ok (make name held) := by
  simp [namedOfJson, record, Json.Decode.fields, Json.Decode.string, kindRead, required, ok_bind]

theorem Node.nesting_toJson (node : Node) : node.toJson.nesting ≤ 4 := by
  cases node with
  | parameter p =>
      obtain ⟨name, kind⟩ := p
      cases kind with
      | free value bounds =>
          simp [toJson, Parameter.fields, Parameter.Kind.toJson, Bounds.toJson, Json.nesting, Json.nestingOfFields,
            Json.ofFloat]
      | derived formula =>
          simp [toJson, Parameter.fields, Parameter.Kind.toJson, Formula.toJson, Json.nesting,
            Json.nestingOfFields, Json.nesting_ofStrings]
  | density d =>
      obtain ⟨name, kind⟩ := d
      cases kind with
      | mixture branches remainder =>
          have flat : Json.nestingOfItems (branches.map Branch.toJson) ≤ 1 := by
            rw [Json.nestingOfItems_le, List.forall_mem_map]
            intro branch _
            simp [Branch.toJson, Json.nesting, Json.nestingOfFields]
          simp [toJson, Density.fields, Density.Kind.toJson, Json.nesting, Json.nestingOfFields]
          omega
      | _ =>
          simp [toJson, Density.fields, Density.Kind.toJson, Json.nesting, Json.nestingOfFields,
            Json.nesting_ofStrings]

theorem Node.sound_toJson {node : Node} (sound : node.Sound) : node.toJson.sound Json.Number.inRange = true := by
  cases node with
  | parameter p =>
      obtain ⟨name, kind⟩ := p
      cases kind with
      | free value bounds =>
          obtain ⟨valid, admitted⟩ := sound value bounds rfl
          have finite := (Parameter.admits_iff.1 admitted).1
          obtain ⟨lower, upper, _⟩ := Bounds.valid_iff.1 valid
          simp [toJson, Parameter.fields, Parameter.Kind.toJson, Bounds.toJson, Json.sound, Json.soundFields,
            Json.ofFloat, Json.Number.inRange, finite, lower, upper]
      | derived formula =>
          simp [toJson, Parameter.fields, Parameter.Kind.toJson, Formula.toJson, Json.sound, Json.soundFields,
            Json.sound_ofStrings]
  | density d =>
      obtain ⟨name, kind⟩ := d
      cases kind with
      | mixture branches remainder =>
          have branchesSound : Json.soundItems Json.Number.inRange (branches.map Branch.toJson) = true := by
            rw [Json.soundItems_eq_true, List.forall_mem_map]
            intro branch _
            simp [Branch.toJson, Json.sound, Json.soundFields]
          simp [toJson, Density.fields, Density.Kind.toJson, Json.sound, Json.soundFields, branchesSound]
      | _ =>
          simp [toJson, Density.fields, Density.Kind.toJson, Json.sound, Json.soundFields, Json.sound_ofStrings]

theorem Node.ofJson_toJson {depth : Nat} {node : Node} (shallow : depth ≤ 2) (sound : node.Sound)
    (compiled : ∀ p, node = .parameter p → p.Compiled) : ofJson depth node.toJson = .ok node := by
  have whole : Json.isWhole depth node.toJson = true := by
    have nesting := node.nesting_toJson
    rw [Json.isWhole, sound_toJson sound, Bool.true_and, decide_eq_true_eq, Json.maxNesting]
    omega
  cases node with
  | parameter p =>
      have kindRead := Parameter.Kind.ofJson_toJson sound (compiled p rfl)
      have parameterRead := namedOfJson_toJson Parameter.mk p.name kindRead
      have partsRead : tagged "node" (wordOf? ["parameter", "pdf"]) (toJson (.parameter p)) =
          .ok ("parameter", .object p.fields) := by
        simp [toJson, Parameter.fields, tagged, wordOf?]
      simp [ofJson, whole, partsRead, Parameter.fields, Parameter.ofJson, parameterRead, ok_bind]
  | density d =>
      have densityRead := namedOfJson_toJson Density.mk d.name (Density.Kind.ofJson_toJson d.kind)
      have partsRead : tagged "node" (wordOf? ["parameter", "pdf"]) (toJson (.density d)) =
          .ok ("pdf", .object d.fields) := by
        simp [toJson, Density.fields, tagged, wordOf?]
      simp [ofJson, whole, partsRead, Density.fields, Density.ofJson, densityRead, ok_bind]

/-- A table that is well-formed, with formulas compiled from their own texts, is
read back. -/
theorem Table.ofJson_toJson {depth : Nat} {table : Table} (shallow : depth ≤ 1) (wellFormed : table.WellFormed)
    (compiled : ∀ p, .parameter p ∈ table.nodes → p.Compiled) : ofJson depth table.toJson = .ok table := by
  have nodesRead : Json.Decode.list (Node.ofJson (depth + 1)) table.toJson = .ok table.nodes := by
    apply list_map
    intro node member
    apply Node.ofJson_toJson (by omega) (wellFormed.sound node member)
    rintro p rfl
    exact compiled p member
  have accepted : ofNodes table.nodes = .ok table := ofNodes_eq_ok.2 ⟨rfl, wellFormed⟩
  simp [ofJson, nodesRead, accepted, ok_bind, Except.mapError]

theorem Table.sound_toJson {table : Table} (wellFormed : table.WellFormed) :
    table.toJson.sound Json.Number.inRange = true := by
  rw [toJson, Json.sound, Json.soundItems_eq_true, List.forall_mem_map]
  exact fun node member => Node.sound_toJson (wellFormed.sound node member)

theorem NameMap.ofJson_toJson {α : Type} {item : Json.Decoder α} (write : α → Json) {map : NameMap α}
    (sorted : map.Sorted) (each : ∀ entry ∈ map.entries, item (write entry.2) = .ok entry.2) :
    ofJson item (map.toJson write) = .ok map := by
  have entriesRead := map_map write each
  simp [ofJson, toJson, entriesRead, sorted.ofList_entries]

theorem NameMap.sound_toJson {α : Type} {number? : Json.Number → Bool} {write : α → Json} {map : NameMap α}
    (each : ∀ entry ∈ map.entries, (write entry.2).sound number? = true) :
    (map.toJson write).sound number? = true := by
  rw [toJson, Json.sound, Json.soundFields_eq_true, List.forall_mem_map]
  exact each

/-- A moment is read back from what is written for it. -/
def Timestamp.ReadsBack (t : Timestamp) : Prop := parse? t.text = some t

instance (t : Timestamp) : Decidable t.ReadsBack := inferInstanceAs (Decidable (_ = _))

theorem Timestamp.ofJson_toJson {t : Timestamp} (readsBack : t.ReadsBack) : ofJson t.toJson = .ok t := by
  rw [Timestamp.ReadsBack] at readsBack
  simp [ofJson, toJson, Json.Decode.string, readsBack, required, ok_bind]

theorem Snapshot.ofJson_toJson {snapshot : Snapshot} (sorted : snapshot.values.Sorted)
    (finite : ∀ entry ∈ snapshot.values.entries, entry.2.isFinite = true) (readsBack : snapshot.takenAt.ReadsBack) :
    ofJson snapshot.toJson = .ok snapshot := by
  have valuesRead := NameMap.ofJson_toJson .ofFloat sorted
    fun entry member => float_ofFloat (finite entry member)
  simp [ofJson, toJson, record, Json.Decode.fields, Json.Decode.string, valuesRead,
    Timestamp.ofJson_toJson readsBack, required, ok_bind]

theorem Dataset.ofJson_toJson {d : Dataset} (rectangular : d.Rectangular) : ofJson d.toJson = .ok d := by
  have rowsRead : Json.Decode.list (Json.Decode.list Json.Decode.float)
      (.array (d.rows.map fun row => .array (row.map .ofFloat))) = .ok d.rows := by
    apply list_map
    intro row member
    apply list_map
    exact fun value inside => float_ofFloat (rectangular.finite row member value inside)
  simp [ofJson, toJson, record, Json.Decode.fields, Json.Decode.string, list_ofStrings, rowsRead, required, ok_bind]

theorem Json.sound_ofFloat {x : Float} (finite : x.isFinite = true) : (ofFloat x).sound Number.inRange = true :=
  finite

theorem Dataset.sound_toJson {d : Dataset} (rectangular : d.Rectangular) :
    d.toJson.sound Json.Number.inRange = true := by
  have rowsSound : Json.soundItems Json.Number.inRange
      (d.rows.map fun row => .array (row.map .ofFloat)) = true := by
    rw [Json.soundItems_eq_true, List.forall_mem_map]
    intro row member
    rw [Json.sound, Json.soundItems_eq_true, List.forall_mem_map]
    exact fun value inside => Json.sound_ofFloat (rectangular.finite row member value inside)
  simp [toJson, Json.sound, Json.soundFields, Json.sound_ofStrings, rowsSound]

namespace Workspace

variable {w : Workspace}

/-- The numbers in range and the moments of a workspace are read back from what is
written for them. -/
structure Readable (w : Workspace) : Prop where
  numbers : w.toJson.sound (fun n => !n.inRange || n.readsBack) = true
  createdAt : w.createdAt.ReadsBack
  takenAt : ∀ entry ∈ w.snapshots.entries, entry.2.takenAt.ReadsBack

theorem readable_iff : w.Readable ↔
    w.toJson.sound (fun n => !n.inRange || n.readsBack) = true ∧ w.createdAt.ReadsBack ∧
      ∀ entry ∈ w.snapshots.entries, entry.2.takenAt.ReadsBack :=
  ⟨fun readable => ⟨readable.numbers, readable.createdAt, readable.takenAt⟩,
    fun ⟨numbers, createdAt, takenAt⟩ => ⟨numbers, createdAt, takenAt⟩⟩

instance : Decidable w.Readable := decidable_of_iff _ readable_iff.symm

/-- The workspace with the settings that hold if nothing is said. -/
def withStandard (w : Workspace) : Workspace :=
  { w with sampling := Sampling.Config.standard, storage := StorageConfig.standard }

/-- All numbers of a valid workspace are in range. -/
theorem Valid.sound_toJson (valid : w.Valid) : w.toJson.sound Json.Number.inRange = true := by
  have tableSound := Table.sound_toJson valid.coherent.toWellFormed
  have setsSound : (w.sets.toJson .ofStrings).sound Json.Number.inRange = true :=
    NameMap.sound_toJson fun _ _ => Json.sound_ofStrings _
  have snapshotsSound : (w.snapshots.toJson Snapshot.toJson).sound Json.Number.inRange = true := by
    apply NameMap.sound_toJson
    intro entry member
    have valuesSound : (entry.2.values.toJson .ofFloat).sound Json.Number.inRange = true :=
      NameMap.sound_toJson fun held inside => Json.sound_ofFloat ((valid.snapshots entry member).admits held inside).2
    simp [Snapshot.toJson, Timestamp.toJson, Json.sound, Json.soundFields, valuesSound]
  have datasetsSound : (w.datasets.toJson Dataset.toJson).sound Json.Number.inRange = true :=
    NameMap.sound_toJson fun entry member => Dataset.sound_toJson (valid.datasets entry member).rectangular
  simp [toJson, Timestamp.toJson, Json.sound, Json.soundFields, tableSound, setsSound, snapshotsSound, datasetsSound]

theorem Valid.readsBack (valid : w.Valid) (readable : w.Readable) :
    w.toJson.sound Json.Number.readsBack = true := by
  apply Json.sound_and _ valid.sound_toJson readable.numbers
  intro n inRange assumed
  simpa [inRange] using assumed

/-- What is written for a valid workspace is decoded as the workspace. -/
theorem Valid.ofJson_toJson (valid : w.Valid) (readable : w.Readable) : ofJson w.toJson = .ok w.withStandard := by
  have createdAtRead := Timestamp.ofJson_toJson readable.createdAt
  have tableRead := Table.ofJson_toJson (Nat.le_refl 1) valid.coherent.toWellFormed valid.coherent.compiled
  have setsRead := NameMap.ofJson_toJson Json.ofStrings valid.sets_sorted fun _ _ => list_ofStrings _
  have snapshotsRead := NameMap.ofJson_toJson Snapshot.toJson valid.snapshots_sorted
    fun entry member => Snapshot.ofJson_toJson (valid.values_sorted entry member)
      (fun held inside => ((valid.snapshots entry member).admits held inside).2) (readable.takenAt entry member)
  have datasetsRead := NameMap.ofJson_toJson Dataset.toJson valid.datasets_sorted
    fun entry member => Dataset.ofJson_toJson (valid.datasets entry member).rectangular
  simp [ofJson, toJson, record, Json.Decode.fields, keys, Parts.read, Json.Decode.string, createdAtRead, tableRead,
    setsRead, snapshotsRead, datasetsRead, required, ok_bind, withStandard]

end Workspace

end DensityGraph
