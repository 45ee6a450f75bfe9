import DensityGraph.Proofs.Table.Change
import DensityGraph.Sampling.Draw

/-!
# Tables that differ in one value

Setting a value changes what one free parameter holds.  The shape of the table
and all bounds stay the same, and so does what every other parameter holds.
-/

namespace DensityGraph

variable {table other changed : Table} {name own : String} {value : Float}

/-- The parameter with zero for its value if it is the free parameter of the name. -/
def Parameter.forget (name : String) (p : Parameter) : Parameter :=
  match p.kind with
  | .free _ bounds => if p.name = name then ⟨p.name, .free 0 bounds⟩ else p
  | .derived _ => p

def Node.forget (name : String) : Node → Node
  | .parameter p => .parameter (p.forget name)
  | .density d => .density d

def Table.forget (name : String) (table : Table) : Table := ⟨table.nodes.map (Node.forget name)⟩

/-- Two tables differ at most in the value that a free parameter of the name holds. -/
def Table.SameExcept (name : String) (table other : Table) : Prop := table.forget name = other.forget name

namespace Parameter

variable {p : Parameter}

theorem forget_eq : p.forget name = p ∨ ∃ old bounds, p.kind = .free old bounds ∧ p.name = name ∧
    p.forget name = ⟨p.name, .free 0 bounds⟩ := by
  obtain ⟨own, ⟨old, bounds⟩ | formula⟩ := p
  · by_cases named : own = name
    · exact .inr ⟨old, bounds, rfl, named, if_pos named⟩
    · exact .inl (if_neg named)
  · exact .inl rfl

@[simp]
theorem name_forget : (p.forget name).name = p.name := by
  obtain same | ⟨_, _, _, _, changed⟩ := @forget_eq name p
  · rw [same]
  · rw [changed]

@[simp]
theorem shape_forget : (p.forget name).shape = p.shape := by
  obtain same | ⟨_, _, kindEq, _, changed⟩ := @forget_eq name p
  · rw [same]
  · simp only [changed, shape, kindEq]

@[simp]
theorem bounds?_forget : (p.forget name).bounds? = p.bounds? := by
  obtain same | ⟨_, _, kindEq, _, changed⟩ := @forget_eq name p
  · rw [same]
  · simp only [changed, bounds?, kindEq]

theorem forget_of_ne (different : p.name ≠ name) : p.forget name = p := by
  obtain same | ⟨_, _, _, named, _⟩ := @forget_eq name p
  · exact same
  · exact absurd named different

end Parameter

@[simp]
theorem Node.name_forget {node : Node} : (node.forget name).name = node.name := by
  cases node with
  | parameter p => exact Parameter.name_forget
  | density d => rfl

@[simp]
theorem Node.shape_forget {node : Node} : (node.forget name).shape = node.shape := by
  cases node with
  | parameter p => exact congrArg Node.parameter Parameter.shape_forget
  | density d => rfl

namespace Table

@[simp]
theorem shape_forget : (table.forget name).shape = table.shape := by
  simp [shape, forget]

theorem parameter_forget :
    (table.forget name).parameter own = (table.parameter own).map (Parameter.forget name) := by
  have found : (table.forget name).find? own = (table.find? own).map (Node.forget name) := by
    have same : (fun node : Node => node.name == own) ∘ Node.forget name = fun node => node.name == own := by
      funext node
      rw [Function.comp_apply, Node.name_forget]
    rw [find?, forget, List.find?_map, same]
    rfl
  unfold parameter
  rw [found]
  rcases table.find? own with _ | (p | d) <;> rfl

theorem bounds_forget : Sampling.Draw.bounds (table.forget name) own = Sampling.Draw.bounds table own := by
  unfold Sampling.Draw.bounds
  rw [parameter_forget]
  cases table.parameter own with
  | error e => rfl
  | ok p => simp [Except.map]

theorem parameter_forget_of_ne (different : own ≠ name) :
    (table.forget name).parameter own = table.parameter own := by
  rw [parameter_forget]
  cases found : table.parameter own with
  | error e => rfl
  | ok p =>
      obtain ⟨_, named⟩ := mem_of_find? (parameter_eq_ok.1 found)
      have otherName : p.name ≠ name := fun equal => different (named.symm.trans equal)
      rw [Except.map, Parameter.forget_of_ne otherName]

theorem sameExcept_of_setValue (distinct : table.names.Nodup) (set : table.setValue name value = .ok changed) :
    table.SameExcept name changed := by
  obtain ⟨p, q, found, setParameter, rfl⟩ := setValue_eq_ok.1 set
  obtain ⟨old, bounds, kindEq, _, rfl⟩ := Parameter.setValue_eq_ok.1 setParameter
  obtain ⟨_, ownName⟩ := mem_of_find? found
  simp only [SameExcept, forget, replace, List.map_map, mk.injEq]
  apply List.map_congr_left
  intro node member
  rw [Function.comp_apply]
  by_cases named : node.name = p.name
  · have foundNode := find?_of_mem distinct member
    rw [named, show p.name = name from ownName, found] at foundNode
    obtain rfl := Option.some.inj foundNode
    simp [Node.forget, Parameter.forget, kindEq, show p.name = name from ownName, Node.name]
  · rw [if_neg named]

/-- Two tables differ at most in the values of free parameters. -/
structure SameOutline (table other : Table) : Prop where
  shape_eq : other.shape = table.shape
  bounds_eq : ∀ own, Sampling.Draw.bounds other own = Sampling.Draw.bounds table own

theorem SameOutline.refl (table : Table) : table.SameOutline table :=
  ⟨rfl, fun _ => rfl⟩

theorem SameOutline.density_eq (outline : table.SameOutline other) : other.density own = table.density own := by
  rw [← density_shape, outline.shape_eq, density_shape]

theorem SameExcept.outline (same : table.SameExcept name other) : table.SameOutline other := by
  constructor
  · calc
      other.shape = (other.forget name).shape := shape_forget.symm
      _ = (table.forget name).shape := congrArg shape same.symm
      _ = table.shape := shape_forget
  · intro own
    calc
      Sampling.Draw.bounds other own = Sampling.Draw.bounds (other.forget name) own := bounds_forget.symm
      _ = Sampling.Draw.bounds (table.forget name) own := congrArg (Sampling.Draw.bounds · own) same.symm
      _ = Sampling.Draw.bounds table own := bounds_forget

theorem SameExcept.parameter_eq (same : table.SameExcept name other) (different : own ≠ name) :
    other.parameter own = table.parameter own := by
  calc
    other.parameter own = (other.forget name).parameter own := (parameter_forget_of_ne different).symm
    _ = (table.forget name).parameter own := congrArg (parameter · own) same.symm
    _ = table.parameter own := parameter_forget_of_ne different

end Table

end DensityGraph
