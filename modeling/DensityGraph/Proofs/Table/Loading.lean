import DensityGraph.Proofs.Table.Stack
import DensityGraph.Table.Order

/-!
# Tables from lists of nodes

The check of a stored list of nodes accepts exactly the lists that are
well-formed as tables, whatever their order.
-/

namespace DensityGraph.Table

variable {table result : Table} {node : Node} {nodes : List Node}

theorem checkFree_eq_ok : checkFree node = .ok () ↔ node.Sound := by
  rcases node with ⟨name, value, bounds⟩ | d
  · simp only [checkFree, bind_eq_ok, Parameter.free_eq_ok, pure_eq_ok]
    constructor
    · rintro ⟨_, ⟨valid, admitted, _⟩, _⟩
      exact Parameter.sound_of_free valid admitted
    · intro sound
      obtain ⟨valid, admitted⟩ := sound value bounds rfl
      exact ⟨_, ⟨valid, admitted, rfl⟩, trivial⟩
  · simp only [checkFree, true_iff]
    exact Parameter.sound_derived _ _
  · simp [checkFree, Node.Sound]

theorem checkReferences_eq_ok : table.checkReferences node = .ok () ↔ table.Resolves node := by
  cases node with
  | parameter p => simp only [checkReferences, checkParameters_eq_ok, Resolves]
  | density d =>
      simp only [checkReferences, bind_eq_ok, exists_unit, checkParameters_eq_ok,
        checkDensities_eq_ok, Resolves]

/-- Nodes are added one by one if they are valid by themselves and all names
stay distinct. -/
theorem pushAll_eq_ok (distinct : table.names.Nodup) :
    table.pushAll nodes = .ok result ↔
      (∀ node ∈ nodes, isValidName node.name = true) ∧ (∀ node ∈ nodes, node.Sound) ∧
        (table.names ++ nodes.map Node.name).Nodup ∧ result = ⟨table.nodes ++ nodes⟩ := by
  induction nodes generalizing table with
  | nil =>
      rw [pushAll, Except.ok.injEq, eq_comm]
      simp [distinct]
  | cons first rest ih =>
      simp only [pushAll, bind_eq_ok, exists_unit, checkNewName_eq_ok, checkFree_eq_ok,
        List.forall_mem_cons, List.map_cons]
      constructor
      · rintro ⟨⟨valid, new⟩, sound, pushed⟩
        have stillDistinct : (table.push first).names.Nodup := by
          rw [names_push, List.nodup_append]
          refine ⟨distinct, List.nodup_singleton _, ?_⟩
          rintro name member _ single rfl
          exact new (List.mem_singleton.mp single ▸ member)
        obtain ⟨validRest, soundRest, distinctAll, rfl⟩ := (ih stillDistinct).mp pushed
        refine ⟨⟨valid, validRest⟩, ⟨sound, soundRest⟩, ?_, ?_⟩
        · simpa using distinctAll
        · simp
      · rintro ⟨⟨valid, validRest⟩, ⟨sound, soundRest⟩, distinctAll, rfl⟩
        have distinctPushed : ((table.push first).names ++ rest.map Node.name).Nodup := by
          simpa using distinctAll
        have new : first.name ∉ table.names := by
          intro member
          exact (List.nodup_append.mp distinctAll).2.2 first.name member first.name
            List.mem_cons_self rfl
        refine ⟨⟨valid, new⟩, sound, ?_⟩
        apply (ih (List.nodup_append.mp distinctPushed).1).mpr
        exact ⟨validRest, soundRest, distinctPushed, by simp⟩

/-- A list of nodes makes a table exactly if that table is well-formed. -/
theorem ofNodes_eq_ok : ofNodes nodes = .ok table ↔ table = ⟨nodes⟩ ∧ table.WellFormed := by
  have emptyDistinct : empty.names.Nodup := List.nodup_nil
  simp only [ofNodes, bind_eq_ok, exists_unit, pushAll_eq_ok emptyDistinct, forM_eq_ok,
    checkReferences_eq_ok, pure_eq_ok]
  constructor
  · rintro ⟨_, ⟨named, sound, distinct, rfl⟩, resolved, order, ordered, rfl⟩
    have scheduled := scheduled_of_topologicalOrder distinct ordered
    exact ⟨rfl, ⟨distinct, named, resolved, _, scheduled.1.ranked scheduled.2 distinct⟩, sound⟩
  · rintro ⟨rfl, ⟨distinct, named, resolved, rank, ranked⟩, sound⟩
    obtain ⟨order, ordered⟩ := exists_topologicalOrder distinct resolved ranked
    exact ⟨_, ⟨named, sound, distinct, rfl⟩, resolved, order, ordered, rfl⟩

end DensityGraph.Table
