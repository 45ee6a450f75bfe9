import DensityGraph.Proofs.Table.WellFormed

/-!
# Changes of a table

A declaration puts a new node behind the others, whose references point to
earlier nodes.  Setting a value or a range keeps the shape of the table.  Both
keep a table well-formed.
-/

namespace DensityGraph.Table

variable {table changed : Table} {name : String} {node : Node}

theorem wellFormed_empty : empty.WellFormed := by
  refine ⟨⟨List.nodup_nil, ?_, ?_, fun _ => 0, ?_⟩, ?_⟩
  all_goals
    intro node member
    cases member

theorem find?_push_of_mem (declared : name ∈ table.names) :
    (table.push node).find? name = table.find? name := by
  obtain ⟨found, foundEq⟩ := Option.isSome_iff_exists.mp (find?_isSome_iff.2 declared)
  simp only [find?, nodes_push, List.find?_append] at foundEq ⊢
  rw [foundEq, Option.some_or]

theorem HasParameter.push (declared : table.HasParameter name) : (table.push node).HasParameter name := by
  obtain ⟨p, found⟩ := declared
  exact ⟨p, by rw [find?_push_of_mem (HasParameter.mem_names ⟨p, found⟩), found]⟩

theorem HasDensity.push (declared : table.HasDensity name) : (table.push node).HasDensity name := by
  obtain ⟨d, found⟩ := declared
  exact ⟨d, by rw [find?_push_of_mem (HasDensity.mem_names ⟨d, found⟩), found]⟩

theorem Resolves.push {other : Node} (resolves : table.Resolves other) :
    (table.push node).Resolves other := by
  cases other with
  | parameter p => exact fun dependency needed => (resolves dependency needed).push
  | density d =>
      exact ⟨fun dependency needed => (resolves.1 dependency needed).push,
        fun dependency needed => (resolves.2 dependency needed).push⟩

/-- A new node gets the old size of the table as its rank. -/
theorem Ranked.push {rank : String → Nat} (ranked : table.Ranked rank) (new : node.name ∉ table.names)
    (resolved : ∀ other ∈ table.nodes, table.Resolves other) (resolves : table.Resolves node) :
    (table.push node).Ranked fun name => if name = node.name then table.size else rank name := by
  have oldRank : ∀ {name}, name ∈ table.names → name ≠ node.name := by
    rintro name member rfl
    exact new member
  intro other member
  rcases List.mem_append.mp member with old | last
  · have otherOld := oldRank (List.mem_map_of_mem old)
    have bounded := (ranked other old).1
    refine ⟨by simp only [if_neg otherOld, size_push]; omega, ?_⟩
    intro dependency needed
    have dependencyOld := oldRank ((resolved other old).mem_names needed)
    simp only [if_neg otherOld, if_neg dependencyOld]
    exact (ranked other old).2 dependency needed
  · obtain rfl := List.mem_singleton.mp last
    refine ⟨by simp, ?_⟩
    intro dependency needed
    have declared := resolves.mem_names needed
    simp only [if_neg (oldRank declared), if_true]
    exact ranked.lt_size declared

theorem WellFormed.push (wellFormed : table.WellFormed) (valid : isValidName node.name = true)
    (new : node.name ∉ table.names) (resolves : table.Resolves node) (sound : node.Sound) :
    (table.push node).WellFormed := by
  obtain ⟨rank, ranked⟩ := wellFormed.ranked
  refine ⟨⟨?_, ?_, ?_, _, ranked.push new wellFormed.resolved resolves⟩, ?_⟩
  · rw [names_push, List.nodup_append]
    refine ⟨wellFormed.distinct, List.nodup_singleton _, ?_⟩
    rintro name member _ single rfl
    exact new (List.mem_singleton.mp single ▸ member)
  · simp only [nodes_push, List.forall_mem_append, List.forall_mem_singleton]
    exact ⟨wellFormed.named, valid⟩
  · simp only [nodes_push, List.forall_mem_append, List.forall_mem_singleton]
    exact ⟨fun other member => (wellFormed.resolved other member).push, resolves.push⟩
  · simp only [nodes_push, List.forall_mem_append, List.forall_mem_singleton]
    exact ⟨wellFormed.sound, sound⟩

theorem WellFormed.declareParameter (wellFormed : table.WellFormed) {p : Parameter} (sound : p.Sound)
    (declared : table.declareParameter p = .ok changed) : changed.WellFormed := by
  obtain ⟨valid, new, dependencies, rfl⟩ := declareParameter_eq_ok.1 declared
  exact wellFormed.push valid new (fun name needed => (dependencies name needed).2) sound

theorem WellFormed.declareDensity (wellFormed : table.WellFormed) {d : Density}
    (declared : table.declareDensity d = .ok changed) : changed.WellFormed := by
  obtain ⟨valid, new, _, parameters, densities, rfl⟩ := declareDensity_eq_ok.1 declared
  exact wellFormed.push valid new ⟨parameters, densities⟩ trivial

/-- Putting a free parameter in the place of another keeps the shape. -/
theorem shape_replace (distinct : table.names.Nodup) {p q : Parameter}
    (found : table.find? q.name = some (.parameter p)) (pFree : p.isFree = true) (qFree : q.isFree = true) :
    (table.replace q).shape = table.shape := by
  obtain ⟨_, sameName⟩ := mem_of_find? found
  have sameShape : q.shape = p.shape := Parameter.shape_eq_of_isFree qFree pFree sameName.symm
  simp only [shape, replace, List.map_map, mk.injEq]
  apply List.map_congr_left
  intro node member
  simp only [Function.comp_apply]
  by_cases named : node.name = q.name
  · have foundNode := find?_of_mem distinct member
    rw [named, found] at foundNode
    obtain rfl := Option.some.inj foundNode
    simp [named, Node.shape, sameShape]
  · rw [if_neg named]

theorem WellFormed.replace (wellFormed : table.WellFormed) {p q : Parameter}
    (found : table.find? q.name = some (.parameter p)) (pFree : p.isFree = true) (qFree : q.isFree = true)
    (sound : q.Sound) : (table.replace q).WellFormed := by
  refine ⟨wellFormed.toStructured.of_shape_eq (shape_replace wellFormed.distinct found pFree qFree), ?_⟩
  rw [Table.replace, List.forall_mem_map]
  intro node member
  by_cases named : node.name = q.name
  · rw [if_pos named]
    exact sound
  · rw [if_neg named]
    exact wellFormed.sound node member

/-- What setting a value or a range does to a table. -/
structure Adjusted (table changed : Table) : Prop where
  wellFormed : changed.WellFormed
  shape_eq : changed.shape = table.shape

theorem WellFormed.adjusted (wellFormed : table.WellFormed) : table.Adjusted table :=
  ⟨wellFormed, rfl⟩

theorem Adjusted.trans {middle : Table} (first : table.Adjusted middle) (second : middle.Adjusted changed) :
    table.Adjusted changed :=
  ⟨second.wellFormed, second.shape_eq.trans first.shape_eq⟩

theorem WellFormed.setValue (wellFormed : table.WellFormed) {value : Float}
    (set : table.setValue name value = .ok changed) : table.Adjusted changed := by
  obtain ⟨p, q, found, setParameter, rfl⟩ := setValue_eq_ok.1 set
  obtain ⟨member, rfl⟩ := mem_of_find? found
  have sound := Parameter.setValue_sound (wellFormed.sound _ member) setParameter
  obtain ⟨old, bounds, kindEq, _, rfl⟩ := Parameter.setValue_eq_ok.1 setParameter
  have pFree : p.isFree = true := by simp [Parameter.isFree, kindEq]
  exact ⟨wellFormed.replace found pFree rfl sound, shape_replace wellFormed.distinct found pFree rfl⟩

theorem WellFormed.setRange (wellFormed : table.WellFormed) {lower upper : Float}
    (set : table.setRange name lower upper = .ok changed) : table.Adjusted changed := by
  obtain ⟨p, q, found, setParameter, rfl⟩ := setRange_eq_ok.1 set
  obtain ⟨member, rfl⟩ := mem_of_find? found
  have sound := Parameter.setRange_sound (wellFormed.sound _ member) setParameter
  obtain ⟨value, old, kindEq, _, rfl⟩ := Parameter.setRange_eq_ok.1 setParameter
  have pFree : p.isFree = true := by simp [Parameter.isFree, kindEq]
  exact ⟨wellFormed.replace found pFree rfl sound, shape_replace wellFormed.distinct found pFree rfl⟩

end DensityGraph.Table
