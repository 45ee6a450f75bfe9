import Mathlib.Data.List.Forall2

/-!
# Results that may be errors

A chain of steps succeeds when each of its steps does.  These lemmas peel such
chains apart one step at a time.
-/

namespace DensityGraph

variable {ε ε' α β : Type}

theorem bind_eq_ok {first : Except ε α} {next : α → Except ε β} {result : β} :
    first >>= next = .ok result ↔ ∃ a, first = .ok a ∧ next a = .ok result := by
  cases first with
  | error e => simp [bind, Except.bind]
  | ok a => simp [bind, Except.bind]

theorem ok_bind {a : α} {next : α → Except ε β} : (Except.ok a >>= next) = next a :=
  rfl

theorem bind_eq_error {first : Except ε α} {next : α → Except ε β} {e : ε} :
    first >>= next = .error e ↔ first = .error e ∨ ∃ a, first = .ok a ∧ next a = .error e := by
  cases first with
  | error e => simp [bind, Except.bind]
  | ok a => simp [bind, Except.bind]

/-- A check gives nothing but its success. -/
theorem exists_unit {holds : Unit → Prop} : (∃ u, holds u) ↔ holds () :=
  ⟨fun ⟨_, h⟩ => h, fun h => ⟨(), h⟩⟩

theorem pure_eq_ok {a result : α} : (pure a : Except ε α) = .ok result ↔ result = a := by
  simp [pure, Except.pure, eq_comm]

theorem throw_bind {e : ε} {next : α → Except ε β} : (throw e : Except ε α) >>= next = .error e :=
  rfl

theorem map_eq_ok {result : Except ε α} {change : α → β} {b : β} :
    result.map change = .ok b ↔ ∃ a, result = .ok a ∧ change a = b := by
  cases result with
  | error e => simp [Except.map]
  | ok a => simp [Except.map]

theorem map_eq_error {result : Except ε α} {change : α → β} {e : ε} :
    result.map change = .error e ↔ result = .error e := by
  cases result with
  | error cause => simp [Except.map]
  | ok a => simp [Except.map]

theorem mapError_eq_ok {result : Except ε α} {change : ε → ε'} {a : α} :
    result.mapError change = .ok a ↔ result = .ok a := by
  cases result with
  | error e => simp [Except.mapError]
  | ok a => simp [Except.mapError]

theorem mapError_eq_error {result : Except ε α} {change : ε → ε'} {e : ε'} :
    result.mapError change = .error e ↔ ∃ cause, result = .error cause ∧ change cause = e := by
  cases result with
  | error cause => simp [Except.mapError]
  | ok a => simp [Except.mapError]

theorem exists_ok_of_toBool {result : Except ε α} (succeeded : result.toBool = true) :
    ∃ a, result = .ok a := by
  cases result with
  | error e => cases succeeded
  | ok a => exact ⟨a, rfl⟩

theorem exists_ok_of_any {result : Except ε α} {test : α → Bool} (succeeded : result.toOption.any test = true) :
    ∃ a, result = .ok a ∧ test a = true := by
  cases result with
  | error e => cases succeeded
  | ok a => exact ⟨a, rfl, succeeded⟩

/-- A check in front of the rest of a chain lets the chain go on exactly when it
does not apply. -/
theorem guard_eq_ok {refused : Prop} [Decidable refused] {e : ε} {rest : Except ε α} {a : α} :
    (if refused then .error e else rest) = .ok a ↔ ¬ refused ∧ rest = .ok a := by
  by_cases holds : refused
  · simp [holds]
  · simp [holds]

/-- A loop of checks succeeds when each of them does. -/
theorem forM_eq_ok {check : α → Except ε Unit} {list : List α} :
    list.forM check = .ok () ↔ ∀ a ∈ list, check a = .ok () := by
  induction list with
  | nil => simp [List.forM, pure, Except.pure]
  | cons first rest ih =>
      rw [List.forM, bind_eq_ok, exists_unit, List.forall_mem_cons, ih]

/-- A loop of checks fails with the error of one of them. -/
theorem exists_of_forM_eq_error {check : α → Except ε Unit} {list : List α} {e : ε}
    (failed : list.forM check = .error e) : ∃ a ∈ list, check a = .error e := by
  induction list with
  | nil => cases failed
  | cons first rest ih =>
      rw [List.forM, bind_eq_error] at failed
      obtain failed | ⟨_, _, failed⟩ := failed
      · exact ⟨first, List.mem_cons_self, failed⟩
      · obtain ⟨a, member, failed⟩ := ih failed
        exact ⟨a, List.mem_cons_of_mem _ member, failed⟩

/-- A map of steps succeeds when each of them does, with their results. -/
theorem mapM_eq_ok {step : α → Except ε β} {list : List α} {results : List β} :
    list.mapM step = .ok results ↔ List.Forall₂ (fun a b => step a = .ok b) list results := by
  induction list generalizing results with
  | nil => simp [pure, Except.pure, eq_comm]
  | cons first rest ih =>
      rw [List.mapM_cons, bind_eq_ok, List.forall₂_cons_left_iff]
      simp only [bind_eq_ok, pure_eq_ok, ih]
      constructor
      · rintro ⟨b, stepped, bs, steps, rfl⟩
        exact ⟨b, bs, stepped, steps, rfl⟩
      · rintro ⟨b, bs, stepped, steps, rfl⟩
        exact ⟨b, stepped, bs, steps, rfl⟩

/-- A search finds nothing when no test does. -/
theorem anyM_eq_ok_false {test : α → Except ε Bool} {list : List α} :
    list.anyM test = .ok false ↔ ∀ a ∈ list, test a = .ok false := by
  induction list with
  | nil => simp [pure, Except.pure]
  | cons first rest ih =>
      rw [List.anyM, bind_eq_ok, List.forall_mem_cons, ← ih]
      constructor
      · rintro ⟨_ | _, tested, searched⟩
        · exact ⟨tested, searched⟩
        · cases searched
      · rintro ⟨tested, searched⟩
        exact ⟨false, tested, searched⟩

/-- A search finds something only by a test that hits. -/
theorem exists_of_anyM_eq_ok_true {test : α → Except ε Bool} {list : List α}
    (searched : list.anyM test = .ok true) : ∃ a ∈ list, test a = .ok true := by
  induction list with
  | nil => cases searched
  | cons first rest ih =>
      rw [List.anyM, bind_eq_ok] at searched
      obtain ⟨_ | _, tested, searched⟩ := searched
      · obtain ⟨a, member, hit⟩ := ih searched
        exact ⟨a, List.mem_cons_of_mem _ member, hit⟩
      · exact ⟨first, List.mem_cons_self, tested⟩

/-- A search that ends well ends in the same way for tests that agree where the
first ones end well. -/
theorem anyM_mono {test other : α → Except ε Bool} {list : List α} {found : Bool}
    (agree : ∀ a ∈ list, ∀ b, test a = .ok b → other a = .ok b)
    (searched : list.anyM test = .ok found) : list.anyM other = .ok found := by
  induction list with
  | nil => exact searched
  | cons first rest ih =>
      rw [List.forall_mem_cons] at agree
      rw [List.anyM, bind_eq_ok] at searched ⊢
      obtain ⟨b, tested, searched⟩ := searched
      refine ⟨b, agree.1 b tested, ?_⟩
      cases b with
      | true => exact searched
      | false => exact ih agree.2 searched

/-- A search all of whose tests end well ends well, and finds what one of them
finds. -/
theorem exists_anyM (test : α → Except ε Bool) (list : List α) (total : ∀ a ∈ list, ∃ b, test a = .ok b) :
    ∃ found, list.anyM test = .ok found ∧ (found = true ↔ ∃ a ∈ list, test a = .ok true) := by
  induction list with
  | nil => exact ⟨false, rfl, by simp⟩
  | cons first rest ih =>
      rw [List.forall_mem_cons] at total
      obtain ⟨b, tested⟩ := total.1
      obtain ⟨found, searched, foundIff⟩ := ih total.2
      cases b with
      | true => exact ⟨true, by rw [List.anyM, tested]; rfl, by simp [tested]⟩
      | false => exact ⟨found, by rw [List.anyM, tested]; exact searched, by simp [foundIff, tested]⟩

/-- A loop whose every step can succeed can succeed. -/
theorem exists_foldlM (step : β → α → Except ε β) (names : List α)
    (steps : ∀ name ∈ names, ∀ before, ∃ after, step before name = .ok after) :
    ∀ before, ∃ after, names.foldlM step before = .ok after := by
  induction names with
  | nil => exact fun before => ⟨before, rfl⟩
  | cons first rest ih =>
      intro before
      rw [List.forall_mem_cons] at steps
      obtain ⟨middle, stepped⟩ := steps.1 before
      obtain ⟨after, folded⟩ := ih steps.2 middle
      exact ⟨after, by rw [List.foldlM_cons, stepped]; exact folded⟩

/-- A loop of steps fails with the error of one of them. -/
theorem exists_of_foldlM_eq_error {step : β → α → Except ε β} {list : List α} {e : ε} {start : β}
    (failed : list.foldlM step start = .error e) : ∃ a ∈ list, ∃ before, step before a = .error e := by
  induction list generalizing start with
  | nil => cases failed
  | cons first rest ih =>
      rw [List.foldlM_cons, bind_eq_error] at failed
      obtain failed | ⟨after, _, failed⟩ := failed
      · exact ⟨first, List.mem_cons_self, start, failed⟩
      · obtain ⟨a, member, before, failed⟩ := ih failed
        exact ⟨a, List.mem_cons_of_mem _ member, before, failed⟩

/-- Loops whose steps agree give the same. -/
theorem foldlM_congr {step other : β → α → Except ε β} {list : List α} {start : β}
    (agree : ∀ a ∈ list, ∀ before, step before a = other before a) :
    list.foldlM step start = list.foldlM other start := by
  induction list generalizing start with
  | nil => rfl
  | cons first rest ih =>
      rw [List.forall_mem_cons] at agree
      rw [List.foldlM_cons, List.foldlM_cons, agree.1 start]
      exact bind_congr fun after => ih agree.2

/-- What each step of a loop brings about is there at the end, if every step keeps it. -/
theorem foldlM_brings {step : β → α → Except ε β} (keeps : β → β → Prop) (holds : α → β → Prop)
    (refl : ∀ b, keeps b b) (trans : ∀ {first middle last}, keeps first middle → keeps middle last → keeps first last)
    (stays : ∀ {a before after}, keeps before after → holds a before → holds a after)
    (each : ∀ {a before after}, step before a = .ok after → keeps before after ∧ holds a after)
    {list : List α} {start last : β} (folded : list.foldlM step start = .ok last) :
    keeps start last ∧ ∀ a ∈ list, holds a last := by
  induction list generalizing start with
  | nil =>
      obtain rfl := pure_eq_ok.1 folded
      exact ⟨refl last, List.forall_mem_nil _⟩
  | cons first rest ih =>
      rw [List.foldlM_cons, bind_eq_ok] at folded
      obtain ⟨middle, stepped, folded⟩ := folded
      obtain ⟨keepsFirst, brought⟩ := each stepped
      obtain ⟨keepsRest, others⟩ := ih folded
      exact ⟨trans keepsFirst keepsRest, List.forall_mem_cons.mpr ⟨stays keepsRest brought, others⟩⟩

/-- All errors of an operation pass a test. -/
def FailsWith (test : ε → Bool) (result : Except ε α) : Prop := ∀ e, result = .error e → test e = true

namespace FailsWith

variable {test : ε → Bool} {result : Except ε α} {e : ε}

theorem ok (a : α) : FailsWith test (.ok a) := by
  rintro e ⟨⟩

theorem error (passes : test e = true) : FailsWith test (.error e : Except ε α) := by
  rintro _ ⟨⟩
  exact passes

theorem throw (passes : test e = true) : FailsWith test (throw e : Except ε α) :=
  .error passes

theorem mono {other : ε → Bool} (fails : FailsWith test result) (weaker : ∀ e, test e = true → other e = true) :
    FailsWith other result :=
  fun e failed => weaker e (fails e failed)

/-- The error of an operation may be passed on. -/
theorem passed (fails : FailsWith test result) (failed : result = .error e) :
    FailsWith test (.error e : Except ε β) :=
  .error (fails e failed)

theorem bind {next : α → Except ε β} (fails : FailsWith test result) (nextFails : ∀ a, FailsWith test (next a)) :
    FailsWith test (result >>= next) := by
  intro e failed
  obtain failed | ⟨a, _, failed⟩ := bind_eq_error.1 failed
  · exact fails e failed
  · exact nextFails a e failed

theorem map {change : α → β} (fails : FailsWith test result) : FailsWith test (result.map change) :=
  fun e failed => fails e (map_eq_error.1 failed)

theorem ite {condition : Prop} [Decidable condition] {first second : Except ε α} (fails : FailsWith test first)
    (failsToo : FailsWith test second) : FailsWith test (if condition then first else second) := by
  by_cases holds : condition
  · rwa [if_pos holds]
  · rwa [if_neg holds]

/-- A refusal in front of an operation. -/
theorem guard {refused : Prop} [Decidable refused] (passes : test e = true) (fails : FailsWith test result) :
    FailsWith test (if refused then MonadExcept.throw e >>= fun (_ : Unit) => result else result) :=
  ite (bind (throw passes) fun _ => fails) fails

theorem mapM {step : α → Except ε β} {list : List α} (fails : ∀ a, FailsWith test (step a)) :
    FailsWith test (list.mapM step) := by
  induction list with
  | nil => exact .ok []
  | cons first rest ih =>
      rw [List.mapM_cons]
      exact (fails first).bind fun b => ih.bind fun bs => .ok (b :: bs)

theorem anyM {search : α → Except ε Bool} {list : List α} (fails : ∀ a, FailsWith test (search a)) :
    FailsWith test (list.anyM search) := by
  induction list with
  | nil => exact .ok false
  | cons first rest ih =>
      rw [List.anyM]
      apply (fails first).bind
      rintro (_ | _)
      · exact ih
      · exact .ok true

theorem foldlM {step : β → α → Except ε β} {list : List α} {start : β}
    (fails : ∀ before a, FailsWith test (step before a)) : FailsWith test (list.foldlM step start) := by
  intro e failed
  obtain ⟨a, _, before, failed⟩ := exists_of_foldlM_eq_error failed
  exact fails before a e failed

end FailsWith

/-- A list of results from single results. -/
theorem exists_forall₂ {related : α → β → Prop} {list : List α} (each : ∀ a ∈ list, ∃ b, related a b) :
    ∃ results, List.Forall₂ related list results := by
  induction list with
  | nil => exact ⟨[], .nil⟩
  | cons first rest ih =>
      rw [List.forall_mem_cons] at each
      obtain ⟨b, head⟩ := each.1
      obtain ⟨results, tail⟩ := ih each.2
      exact ⟨b :: results, .cons head tail⟩

theorem exists_right_of_forall₂ {related : α → β → Prop} {as : List α} {bs : List β}
    (all : List.Forall₂ related as bs) {a : α} (member : a ∈ as) : ∃ b ∈ bs, related a b := by
  induction all with
  | nil => cases member
  | cons head _ ih =>
      rcases List.mem_cons.mp member with rfl | later
      · exact ⟨_, List.mem_cons_self, head⟩
      · obtain ⟨b, memberB, relatedB⟩ := ih later
        exact ⟨b, List.mem_cons_of_mem _ memberB, relatedB⟩

theorem exists_left_of_forall₂ {related : α → β → Prop} {as : List α} {bs : List β}
    (all : List.Forall₂ related as bs) {b : β} (member : b ∈ bs) : ∃ a ∈ as, related a b :=
  exists_right_of_forall₂ all.flip member

end DensityGraph
