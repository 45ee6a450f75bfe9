import DensityGraph.Proofs.Declaration.ConditionalPair
import DensityGraph.Proofs.Declaration.ProductText
import DensityGraph.Proofs.Workspace.Reachable

/-!
# Two ways to compose

A conditional joint of declared densities can be composed, or declared as a product
of a conditional and its marginal.  Both ask for the same, though in different
orders, and add the same density.
-/

namespace DensityGraph.Workspace

open Declaration

variable {w : Workspace} {n c s m : String}

/-- The workspace behind an operation, which a failing one leaves as it is. -/
def after (w : Workspace) (result : Except ModelError (String × Workspace)) : Workspace :=
  match result with
  | .ok (_, changed) => changed
  | .error _ => w

theorem compose_eq_ok_iff_joins {name : String} {changed : Workspace} :
    w.compose n c s m = .ok (name, changed) ↔
      Joins w.table n c s m ∧ name = n ∧
        changed = { w with table := w.table.push (.density (joint n c s m)) } := by
  rw [compose_eq_ok]
  constructor
  · rintro ⟨_, d, made, table, declared, rfl, rfl⟩
    obtain ⟨joins, rfl⟩ := joined_iff.1 ⟨d, made, declared⟩
    exact ⟨joins, rfl, rfl⟩
  · rintro ⟨joins, rfl, rfl⟩
    obtain ⟨d, made, declared⟩ := joined_iff.2 ⟨joins, rfl⟩
    exact ⟨fun taken => joins.new (Table.contains_iff.1 taken), d, made, _, declared, rfl, rfl⟩

theorem declare_eq_ok_iff_joins {text name : String} {changed : Workspace} {d : Declaration} {added : Table}
    (parsed : Declaration.parse text = .ok d)
    (elaborated : ∀ own table, elaborate d w.table = .ok (own, table) ↔
      Joins w.table n c s m ∧ own = n ∧ table = added) :
    w.declare text = .ok (name, changed) ↔
      Joins w.table n c s m ∧ name = n ∧ changed = { w with table := added } := by
  simp only [declare_eq_ok, Table.declare, parsed]
  constructor
  · rintro ⟨table, ran, rfl⟩
    obtain ⟨joins, rfl, rfl⟩ := (elaborated _ _).1 ran
    exact ⟨joins, rfl, rfl⟩
  · rintro ⟨joins, rfl, rfl⟩
    exact ⟨added, (elaborated _ _).2 ⟨joins, rfl, rfl⟩, rfl⟩

/-- Three operations that succeed for the same workspaces with the same result
leave the same workspace behind them. -/
theorem after_congr {first second : Except ModelError (String × Workspace)}
    (agree : ∀ name changed, first = .ok (name, changed) ↔ second = .ok (name, changed)) :
    w.after first = w.after second := by
  cases first with
  | ok result => rw [(agree result.1 result.2).1 rfl]
  | error e =>
      cases second with
      | ok result => cases (agree result.1 result.2).2 rfl
      | error e' => rfl

/-- Composing a conditional with its marginal and declaring their product, in
whichever order, come to the same. -/
theorem compose_agrees_declare (w : Workspace) {n c s m : String} (nName : isIdentifier n.toList = true)
    (cName : isIdentifier c.toList = true) (sName : isIdentifier s.toList = true)
    (mName : isIdentifier m.toList = true) :
    (∀ name changed, w.compose n c s m = .ok (name, changed) ↔
      w.declare (productText n (c ++ "|" ++ s) m) = .ok (name, changed)) ∧
    (∀ name changed, w.compose n c s m = .ok (name, changed) ↔
      w.declare (productText n m (c ++ "|" ++ s)) = .ok (name, changed)) ∧
    (∀ name changed, w.compose n c s m = .ok (name, changed) →
      name = n ∧ changed =
        { w with table := ⟨w.table.nodes ++ [.density ⟨n, .conditionalJoint s m [c]⟩]⟩ }) ∧
    w.after (w.declare (productText n (c ++ "|" ++ s) m)) = w.after (w.compose n c s m) ∧
    w.after (w.declare (productText n m (c ++ "|" ++ s))) = w.after (w.compose n c s m) := by
  have conditional := isArgument_conditioned cName sName
  have marginal := isArgument_reference mName
  have first : ∀ name changed, w.compose n c s m = .ok (name, changed) ↔
      w.declare (productText n (c ++ "|" ++ s) m) = .ok (name, changed) := by
    intro name changed
    obtain ⟨_, _, place, ⟨inner, offset, rfl⟩, ⟨other, rfl⟩, parsed⟩ := parse_product nName conditional marginal
    rw [compose_eq_ok_iff_joins, declare_eq_ok_iff_joins parsed fun _ _ => elaborate_pair_eq_ok
      (fun _ _ => elaborateFactors_conditional_first) anyMentions_conditional_first (List.cons_ne_nil _ _)]
  have second : ∀ name changed, w.compose n c s m = .ok (name, changed) ↔
      w.declare (productText n m (c ++ "|" ++ s)) = .ok (name, changed) := by
    intro name changed
    obtain ⟨_, _, place, ⟨other, rfl⟩, ⟨inner, offset, rfl⟩, parsed⟩ := parse_product nName marginal conditional
    rw [compose_eq_ok_iff_joins, declare_eq_ok_iff_joins parsed fun _ _ => elaborate_pair_eq_ok
      (fun _ _ => elaborateFactors_marginal_first) anyMentions_marginal_first (List.cons_ne_nil _ _)]
  refine ⟨first, second, ?_, (after_congr first).symm, (after_congr second).symm⟩
  intro name changed composed
  obtain ⟨_, rfl, rfl⟩ := compose_eq_ok_iff_joins.1 composed
  exact ⟨rfl, rfl⟩

/-- A second joint of the parts of a joint, in all three ways. -/
theorem compose_agrees_declare_joint :
    ∃ w changed : Workspace, w.Reachable ∧ w.compose "q" "g" "x" "u" = .ok ("q", changed) ∧
      w.declare "PROD::q(g|x,u)" = .ok ("q", changed) ∧ w.declare "PROD::q(u,g|x)" = .ok ("q", changed) := by
  obtain ⟨w, reachable, accepted⟩ := @Reachable.exists_declare _ (.new "w" ⟨0, 0, 0⟩)
    "PROD::p(Gaussian::g(y[-9,9],x[0,1],s[1,0.5,2])|x,Uniform::u(x))"
    (fun w => (w.compose "q" "g" "x" "u").toBool) (by decide +kernel)
  obtain ⟨⟨name, changed⟩, composed⟩ := exists_ok_of_toBool accepted
  obtain ⟨first, second, added, _⟩ := compose_agrees_declare w (n := "q") (c := "g") (s := "x") (m := "u")
    (by decide) (by decide) (by decide) (by decide)
  obtain ⟨rfl, _⟩ := added name changed composed
  exact ⟨w, changed, reachable, composed, (first _ _).1 composed, (second _ _).1 composed⟩

end DensityGraph.Workspace
