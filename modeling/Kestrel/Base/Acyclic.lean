import Mathlib.Data.Finset.Card
import Mathlib.Data.Finset.Filter
import Mathlib.Logic.Relation

/-!
# Acyclic relations

An acyclic relation stays acyclic when the edges of one node are redirected to nodes that do not
lead back to it, and its paths over finitely many nodes are bounded.
-/

namespace Dependency

open Relation Finset

variable {Node : Type*} {relation other : Node → Node → Prop}

/-- No node leads back to itself. -/
def Acyclic (relation : Node → Node → Prop) : Prop :=
  ∀ node, ¬ Relation.TransGen relation node node

/-- A path with a number of edges starts at the node. -/
def PathFrom (relation : Node → Node → Prop) : ℕ → Node → Prop
  | 0, _ => True
  | length + 1, node => ∃ next, relation node next ∧ PathFrom relation length next

theorem Acyclic.mono (acyclic : Acyclic relation)
    (included : ∀ source target, other source target → relation source target) :
    Acyclic other :=
  fun node cycle => acyclic node (TransGen.mono (fun _ _ => included _ _) _ _ cycle)

theorem PathFrom.mono {length : ℕ} {node : Node} (path : PathFrom relation length node)
    (included : ∀ source target, relation source target → other source target) :
    PathFrom other length node := by
  induction length generalizing node with
  | zero => trivial
  | succ length ih =>
    obtain ⟨next, edge, rest⟩ := path
    exact ⟨next, included _ _ edge, ih rest⟩

theorem not_cyclic_of_acc {node : Node} (grounded : Acc (flip relation) node) :
    ¬ TransGen relation node node := by
  induction grounded with
  | intro node _ ih =>
    intro cycle
    obtain ⟨next, edge, rest⟩ := TransGen.head'_iff.mp cycle
    exact ih next edge (TransGen.tail' rest edge)

theorem Acyclic.redirect (acyclic : Acyclic relation) (redirected : Node)
    (others : ∀ source target, source ≠ redirected → other source target → relation source target)
    (onward : ∀ target, other redirected target →
      ¬ ReflTransGen relation target redirected) : Acyclic other := by
  -- What leads to the redirected node led to it before.
  have toward : ∀ {node}, ReflTransGen other node redirected →
      ReflTransGen relation node redirected := by
    intro node path
    induction path using ReflTransGen.head_induction_on with
    | refl => exact .refl
    | @head source target edge _ ih =>
      by_cases same : source = redirected
      · subst same
        exact .refl
      · exact .head (others _ _ same edge) ih
  intro node cycle
  by_cases around : ReflTransGen other node redirected ∧
      ReflTransGen other redirected node
  · have through : TransGen other redirected redirected :=
      (TransGen.trans_right around.2 cycle).trans_left around.1
    obtain ⟨target, edge, back⟩ := TransGen.head'_iff.mp through
    exact onward target edge (toward back)
  · -- The cycle misses the redirected node, so its edges were there before.
    have away : ∀ {finish}, TransGen other node finish →
        ReflTransGen other finish node → TransGen relation node finish := by
      intro finish path
      induction path with
      | single edge =>
        intro _
        refine .single (others _ _ ?_ edge)
        intro same
        subst same
        exact around ⟨.refl, .refl⟩
      | tail first edge ih =>
        intro back
        refine .tail (ih (.head edge back)) (others _ _ ?_ edge)
        intro same
        subst same
        exact around ⟨first.to_reflTransGen, .head edge back⟩
    exact acyclic node (away cycle .refl)

section Bound

open scoped Classical

noncomputable def reach (relation : Node → Node → Prop) (nodes : Finset Node) (node : Node) : ℕ :=
  (nodes.filter fun target => Relation.TransGen relation node target).card

theorem reach_le_card (nodes : Finset Node) (node : Node) :
    reach relation nodes node ≤ nodes.card :=
  card_filter_le _ _

theorem Acyclic.reach_lt (acyclic : Acyclic relation) {nodes : Finset Node} {source target : Node}
    (edge : relation source target) (member : target ∈ nodes) :
    reach relation nodes target < reach relation nodes source := by
  apply card_lt_card
  rw [ssubset_iff_of_subset]
  · refine ⟨target, ?_, ?_⟩
    · rw [mem_filter]
      exact ⟨member, .single edge⟩
    · rw [mem_filter]
      exact fun found => acyclic target found.2
  · intro other found
    rw [mem_filter] at found ⊢
    exact ⟨found.1, .head edge found.2⟩

theorem Acyclic.length_le_card (acyclic : Acyclic relation) {nodes : Finset Node}
    (inside : ∀ source target, relation source target → target ∈ nodes) {length : ℕ} {node : Node}
    (path : PathFrom relation length node) : length ≤ nodes.card := by
  have bound : reach relation nodes node ≤ nodes.card := reach_le_card nodes node
  refine le_trans ?_ bound
  clear bound
  induction length generalizing node with
  | zero => exact Nat.zero_le _
  | succ length ih =>
    obtain ⟨next, edge, rest⟩ := path
    exact lt_of_le_of_lt (ih rest) (acyclic.reach_lt edge (inside _ _ edge))

end Bound

end Dependency
