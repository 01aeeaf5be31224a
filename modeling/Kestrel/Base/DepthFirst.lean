import Kestrel.Base.Acyclic
import Kestrel.Base.Except
import Mathlib.Algebra.GroupWithZero.Nat
import Mathlib.Data.Finset.Dedup
import Mathlib.Data.List.Pairwise

/-!
# Depth-first search with a depth limit

The search keeps its own stack. A completed node is not entered again, so how deep the search goes
depends on the order of its roots.
-/

namespace DepthFirst

open List Relation Dependency

/-- The children of finitely many nodes. -/
structure Graph (Node : Type*) where
  nodes : List Node
  children : Node → List Node
  leaf : ∀ node, node ∉ nodes → children node = []

/-- A node on the stack, to be entered or to be left. -/
structure Entry (Node : Type*) where
  node : Node
  depth : ℕ
  leaving : Bool

inductive Refusal where
  | tooDeep
  | cycle
  deriving DecidableEq, Repr

/-- The nodes that the search has entered, and those of them that it has left. -/
structure Marks (Node : Type*) where
  visiting : List Node
  completed : List Node

variable {Node : Type*} [DecidableEq Node] (graph : Graph Node) (limit : ℕ)

def Marks.enter (marks : Marks Node) (node : Node) : Marks Node :=
  { marks with visiting := node :: marks.visiting }

def Marks.leave (marks : Marks Node) (node : Node) : Marks Node where
  visiting := marks.visiting.filter (· ≠ node)
  completed := node :: marks.completed

/-- The nodes not entered yet. -/
def Graph.fresh (marks : Marks Node) : Finset Node :=
  graph.nodes.toFinset.filter fun node => node ∉ marks.visiting ∧ node ∉ marks.completed

def weight (stack : List (Entry Node)) : ℕ :=
  (stack.map fun entry => if entry.leaving then 1 else 2).sum

def Graph.expand (entry : Entry Node) : List (Entry Node) :=
  (graph.children entry.node).reverse.map fun child => ⟨child, entry.depth + 1, false⟩

/-- Search until the stack is empty. -/
def walk : List (Entry Node) → Marks Node → Except Refusal (Marks Node)
  | [], marks => .ok marks
  | entry :: stack, marks =>
    if entry.leaving then walk stack (marks.leave entry.node)
    else if limit < entry.depth then .error .tooDeep
    else if entry.node ∈ marks.completed then walk stack marks
    else if entry.node ∈ marks.visiting then .error .cycle
    else walk (graph.expand entry ++ { entry with leaving := true } :: stack)
      (marks.enter entry.node)
termination_by stack marks => ((graph.fresh marks).card, weight stack)
decreasing_by
  · refine Prod.Lex.right' _ (Finset.card_le_card fun node fresh => ?_) ?_
    · simp only [Graph.fresh, Marks.leave, Finset.mem_filter, mem_filter, mem_cons, not_or, not_and,
        decide_eq_true_eq] at fresh ⊢
      exact ⟨fresh.1, fun visited => fresh.2.1 visited fresh.2.2.1, fresh.2.2.2⟩
    · simp [weight, *]
  · exact .right _ (by simp [weight, *])
  · have fewer (node : Node) (fresh : node ∈ graph.fresh (marks.enter entry.node)) :
        node ≠ entry.node ∧ node ∈ graph.fresh marks := by
      simp only [Graph.fresh, Marks.enter, Finset.mem_filter, mem_cons, not_or] at fresh ⊢
      exact ⟨fresh.2.1.1, fresh.1, fresh.2.1.2, fresh.2.2⟩
    by_cases known : entry.node ∈ graph.nodes
    · refine .left _ _ (Finset.card_lt_card (Finset.ssubset_iff_of_subset
        (fun node fresh => (fewer node fresh).2) |>.mpr ⟨entry.node, ?_, fun fresh => ?_⟩))
      · simp only [Graph.fresh, Finset.mem_filter, mem_toFinset]
        exact ⟨known, ‹_›, ‹_›⟩
      · exact (fewer _ fresh).1 rfl
    · refine Prod.Lex.right' _ (Finset.card_le_card fun node fresh => (fewer node fresh).2) ?_
      simp [weight, Graph.expand, graph.leaf _ known, *]

variable {graph limit} {stack : List (Entry Node)} {marks ended : Marks Node}

abbrev Graph.Edge (graph : Graph Node) (source target : Node) : Prop :=
  target ∈ graph.children source

section Completion

/-- Below each node to be left, its children are known: completed already, or above it. -/
def Covered (graph : Graph Node) (known : Node → Prop) : List (Entry Node) → Prop
  | [] => True
  | entry :: stack => (entry.leaving → ∀ child ∈ graph.children entry.node, known child) ∧
    Covered graph (fun node => known node ∨ node = entry.node) stack

omit [DecidableEq Node] in
theorem Covered.mono {known known' : Node → Prop} (covered : Covered graph known stack)
    (more : ∀ node, known node → known' node) : Covered graph known' stack := by
  induction stack generalizing known known' with
  | nil => trivial
  | cons entry stack ih =>
    exact ⟨fun leaving child member => more child (covered.1 leaving child member),
      ih covered.2 fun node => Or.imp_left (more node)⟩

omit [DecidableEq Node] in
theorem Covered.enter {known : Node → Prop} {entries : List (Entry Node)}
    (entered : ∀ entry ∈ entries, entry.leaving = false)
    (covered : Covered graph (fun node => known node ∨ ∃ entry ∈ entries, node = entry.node)
      stack) : Covered graph known (entries ++ stack) := by
  induction entries generalizing known with
  | nil => exact covered.mono fun node => by simp
  | cons entry entries ih =>
    rw [forall_mem_cons] at entered
    refine ⟨fun leaving => by simp [entered.1] at leaving,
      ih entered.2 (covered.mono fun node => ?_)⟩
    simp [or_assoc]

theorem walk_completes (succeeds : walk graph limit stack marks = .ok ended)
    (grounded : ∀ node ∈ marks.completed, Acc (flip graph.Edge) node)
    (covered : Covered graph (· ∈ marks.completed) stack) :
    (∀ node ∈ ended.completed, Acc (flip graph.Edge) node) ∧
      (∀ node ∈ marks.completed, node ∈ ended.completed) ∧
      ∀ entry ∈ stack, entry.node ∈ ended.completed := by
  fun_induction walk graph limit stack marks with
  | case1 marks =>
    cases succeeds
    exact ⟨grounded, fun _ => id, forall_mem_nil _⟩
  | case2 entry stack marks leaving ih =>
    obtain ⟨well, kept, rest⟩ := ih succeeds (forall_mem_cons.mpr
        ⟨.intro _ fun child edge => grounded child (covered.1 leaving child edge), grounded⟩)
      (covered.2.mono fun node => by simp [Marks.leave, or_comm])
    rw [Marks.leave, forall_mem_cons] at kept
    rw [forall_mem_cons]
    exact ⟨well, kept.2, kept.1, rest⟩
  | case3 | case5 => cases succeeds
  | case4 entry stack marks _ _ completed ih =>
    obtain ⟨well, kept, rest⟩ := ih succeeds grounded (covered.2.mono fun node known => by
      rcases known with known | rfl
      · exact known
      · exact completed)
    exact ⟨well, kept, forall_mem_cons.mpr ⟨kept _ completed, rest⟩⟩
  | case6 entry stack marks _ _ _ _ ih =>
    obtain ⟨well, kept, rest⟩ := ih succeeds grounded (.enter (by simp [Graph.expand])
      ⟨fun _ child member =>
          .inr ⟨⟨child, entry.depth + 1, false⟩, by simpa [Graph.expand] using member, rfl⟩,
        covered.2.mono fun node => Or.imp_left .inl⟩)
    rw [forall_mem_append, forall_mem_cons] at rest
    exact ⟨well, kept, forall_mem_cons.mpr rest.2⟩

end Completion

section Acceptance

variable {root : Node}

/-- The edges that leave nodes not completed yet. -/
def Graph.Open (graph : Graph Node) (completed : List Node) (source target : Node) : Prop :=
  graph.Edge source target ∧ source ∉ completed

/-- A search from a root: each entry ends a path from the root that is as long as its depth, and
each node to be left leads to what is above it. -/
structure Searches (graph : Graph Node) (before : List Node) (root : Node)
    (stack : List (Entry Node)) (marks : Marks Node) : Prop where
  depths : ∀ entry ∈ stack, entry.leaving = false → ∀ length,
    Dependency.PathFrom (graph.Open before) length entry.node →
      Dependency.PathFrom (graph.Open before) (entry.depth + length) root
  above : stack.Pairwise fun upper lower =>
    lower.leaving → TransGen graph.Edge lower.node upper.node
  visiting : ∀ node ∈ marks.visiting, ∃ entry ∈ stack, entry.leaving ∧ entry.node = node
  kept : ∀ node ∈ before, node ∈ marks.completed

omit [DecidableEq Node] in
theorem searches_root (completed : List Node) :
    Searches graph completed root [⟨root, 0, false⟩] ⟨[], completed⟩ where
  depths := by
    rintro _ member _ length path
    rw [mem_singleton.mp member, Nat.zero_add]
    rwa [mem_singleton.mp member] at path
  above := pairwise_singleton _ _
  visiting := forall_mem_nil _
  kept _ := id

/-- A search from a root succeeds where no cycle is, and no path from the root over nodes not yet
completed is longer than the limit. -/
theorem walk_accepts (acyclic : Acyclic graph.Edge) {before : List Node}
    (short : ∀ length, PathFrom (graph.Open before) length root → length ≤ limit)
    (searches : Searches graph before root stack marks) :
    ∃ completed, walk graph limit stack marks = .ok ⟨[], completed⟩ := by
  obtain ⟨depths, above, visiting, kept⟩ := searches
  fun_induction walk graph limit stack marks with
  | case1 marks =>
    obtain ⟨visited, completed⟩ := marks
    have none : visited = [] := eq_nil_iff_forall_not_mem.mpr fun node member => by
      simpa using visiting node member
    exact ⟨completed, by rw [none]⟩
  | case2 entry stack marks leaving ih =>
    rw [pairwise_cons] at above
    refine ih (forall_mem_cons.mp depths).2 above.2 (fun node member => ?_)
      fun node member => mem_cons_of_mem _ (kept node member)
    simp only [Marks.leave, mem_filter, decide_eq_true_eq] at member
    obtain ⟨other, listed, left, rfl⟩ := visiting node member.1
    rcases mem_cons.mp listed with rfl | listed
    · exact absurd rfl member.2
    · exact ⟨other, listed, left, rfl⟩
  | case3 entry stack marks entering tooDeep =>
    have path := depths entry mem_cons_self (by simpa using entering) 0 trivial
    exact absurd (short _ path) (Nat.not_le.mpr tooDeep)
  | case4 entry stack marks entering _ completed ih =>
    rw [pairwise_cons] at above
    refine ih (forall_mem_cons.mp depths).2 above.2 (fun node member => ?_) kept
    obtain ⟨other, listed, left, rfl⟩ := visiting node member
    rcases mem_cons.mp listed with rfl | listed
    · contradiction
    · exact ⟨other, listed, left, rfl⟩
  | case5 entry stack marks entering _ _ visited =>
    obtain ⟨other, listed, left, same⟩ := visiting _ visited
    rcases mem_cons.mp listed with rfl | listed
    · contradiction
    · exact absurd (same ▸ (pairwise_cons.mp above).1 other listed left) (acyclic _)
  | case6 entry stack marks entering _ incomplete _ ih =>
    rw [pairwise_cons] at above
    have child {upper : Entry Node} (member : upper ∈ graph.expand entry) :
        graph.Edge entry.node upper.node ∧ upper.depth = entry.depth + 1 ∧
          upper.leaving = false := by
      obtain ⟨child, edge, rfl⟩ := mem_map.mp member
      exact ⟨mem_reverse.mp edge, rfl, rfl⟩
    refine ih ?_ ?_ ?_ kept
    · intro upper member below length path
      rcases mem_append.mp member with member | member
      · obtain ⟨edge, depth, _⟩ := child member
        rw [depth, Nat.add_assoc, Nat.add_comm 1]
        refine depths entry mem_cons_self (by simpa using entering) _ ⟨_, ⟨edge, ?_⟩, path⟩
        exact fun completed => incomplete (kept _ completed)
      · rcases mem_cons.mp member with rfl | member
        · cases below
        · exact depths upper (mem_cons_of_mem _ member) below length path
    · refine pairwise_append.mpr ⟨?_, pairwise_cons.mpr ⟨above.1, above.2⟩, ?_⟩
      · refine pairwise_of_forall_mem_list fun _ _ lower member left => ?_
        rw [(child member).2.2] at left
        cases left
      · intro upper member lower listed left
        rcases mem_cons.mp listed with rfl | listed
        · exact .single (child member).1
        · exact .tail (above.1 lower listed left) (child member).1
    · intro node member
      rcases mem_cons.mp member with rfl | member
      · exact ⟨{ entry with leaving := true }, mem_append_right _ mem_cons_self, rfl, rfl⟩
      · obtain ⟨other, listed, left, rfl⟩ := visiting node member
        rcases mem_cons.mp listed with rfl | listed
        · contradiction
        · exact ⟨other, mem_append_right _ (mem_cons_of_mem _ listed), left, rfl⟩

end Acceptance

section Roots

variable (graph limit) in
def visit (marks : Marks Node) (root : Node) : Except Refusal (Marks Node) :=
  if root ∈ marks.completed then .ok marks else walk graph limit [⟨root, 0, false⟩] marks

variable (graph limit) in
def search (roots : List Node) (marks : Marks Node) : Except Refusal (Marks Node) :=
  roots.foldlM (visit graph limit) marks

variable {roots : List Node}

theorem search_acyclic (complete : ∀ source target, graph.Edge source target → source ∈ roots)
    (succeeds : search graph limit roots ⟨[], []⟩ = .ok ended) :
    Acyclic graph.Edge := by
  have each (roots : List Node) (marks : Marks Node)
      (grounded : ∀ node ∈ marks.completed, Acc (flip graph.Edge) node)
      (succeeds : search graph limit roots marks = .ok ended) :
      (∀ node ∈ ended.completed, Acc (flip graph.Edge) node) ∧
        (∀ node ∈ marks.completed, node ∈ ended.completed) ∧
          ∀ root ∈ roots, root ∈ ended.completed := by
    induction roots generalizing marks with
    | nil =>
      cases succeeds
      exact ⟨grounded, fun _ => id, forall_mem_nil _⟩
    | cons root roots ih =>
      obtain ⟨next, searched, succeeds⟩ := Except.bind_eq_ok.mp succeeds
      have step : (∀ node ∈ next.completed, Acc (flip graph.Edge) node) ∧
          (∀ node ∈ marks.completed, node ∈ next.completed) ∧ root ∈ next.completed := by
        unfold visit at searched
        split_ifs at searched with done
        · cases searched
          exact ⟨grounded, fun _ => id, done⟩
        · obtain ⟨well, kept, entered⟩ := walk_completes searched grounded (by simp [Covered])
          exact ⟨well, kept, entered _ (mem_singleton_self _)⟩
      obtain ⟨well, kept, rest⟩ := ih next step.1 succeeds
      exact ⟨well, fun node member => kept node (step.2.1 node member),
        forall_mem_cons.mpr ⟨kept root step.2.2, rest⟩⟩
  obtain ⟨well, _, entered⟩ := each roots _ (forall_mem_nil _) succeeds
  intro node cycle
  obtain ⟨next, edge, _⟩ := TransGen.head'_iff.mp cycle
  exact not_cyclic_of_acc (well node (entered node (complete node next edge))) cycle

theorem search_accepts (acyclic : Acyclic graph.Edge)
    (short : ∀ earlier root later, roots = earlier ++ root :: later → ∀ before,
      (∀ node ∈ earlier, node ∈ before) → ∀ length,
        PathFrom (graph.Open before) length root → length ≤ limit) :
    ∃ completed, search graph limit roots ⟨[], []⟩ = .ok ⟨[], completed⟩ := by
  have each (earlier later before : List Node) (same : roots = earlier ++ later)
      (entered : ∀ node ∈ earlier, node ∈ before)
      (grounded : ∀ node ∈ before, Acc (flip graph.Edge) node) :
      ∃ completed, search graph limit later ⟨[], before⟩ = .ok ⟨[], completed⟩ := by
    induction later generalizing earlier before with
    | nil => exact ⟨before, rfl⟩
    | cons root later ih =>
      have onward (next : List Node) (grounded : ∀ node ∈ next, Acc (flip graph.Edge) node)
          (kept : ∀ node ∈ before, node ∈ next) (done : root ∈ next) :=
        ih (earlier ++ [root]) next (by rw [same, append_assoc, singleton_append])
          (forall_mem_append.mpr ⟨fun node member => kept node (entered node member),
            forall_mem_singleton.mpr done⟩) grounded
      rw [search, foldlM_cons, visit]
      split_ifs with done
      · exact onward before grounded (fun _ => id) done
      · obtain ⟨next, walked⟩ := walk_accepts acyclic (short earlier root later same before entered)
          (searches_root before)
        obtain ⟨well, kept, reached⟩ := walk_completes walked grounded (by simp [Covered])
        rw [walked]
        exact onward next well kept (reached _ (mem_singleton_self _))
  exact each [] roots [] rfl (forall_mem_nil _) (forall_mem_nil _)

end Roots

end DepthFirst
