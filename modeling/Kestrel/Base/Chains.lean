import Kestrel.Base.Acyclic
import Kestrel.Base.Except

/-!
# Walks along the successors of a functional graph

Every node leads to at most one other. The walks from several starts share the nodes that an earlier
walk completed.
-/

namespace Chains

open List Relation Dependency

/-- Where a node leads: nowhere, so that its chain is open, to a stop, or onward. -/
inductive Next (Node : Type*) where
  | opens
  | stops
  | onward (node : Node)

/-- The successors of finitely many nodes. -/
structure Chain (Node : Type*) where
  sources : List Node
  next : Node → Next Node
  finite : ∀ source target, next source = .onward target → source ∈ sources

variable {Node : Type*} (chain : Chain Node)

abbrev Chain.Edge (source target : Node) : Prop := chain.next source = .onward target

/-- Following successors from a node goes around a cycle. -/
def Chain.Cycles (start : Node) : Prop :=
  ∃ node, ReflTransGen chain.Edge start node ∧ TransGen chain.Edge node node

/-- A walk moves from a node to the next one and keeps the path behind it. -/
def Chain.Moves (completed : List Node) (before after : Node × List Node) : Prop :=
  before.1 ∉ completed ∧ before.1 ∉ before.2 ∧ chain.Edge before.1 after.1 ∧
    after.2 = before.1 :: before.2

variable [DecidableEq Node]

/-- The sources that a path has not gone through. -/
def Chain.remaining (path : List Node) : ℕ := (chain.sources.filter (· ∉ path)).length

variable {chain}

theorem Chain.remaining_lt {cursor target : Node} {path : List Node}
    (edge : chain.Edge cursor target)
    (fresh : cursor ∉ path) : chain.remaining (cursor :: path) < chain.remaining path := by
  unfold remaining
  have fewer : (chain.sources.filter (· ∉ cursor :: path)) =
      (chain.sources.filter (· ∉ path)).filter (· ≠ cursor) := by
    simp [filter_filter]
  rw [fewer]
  refine length_filter_lt_length_iff_exists.mpr ⟨cursor, ?_, by simp⟩
  exact mem_filter.mpr ⟨chain.finite _ _ edge, by simpa using fresh⟩

theorem Chain.moves_wellFounded (completed : List Node) :
    WellFounded (flip (chain.Moves completed)) := by
  refine Subrelation.wf ?_ (measure fun at' : Node × List Node => chain.remaining at'.2).wf
  intro after before moves
  obtain ⟨_, fresh, edge, grown⟩ := moves
  change chain.remaining after.2 < chain.remaining before.2
  rw [grown]
  exact Chain.remaining_lt edge fresh

variable (chain)

/-- Walk until the chain ends or meets a completed node, and return the path with the open end.
Nothing is returned where the walk meets its own path. -/
def walk (completed : List Node) (cursor : Node) (path : List Node) :
    Option (List Node × Option Node) :=
  if cursor ∈ completed then some (path, none)
  else if cursor ∈ path then none
  else
    match _ : chain.next cursor with
    | .opens => some (cursor :: path, some cursor)
    | .stops => some (cursor :: path, none)
    | .onward target => walk completed target (cursor :: path)
termination_by chain.remaining path
decreasing_by exact Chain.remaining_lt ‹_› ‹_›

/-- The open ends and the completed nodes after a walk from one more start. -/
def visit (found : List Node × List Node) (start : Node) : Option (List Node × List Node) :=
  if start ∈ found.2 then some found
  else
    (walk chain found.2 start []).map fun (path, last) =>
      (found.1 ++ last.toList, path ++ found.2)

def ends (starts : List Node) : Option (List Node) :=
  (starts.foldlM (visit chain) ([], [])).map Prod.fst

variable {chain}

/-- The open ends and the completed nodes that walks from the starts may leave behind. -/
structure Completed (chain : Chain Node) (starts : List Node) (found : List Node × List Node) :
    Prop where
  closed : ∀ source ∈ found.2, ∀ target, chain.Edge source target → target ∈ found.2
  grounded : ∀ node ∈ found.2, Acc (flip chain.Edge) node
  reached : ∀ node ∈ found.2, ∃ start ∈ starts, ReflTransGen chain.Edge start node
  exact : ∀ node, node ∈ found.1 ↔ node ∈ found.2 ∧ chain.next node = .opens
  nodup : found.1.Nodup

variable {starts terminal completed path : List Node} {cursor start : Node}

omit [DecidableEq Node] in
theorem Completed.add (inv : Completed chain starts (terminal, completed)) (last : Option Node)
    {completed' : List Node} (grown : ∀ node, node ∈ completed' ↔ node = cursor ∨ node ∈ completed)
    (links : ∀ target, chain.Edge cursor target → target ∈ completed)
    (reached : ∃ start ∈ starts, ReflTransGen chain.Edge start cursor)
    (ends : ∀ node, node ∈ last.toList ↔ node = cursor ∧ chain.next node = .opens)
    (fresh : chain.next cursor = .opens → cursor ∉ completed) :
    Completed chain starts (terminal ++ last.toList, completed') := by
  refine ⟨?_, ?_, ?_, fun node => ?_, ?_⟩
  · simp only [grown, forall_eq_or_imp]
    exact ⟨fun target edge => .inr (links target edge), fun source member target edge =>
      .inr (inv.closed source member target edge)⟩
  · simp only [grown, forall_eq_or_imp]
    exact ⟨.intro _ fun target edge => inv.grounded target (links target edge), inv.grounded⟩
  · simp only [grown, forall_eq_or_imp]
    exact ⟨reached, inv.reached⟩
  · rw [mem_append, inv.exact, ends, grown, or_and_right, or_comm]
  · refine nodup_append.mpr ⟨inv.nodup, Option.toList_nodup last, ?_⟩
    rintro node old _ new rfl
    obtain ⟨rfl, opens⟩ := (ends node).mp new
    exact fresh opens ((inv.exact node).mp old).1

/-- A walk that returns has completed what it went through. -/
theorem Completed.walk (inv : Completed chain starts (terminal, completed))
    (reached : ∃ start ∈ starts, ReflTransGen chain.Edge start cursor)
    {path' : List Node} {last : Option Node}
    (walked : Chains.walk chain completed cursor path = some (path', last)) :
    ∃ visited, path' = visited ++ path ∧ cursor ∈ visited ++ completed ∧
      Completed chain starts (terminal ++ last.toList, visited ++ completed) := by
  fun_induction Chains.walk chain completed cursor path with
  | case1 cursor path done =>
    cases walked
    exact ⟨[], rfl, done, by simpa using inv⟩
  | case2 => cases walked
  | case3 cursor path fresh _ opens =>
    cases walked
    refine ⟨[cursor], rfl, mem_cons_self,
      inv.add _ (fun _ => mem_cons) ?_ reached ?_ fun _ => fresh⟩
    · intro target edge
      cases opens.symm.trans edge
    · intro node
      rw [Option.toList_some, mem_singleton]
      exact ⟨fun same => ⟨same, same ▸ opens⟩, And.left⟩
  | case4 cursor path fresh _ stops =>
    cases walked
    refine ⟨[cursor], rfl, mem_cons_self,
      inv.add _ (fun _ => mem_cons) ?_ reached ?_ fun _ => fresh⟩
    · intro target edge
      cases stops.symm.trans edge
    · rintro node
      refine iff_of_false not_mem_nil ?_
      rintro ⟨rfl, opens⟩
      cases stops.symm.trans opens
  | case5 cursor path fresh _ target edge ih =>
    obtain ⟨start, listed, reaches⟩ := reached
    obtain ⟨visited, rfl, done, inv⟩ := ih ⟨start, listed, reaches.tail edge⟩ walked
    refine ⟨visited ++ [cursor], by simp, by simp, ?_⟩
    rw [← append_nil (terminal ++ last.toList)]
    refine inv.add none (fun _ => by simp [or_left_comm]) ?_ ⟨start, listed, reaches⟩ ?_ ?_
    · intro _ other
      cases edge.symm.trans other
      exact done
    · intro node
      refine iff_of_false not_mem_nil ?_
      rintro ⟨rfl, opens⟩
      cases edge.symm.trans opens
    · intro opens
      cases edge.symm.trans opens

theorem cycles_of_walk (leads : ∀ node ∈ path, TransGen chain.Edge node cursor)
    (reached : ReflTransGen chain.Edge start cursor)
    (walked : walk chain completed cursor path = none) : chain.Cycles start := by
  fun_induction walk chain completed cursor path with
  | case1 | case3 | case4 => cases walked
  | case2 cursor path _ visited => exact ⟨cursor, reached, leads cursor visited⟩
  | case5 cursor path _ _ target edge ih =>
    exact ih (forall_mem_cons.mpr ⟨.single edge, fun node member => (leads node member).tail edge⟩)
      (reached.tail edge) walked

omit [DecidableEq Node] in
theorem not_cycles_of_acc (grounded : Acc (flip chain.Edge) start) : ¬ chain.Cycles start := by
  rintro ⟨node, reached, cycle⟩
  induction grounded with
  | intro start grounded ih =>
    rcases ReflTransGen.cases_head reached with rfl | ⟨next, edge, rest⟩
    · exact not_cyclic_of_acc (.intro _ grounded) cycle
    · exact ih next edge rest

theorem Completed.visit {found : List Node × List Node} (inv : Completed chain starts found)
    (listed : start ∈ starts) : match Chains.visit chain found start with
      | none => chain.Cycles start
      | some found' => Completed chain starts found' ∧ start ∈ found'.2 ∧ found.2 ⊆ found'.2 := by
  obtain ⟨terminal, completed⟩ := found
  unfold Chains.visit
  split_ifs with done
  · exact ⟨inv, done, Subset.refl _⟩
  · cases walked : Chains.walk chain completed start [] with
    | none => exact cycles_of_walk (forall_mem_nil _) .refl walked
    | some result =>
      obtain ⟨path, last⟩ := result
      obtain ⟨visited, rfl, member, inv⟩ := inv.walk ⟨start, listed, .refl⟩ walked
      rw [append_nil] at walked ⊢
      exact ⟨inv, member, subset_append_right _ _⟩

theorem Completed.visits {found : List Node × List Node} (inv : Completed chain starts found)
    {rest : List Node} (listed : rest ⊆ starts) : match rest.foldlM (Chains.visit chain) found with
      | none => ∃ start ∈ starts, chain.Cycles start
      | some found' => Completed chain starts found' ∧ rest ⊆ found'.2 ∧ found.2 ⊆ found'.2 := by
  induction rest generalizing found with
  | nil => exact ⟨inv, nil_subset _, Subset.refl _⟩
  | cons start rest ih =>
    obtain ⟨first, listed⟩ := cons_subset.mp listed
    have visited := inv.visit first
    rw [foldlM_cons]
    cases next : Chains.visit chain found start with
    | none =>
      rw [next] at visited
      exact ⟨start, first, visited⟩
    | some found' =>
      rw [next] at visited
      obtain ⟨inv, done, grown⟩ := visited
      have rests := ih inv listed
      rw [Option.bind_eq_bind, Option.bind_some]
      cases ended : rest.foldlM (Chains.visit chain) found' with
      | none =>
        rw [ended] at rests
        exact rests
      | some found'' =>
        rw [ended] at rests
        exact ⟨rests.1, cons_subset.mpr ⟨rests.2.2 done, rests.2.1⟩, Subset.trans grown rests.2.2⟩

/-- The walks find no ends exactly where a start leads around a cycle. Elsewhere they find each open
end that a start leads to, once. -/
theorem ends_exact (chain : Chain Node) (starts : List Node) :
    (ends chain starts = none ↔ ∃ start ∈ starts, chain.Cycles start) ∧
      ∀ terminal, ends chain starts = some terminal → terminal.Nodup ∧ ∀ node, node ∈ terminal ↔
        chain.next node = .opens ∧ ∃ start ∈ starts, ReflTransGen chain.Edge start node := by
  have initial : Completed chain starts ([], []) :=
    ⟨nofun, nofun, nofun, fun _ => by simp, nodup_nil⟩
  have visited := initial.visits (Subset.refl starts)
  unfold ends
  cases ended : starts.foldlM (visit chain) ([], []) with
  | none =>
    rw [ended] at visited
    exact ⟨iff_of_true rfl visited, nofun⟩
  | some found =>
    rw [ended] at visited
    obtain ⟨inv, done, _⟩ := visited
    refine ⟨iff_of_false nofun ?_, ?_⟩
    · rintro ⟨start, listed, cycles⟩
      exact not_cycles_of_acc (inv.grounded start (done listed)) cycles
    · have reaches (node : Node) :
          (∃ start ∈ starts, ReflTransGen chain.Edge start node) → node ∈ found.2 := by
        rintro ⟨start, listed, path⟩
        induction path with
        | refl => exact done listed
        | tail _ edge ih => exact inv.closed _ ih _ edge
      rintro _ ⟨⟩
      refine ⟨inv.nodup, fun node => ?_⟩
      rw [inv.exact, and_comm]
      exact and_congr_right fun _ => ⟨inv.reached node, reaches node⟩

end Chains
