import Kestrel.A2A.OutboundEvidence

/-!
# Lineages of continuations

Every dispatch descends from a root with its route, and every follow-up keeps the task and context
of its parent.
-/

namespace Kestrel.A2A

open Binding List

namespace OutboundRows

variable {rows : OutboundRows} {sender : NativeRecipientScope} {dispatchId : String}
  {row dispatch updated : OutboundDispatch}

theorem mem_of_get (found : rows.get sender dispatchId = some row) :
    row ∈ rows ∧ row.sender = sender ∧ row.dispatchId = dispatchId := by
  have same := find?_some found
  have key := of_decide_eq_true same
  exact ⟨mem_of_find?_eq_some found, congrArg Prod.fst key, congrArg Prod.snd key⟩

theorem mem_replace {other : OutboundDispatch} (member : other ∈ rows.replace dispatch updated) :
    (other ∈ rows ∧ other ≠ dispatch) ∨ other = updated := by
  obtain ⟨row, stored, rfl⟩ := mem_map.mp member
  by_cases same : row = dispatch
  · rw [if_pos same]
    exact .inr rfl
  · rw [if_neg same]
    exact .inl ⟨stored, same⟩

theorem updated_mem_replace (stored : dispatch ∈ rows) : updated ∈ rows.replace dispatch updated :=
  mem_map.mpr ⟨dispatch, stored, if_pos rfl⟩

theorem mem_replace_of_ne (stored : row ∈ rows) (distinct : row ≠ dispatch) :
    row ∈ rows.replace dispatch updated :=
  mem_map.mpr ⟨row, stored, if_neg distinct⟩

end OutboundRows

theorem OutboundDispatch.Conflicts.symm {first second : OutboundDispatch}
    (conflict : first.Conflicts second) : second.Conflicts first := by
  obtain ⟨sender, same⟩ := conflict
  refine ⟨sender.symm, ?_⟩
  rcases same with same | same | ⟨peer, taskId, named, owns⟩ | ⟨parentId, named, live⟩
  · exact .inl same.symm
  · exact .inr (.inl same.symm)
  · exact .inr (.inr (.inl ⟨peer.symm, taskId, owns.2.1, owns.symm⟩))
  · exact .inr (.inr (.inr ⟨parentId, live.2.1, live.symm⟩))

theorem OutboundRows.Indexed.eq_of_conflicts {rows : OutboundRows} (indexed : rows.Indexed)
    {first second : OutboundDispatch} (member : first ∈ rows) (member' : second ∈ rows)
    (conflict : first.Conflicts second) : first = second := by
  by_contra distinct
  have symmetric : Std.Symm fun first second : OutboundDispatch => ¬ first.Conflicts second :=
    ⟨fun _ _ free conflict => free conflict.symm⟩
  exact Pairwise.forall indexed member member' distinct conflict

/-- A row's lineage, from a parent to its parent, ends at a root. -/
inductive Lineage (rows : OutboundRows) : OutboundDispatch → OutboundDispatch → Prop where
  | root {row : OutboundDispatch} : row ∈ rows → row.parentDispatchId = none →
      row.rootDispatchId = row.dispatchId → Lineage rows row row
  | follow {row parent root : OutboundDispatch} : row ∈ rows →
      row.parentDispatchId = some parent.dispatchId → parent.routeBinding = row.routeBinding →
      parent.rootDispatchId = row.rootDispatchId →
      row.remoteTaskId ≠ none → parent.remoteTaskId = row.remoteTaskId →
      row.remoteContextId ≠ none → parent.remoteContextId = row.remoteContextId →
      Lineage rows parent root → Lineage rows row root

namespace Lineage

variable {rows : OutboundRows} {row root : OutboundDispatch}

theorem mono {wider : OutboundRows} (included : rows ⊆ wider) (lineage : Lineage rows row root) :
    Lineage wider row root := by
  induction lineage with
  | root member alone names => exact .root (included member) alone names
  | follow member child route names named task known context _ ih =>
    exact .follow (included member) child route names named task known context ih

theorem ends (lineage : Lineage rows row root) :
    root ∈ rows ∧ root.parentDispatchId = none ∧ root.dispatchId = row.rootDispatchId ∧
      root.routeBinding = row.routeBinding ∧
      (row.parentDispatchId ≠ none → row.remoteTaskId ≠ none ∧
        root.remoteTaskId = row.remoteTaskId ∧ row.remoteContextId ≠ none ∧
        root.remoteContextId = row.remoteContextId) := by
  induction lineage with
  | root member alone names =>
    exact ⟨member, alone, names.symm, rfl, fun child => (child alone).elim⟩
  | @follow row parent root member child route names named task known context older ih =>
    obtain ⟨stored, alone, final, same, identity⟩ := ih
    refine ⟨stored, alone, final.trans names, same.trans route, ?_⟩
    intro _
    refine ⟨named, ?_, known, ?_⟩
    · cases older with
      | root => exact task
      | follow member' child' =>
        have inherited := identity (by rw [child']; exact Option.some_ne_none _)
        exact inherited.2.1.trans task
    · cases older with
      | root => exact context
      | follow member' child' =>
        have inherited := identity (by rw [child']; exact Option.some_ne_none _)
        exact inherited.2.2.2.trans context

theorem replace {dispatch updated : OutboundDispatch}
    (successor : Successor dispatch updated) (lineage : Lineage rows row root) :
    Lineage (rows.replace dispatch updated) (if row = dispatch then updated else row)
      (if root = dispatch then updated else root) := by
  have member : ∀ row ∈ rows,
      (if row = dispatch then updated else row) ∈ rows.replace dispatch updated :=
    fun row stored => mem_map.mpr ⟨row, stored, rfl⟩
  have advances : ∀ row : OutboundDispatch,
      Successor row (if row = dispatch then updated else row) := by
    intro row
    by_cases same : row = dispatch
    · rw [if_pos same, same]
      exact successor
    · rw [if_neg same]
      exact .refl row
  induction lineage with
  | @root row stored alone names =>
    have kept := (advances row).binding
    refine .root (member row stored) ?_ ?_
    · exact (congrArg parentDispatchId kept).trans alone
    · exact (congrArg rootDispatchId kept).trans
        (names.trans (congrArg dispatchId kept).symm)
  | @follow row parent root stored child route names named task known context older ih =>
    have kept := advances row
    have keptParent := advances parent
    refine .follow (member row stored) ?_ ?_ ?_ ?_ ?_ ?_ ?_ ih
    · exact (congrArg Binding.parentDispatchId kept.binding).trans
        (child.trans (congrArg some (congrArg Binding.dispatchId keptParent.binding).symm))
    · exact (congrArg Binding.route keptParent.binding).trans
        (route.trans (congrArg Binding.route kept.binding).symm)
    · exact (congrArg Binding.rootDispatchId keptParent.binding).trans
        (names.trans (congrArg Binding.rootDispatchId kept.binding).symm)
    · rw [kept.task named]
      exact named
    · rw [kept.task named, keptParent.task (task ▸ named), task]
    · rw [kept.context known]
      exact known
    · rw [kept.context known, keptParent.context (context ▸ known), context]

end Lineage

/-! ## The walk of `require_continuation` -/

theorem OutboundRows.requireContinuation_eq_ok {rows : OutboundRows}
    {dispatch parent root : OutboundDispatch}
    (child : dispatch.parentDispatchId = some parent.dispatchId)
    (required : rows.requireContinuation dispatch (some parent) = .ok root) :
    parent ∈ rows ∧ dispatch.continues (some parent) parent := by
  unfold OutboundRows.requireContinuation at required
  rw [child] at required
  obtain ⟨_, walked, _⟩ := Except.bind_eq_ok.mp required
  rw [OutboundRows.lineage] at walked
  split_ifs at walked with met
  cases found : rows.get dispatch.sender parent.dispatchId with
  | none =>
    rw [found] at walked
    cases walked
  | some current =>
    rw [found] at walked
    dsimp only at walked
    split_ifs at walked with continues
    obtain ⟨stored, _, named⟩ := OutboundRows.mem_of_get found
    have same : current = parent := continues.1 parent rfl named
    subst same
    exact ⟨stored, continues⟩

end Kestrel.A2A
