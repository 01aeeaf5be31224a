import Kestrel.Storage.Reconciliation

/-!
# Reconciliation over runs

Pages of one profile follow one another until no cursor is returned. Then no active proof of
another profile is left, and the store is grounded exactly when the last page found a conclusion
to retract or left all its conclusions on grounded proofs.
-/

namespace Kestrel.AssertionStore

open List Domain

variable {D : Domain}

/-- A mutation of the canonical lifecycle or a page of the reconciliation. -/
inductive Maintenance (D : Domain) where
  | mutate (mutation : Mutation D)
  | reconcile (activeProfileKey : Option D.Name) (cursor : Option D.DerivationId)
      (maxDerivations : ℕ)

namespace Store

/-- A page commits with identifiers that no stored revision has. -/
def Reconciles (before : Store D) (activeProfileKey : Option D.Name)
    (cursor : Option D.DerivationId) (maxDerivations : ℕ) (after : Store D)
    (nextCursor : Option D.DerivationId) : Prop :=
  ∃ (supply : Supply D) (result : InferenceReconciliationResult D), supply.FreshFrom 0 before ∧
    before.reconcileObsoleteDerivationsPage supply activeProfileKey cursor maxDerivations =
      .ok (after, result) ∧ result.nextCursor = nextCursor

/-- The step relation of the lifecycle with its reconciliation. -/
def Maintains (before : Store D) : Maintenance D → Store D → Prop
  | .mutate mutation, after => before.Commits mutation after
  | .reconcile activeProfileKey cursor maxDerivations, after =>
    ∃ nextCursor, before.Reconciles activeProfileKey cursor maxDerivations after nextCursor

/-- What the code of the step does not check. -/
def MaintenanceSafe (store : Store D) : Maintenance D → Prop
  | .mutate mutation => store.MutationSafe mutation
  | .reconcile activeProfileKey cursor maxDerivations =>
    store.PageGrounds activeProfileKey cursor maxDerivations

def PageContinues (key : D.Name) (source : Store D × Option D.DerivationId)
    (maxDerivations : ℕ) (target : Store D × Option D.DerivationId) : Prop :=
  source.1.Reconciles (some key) source.2 maxDerivations target.1 target.2 ∧ target.2 ≠ none

/-- Every active proof belongs to the profile. -/
def OnlyProfile (store : Store D) (key : D.Name) : Prop :=
  ∀ derivationId derivation, store.derivations.row derivationId = some derivation →
    derivation.active = true → derivation.profileKey = key

/-- Every active proof of another profile is after the cursor. -/
def RetiredThrough (store : Store D) (key : D.Name) (cursor : Option D.DerivationId) : Prop :=
  ∀ derivationId derivation, store.derivations.row derivationId = some derivation →
    derivation.active = true → derivation.profileKey ≠ key →
      ∀ last, cursor = some last → last < derivationId

variable {store before after : Store D} {key : D.Name} {cursor : Option D.DerivationId}
  {maxDerivations : ℕ}

variable {derivationId : D.DerivationId}

theorem mem_obsoleteDerivations {derivation : Derivation D} :
    (derivationId, derivation) ∈ store.obsoleteDerivations (some key) cursor ↔
      (store.derivations.row derivationId = some derivation ∧ derivation.active = true) ∧
        derivation.profileKey ≠ key ∧ ∀ last, cursor = some last → last < derivationId := by
  unfold obsoleteDerivations
  rw [mem_filter, mem_activeDerivations, Bool.and_eq_true, Option.all_some,
    decide_eq_true_eq, Option.all_eq_true]
  simp only [decide_eq_true_eq]

theorem pairwise_obsoleteDerivations (store : Store D) (activeProfileKey : Option D.Name)
    (cursor : Option D.DerivationId) :
    (store.obsoleteDerivations activeProfileKey cursor).Pairwise fun first second =>
      first.1 < second.1 := by
  have sorted : store.activeDerivations.Pairwise fun first second => first.1 ≤ second.1 :=
    pairwise_insertionSort _ _
  have distinct : store.activeDerivations.Nodup :=
    ((perm_insertionSort _ _).nodup_iff).mpr ((Table.nodup_rows _).filter _)
  refine Pairwise.filter _ ((sorted.and distinct).imp_of_mem ?_)
  intro first second left right ordered
  refine lt_of_le_of_ne ordered.1 fun same => ordered.2 ?_
  have stored := (mem_activeDerivations.mp left).1
  rw [same, (mem_activeDerivations.mp right).1] at stored
  exact Prod.ext same (Option.some.inj stored).symm

theorem unlisted_of_active {activeProfileKey : Option D.Name} {derivation : Derivation D}
    (stored : (store.retirePage activeProfileKey cursor maxDerivations).derivations.row
      derivationId = some derivation) (active : derivation.active = true) :
    store.derivations.row derivationId = some derivation ∧
      (derivationId, derivation) ∉ store.obsoletePage activeProfileKey cursor maxDerivations := by
  obtain ⟨original, found, same⟩ := Option.map_eq_some_iff.mp stored
  dsimp only at same
  split_ifs at same with listed
  · subst same
    cases active
  · subst same
    exact ⟨found, fun member => listed (mem_map_of_mem member)⟩

/-- **A page retires every proof of another profile up to the cursor it returns.** -/
theorem retiredThrough_page {nextCursor : Option D.DerivationId} (coherent : store.Coherent)
    (grounded : store.Grounded) (retired : store.RetiredThrough key cursor)
    (reconciled : store.Reconciles (some key) cursor maxDerivations after nextCursor) :
    (nextCursor = none → after.OnlyProfile key) ∧ after.RetiredThrough key nextCursor := by
  obtain ⟨supply, result, fresh, reconciled, rfl⟩ := reconciled
  obtain ⟨_, activates, _⟩ := reconciled_grounded_iff coherent grounded fresh reconciled
  obtain ⟨_, exhausted, continued⟩ := reconcileObsoleteDerivationsPage_eq_ok reconciled
  have left : ∀ derivationId derivation, after.derivations.row derivationId = some derivation →
      derivation.active = true → derivation.profileKey ≠ key →
      (derivationId, derivation) ∈ store.obsoleteDerivations (some key) cursor ∧
        (derivationId, derivation) ∉ store.obsoletePage (some key) cursor maxDerivations := by
    intro derivationId derivation stored active obsolete
    obtain ⟨found, unlisted⟩ := unlisted_of_active (activates _ _ stored active) active
    exact ⟨mem_obsoleteDerivations.mpr ⟨⟨found, active⟩, obsolete,
      retired derivationId derivation found active obsolete⟩, unlisted⟩
  constructor
  · intro none_left derivationId derivation stored active
    by_contra obsolete
    obtain ⟨found, unlisted⟩ := left derivationId derivation stored active obsolete
    rw [exhausted none_left] at unlisted
    exact unlisted found
  · intro derivationId derivation stored active obsolete last next
    obtain ⟨found, unlisted⟩ := left derivationId derivation stored active obsolete
    obtain ⟨row, final, rfl⟩ := Option.map_eq_some_iff.mp (continued last next)
    have ordered := pairwise_obsoleteDerivations store (some key) cursor
    have listed := mem_of_getLast? final
    unfold obsoletePage at listed unlisted
    rw [take_take, Nat.min_eq_left (Nat.le_succ maxDerivations)] at listed unlisted
    rw [← take_append_drop maxDerivations (store.obsoleteDerivations (some key) cursor)]
      at ordered found
    rcases mem_append.mp found with taken | later
    · exact absurd taken unlisted
    · exact (pairwise_append.mp ordered).2.2 row listed _ later

/-- **Mutations and pages that meet their conditions keep the store grounded.** -/
theorem grounded_maintains {step : Maintenance D} (valid : before.Coherent ∧ before.Grounded)
    (safe : before.MaintenanceSafe step) (stepped : before.Maintains step after) :
    after.Coherent ∧ after.Grounded := by
  cases step with
  | mutate mutation => exact grounded_commits valid safe stepped
  | reconcile activeProfileKey cursor maxDerivations =>
    obtain ⟨nextCursor, supply, result, fresh, reconciled, _⟩ := stepped
    obtain ⟨coherent, _, iff⟩ := reconciled_grounded_iff valid.1 valid.2 fresh reconciled
    exact ⟨coherent, iff.mpr safe⟩

/-- What a sequence of pages keeps. -/
structure Reconciling (key : D.Name) (source : Store D × Option D.DerivationId) : Prop where
  coherent : source.1.Coherent
  grounded : source.1.Grounded
  retired : source.1.RetiredThrough key source.2

theorem Reconciling.continues {source target : Store D × Option D.DerivationId}
    (valid : Reconciling key source)
    (safe : source.1.PageGrounds (some key) source.2 maxDerivations)
    (continued : PageContinues key source maxDerivations target) : Reconciling key target := by
  obtain ⟨reconciled, _⟩ := continued
  obtain ⟨_, retired⟩ := retiredThrough_page valid.coherent valid.grounded valid.retired reconciled
  have page : source.1.MaintenanceSafe (.reconcile (some key) source.2 maxDerivations) := safe
  obtain ⟨coherent, grounded⟩ := grounded_maintains ⟨valid.coherent, valid.grounded⟩ page
    ⟨target.2, reconciled⟩
  exact ⟨coherent, grounded, retired⟩

/-- **Pages of a profile that run until no cursor is returned leave no active proof of another
profile, and leave every active inferred assertion grounded exactly when the last page meets its
condition.** -/
theorem reconciliation_grounds_iff {steps : List (Maintenance D)}
    (run : Transition.Run (Transition.Guarded Maintains MaintenanceSafe) empty steps store)
    {bounds : List ℕ} {middle : Store D × Option D.DerivationId}
    (pages : Transition.Run (Transition.Guarded (PageContinues key)
      (fun source maxDerivations => source.1.PageGrounds (some key) source.2 maxDerivations))
      (store, none) bounds middle)
    (last : middle.1.Reconciles (some key) middle.2 maxDerivations after none) :
    (after.OnlyProfile key ∧ after.Grounded) ↔
      middle.1.PageGrounds (some key) middle.2 maxDerivations := by
  have preserved : ∀ (before : Store D) step after, before.Coherent ∧ before.Grounded →
      before.MaintenanceSafe step → before.Maintains step after →
      after.Coherent ∧ after.Grounded :=
    fun _ _ _ valid safe stepped => grounded_maintains valid safe stepped
  obtain ⟨coherent, grounded⟩ :=
    Transition.invariant_of_guarded preserved ⟨empty_coherent, empty_grounded⟩ run
  have initial : Reconciling key (store, none) :=
    ⟨coherent, grounded, fun _ _ _ _ _ _ impossible => by cases impossible⟩
  have valid : Reconciling key middle := Transition.invariant_of_guarded
    (fun _ _ _ valid safe continued => valid.continues safe continued) initial pages
  obtain ⟨only, _⟩ := retiredThrough_page valid.coherent valid.grounded valid.retired last
  obtain ⟨supply, result, fresh, reconciled, _⟩ := last
  obtain ⟨_, _, iff⟩ := reconciled_grounded_iff valid.coherent valid.grounded fresh reconciled
  rw [← iff]
  exact and_iff_right (only rfl)

/-! ## Runs on natural-number identifiers -/

/-- The tables after a page, unchanged if it is rejected. -/
def afterPage (supply : Supply D) (activeProfileKey : Option D.Name)
    (cursor : Option D.DerivationId) (maxDerivations : ℕ) (store : Store D) : Store D :=
  match store.reconcileObsoleteDerivationsPage supply activeProfileKey cursor maxDerivations with
  | .ok (after, _) => after
  | .error _ => store

def cursorAfterPage (supply : Supply D) (activeProfileKey : Option D.Name)
    (cursor : Option D.DerivationId) (maxDerivations : ℕ) (store : Store D) :
    Option D.DerivationId :=
  match store.reconcileObsoleteDerivationsPage supply activeProfileKey cursor maxDerivations with
  | .ok (_, result) => result.nextCursor
  | .error _ => none

theorem reconciles_afterPage {activeProfileKey : Option D.Name} {supply : Supply D}
    (fresh : supply.FreshFrom 0 store)
    (accepted : (store.reconcileObsoleteDerivationsPage supply activeProfileKey cursor
      maxDerivations).isOk = true) :
    store.Reconciles activeProfileKey cursor maxDerivations
      (store.afterPage supply activeProfileKey cursor maxDerivations)
      (store.cursorAfterPage supply activeProfileKey cursor maxDerivations) := by
  unfold afterPage cursorAfterPage
  cases reconciled : store.reconcileObsoleteDerivationsPage supply activeProfileKey cursor
      maxDerivations with
  | ok outcome => exact ⟨supply, outcome.2, fresh, reconciled, rfl⟩
  | error _ =>
    rw [reconciled] at accepted
    cases accepted

open Domain.natural in
/-- Two direct facts and a conclusion from each. An earlier profile proves the first conclusion
from its fact; the next profile proves the second from its fact, and each of the two from the
other. Then the second fact is retracted. -/
def supportedRun : List (Maintenance Domain.natural) :=
  [.mutate (.putAssertion (direct 1 1 1) [⟨1, ()⟩] none),
    .mutate (.putAssertion (direct 2 2 2) [⟨2, ()⟩] none),
    .mutate (.publishInferredAssertion (inferred 3 3 1 three_ne_one)),
    .mutate (.publishInferredAssertion (inferred 4 4 2 (by decide))),
    .mutate (.writeActiveDerivations ⟨1, 1⟩ [⟨3, [(0, [1])]⟩] false),
    .mutate (.writeActiveDerivations ⟨2, 2⟩ [⟨3, [(0, [4])]⟩, ⟨4, [(0, [2]), (0, [3])]⟩] false),
    .mutate (.retract 2 2)]

open Domain.natural in
/-- A fact, and a conclusion that an earlier profile proves from it. -/
def provedRun : List (Maintenance Domain.natural) :=
  [.mutate (.putAssertion (direct 1 1 1) [⟨1, ()⟩] none),
    .mutate (.publishInferredAssertion (inferred 3 3 1 three_ne_one)),
    .mutate (.writeActiveDerivations ⟨1, 1⟩ [⟨3, [(0, [1])]⟩] false)]

/-- The tables after a step, unchanged if it is rejected. -/
def afterMaintenance (supply : Supply D) (store : Store D) : Maintenance D → Store D
  | .mutate mutation => store.afterCommit supply mutation
  | .reconcile activeProfileKey cursor maxDerivations =>
    store.afterPage supply activeProfileKey cursor maxDerivations

/-- The tables that a number of steps of a run commit. -/
def maintained (run : List (Maintenance Domain.natural)) (steps : ℕ) : Store Domain.natural :=
  (run.take steps).foldl (afterMaintenance (Domain.natural.supply 100)) empty

/-- Retiring the earlier profile's proof leaves the two conclusions with proofs that rest on each
other, so neither is retracted although no fact supports them. -/
theorem reconciliation_keeps_circular_conclusions :
    ∃ (steps : List (Maintenance Domain.natural)) (store after : Store Domain.natural),
      Transition.Run Maintains empty steps store ∧
      store.Reconciles (some 2) none 10 after none ∧
      ¬ (after.OnlyProfile 2 ∧ after.Grounded) := by
  refine ⟨supportedRun, maintained supportedRun 7,
    (maintained supportedRun 7).afterPage (natural.supply 1000) (some 2) none 10,
    ?_, ?_, ?_⟩
  · refine .cons (commits_afterCommit (freshFrom_natural 100 ?_) ?_) <|
      .cons (commits_afterCommit (freshFrom_natural 100 ?_) ?_) <|
      .cons (commits_afterCommit (freshFrom_natural 100 ?_) ?_) <|
      .cons (commits_afterCommit (freshFrom_natural 100 ?_) ?_) <|
      .cons (commits_afterCommit (freshFrom_natural 100 ?_) ?_) <|
      .cons (commits_afterCommit (freshFrom_natural 100 ?_) ?_) <|
      .cons (commits_afterCommit (freshFrom_natural 100 ?_) ?_) <| .nil _
    all_goals decide +kernel
  · have page := @reconciles_afterPage _ (maintained supportedRun 7) none 10 (some 2)
      (natural.supply 1000) (freshFrom_natural 1000 (by decide +kernel))
      (by decide +kernel)
    have last : (maintained supportedRun 7).cursorAfterPage (natural.supply 1000) (some 2)
        none 10 = none := by decide +kernel
    exact page
  · intro settled
    exact absurd (grounded_iff_plan_eq_nil.mp settled.2) (by decide +kernel)

/-- Retiring the only proof of a conclusion retracts it. -/
theorem reconciliation_grounds_retracted : ∃ after : Store Domain.natural,
      (after.OnlyProfile 2 ∧ after.Grounded) ∧ after.getAssertion 3 = none := by
  have only : ∀ assertion ∈ (maintained provedRun 2).currentActiveEligibleRows.map (·.assertion),
      assertion.lineage.isDirect = false → assertion.revisionId = 3 := by decide +kernel
  have fact : (maintained provedRun 2).Live (natural.direct 1 1 1) := by decide +kernel
  have conclusion : (maintained provedRun 2).Live
      (natural.inferred 3 3 1 (by decide)) := by decide +kernel
  have safe : (maintained provedRun 2).LedgerWriteSafe ⟨1, 1⟩ [⟨3, [(0, [1])]⟩] false := by
    refine ⟨?_, fun impossible => by cases impossible⟩
    intro assertion live derived _
    rw [only assertion live derived]
    have proof : (maintained provedRun 2).ClosureProof [⟨3, [(0, [1])]⟩] [1] 3 :=
      ⟨_, mem_singleton_self _, _, mem_singleton_self _, _, conclusion, rfl, rfl, rfl,
        by decide, by decide +kernel⟩
    refine .rule proof fun premise named => ?_
    cases mem_singleton.mp named
    exact .base ⟨Set.notMem_empty _, _, fact, rfl, rfl⟩
  have run : Transition.Run (Transition.Guarded Maintains MaintenanceSafe) empty provedRun
      (maintained provedRun 3) := by
    refine .cons ⟨trivial, commits_afterCommit (freshFrom_natural 100 ?_) ?_⟩ <|
      .cons ⟨trivial, commits_afterCommit (freshFrom_natural 100 ?_) ?_⟩ <|
      .cons ⟨safe, commits_afterCommit (freshFrom_natural 100 ?_) ?_⟩ <| .nil _
    all_goals decide +kernel
  have page := @reconciles_afterPage _ (maintained provedRun 3) none 10 (some 2)
    (natural.supply 1000) (freshFrom_natural 1000 (by decide +kernel)) (by decide +kernel)
  have last : (maintained provedRun 3).cursorAfterPage (natural.supply 1000) (some 2)
      none 10 = none := by decide +kernel
  have condition : (maintained provedRun 3).PageGrounds (some 2) none 10 := by
    refine .inl ⟨([1, 3, 0, 1], ⟨3, 3, 0, 1, 1, [1], true⟩), by decide +kernel, ?_, ?_⟩
    · decide +kernel
    · exact ⟨natural.inferred 3 3 1 (by decide), by decide +kernel, rfl, rfl⟩
  exact ⟨_, (reconciliation_grounds_iff run (.nil _) page).mpr condition, by decide +kernel⟩

end Store

end Kestrel.AssertionStore
