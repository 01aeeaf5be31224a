import Mathlib.Algebra.Order.BigOperators.Group.Finset
import Kestrel.Agent.TokenBudget

/-!
# Safety of the elastic token budget

The part of the window each section still counts as its own, the pool and the external
reservation form a slack ledger. Every call moves that ledger without committing a token
twice, except a use of a finalized section that spends the slack the section gave back.
-/

namespace Kestrel.TokenBudget

open SlackLedger List Function Commitments Source

theorem sum_source (values : Source → Int) : ∑ source, values source =
      values .system + (values .history + (values .episodes + (values .memories +
        (values .rag + 0)))) := rfl

/-- What trimming sources in order leaves behind. -/
structure Trims (sources : List Source) (amount : Int) (before after : Source → TokenAllocation)
    (left : Int) : Prop where
  left_nonneg : 0 ≤ left
  left_le : left ≤ amount
  budget_nonneg : ∀ source, 0 ≤ (after source).budget
  used_eq : ∀ source, (after source).used = (before source).used
  untouched : ∀ source, source ∉ sources → after source = before source
  budget_sum : ∑ source, (after source).budget =
    (∑ source, (before source).budget) - (amount - left)
  exhausted : 0 < left → ∀ source ∈ sources, (after source).budget = 0

section

variable (allocations : Source → TokenAllocation)

include allocations

theorem budget_update (source each : Source) (next : TokenAllocation) :
    (update allocations source next each).budget =
      update (fun other => (allocations other).budget) source next.budget each := by
  by_cases same : each = source
  · subst same
    simp only [update_self]
  · simp only [update_of_ne same]

theorem used_update (source each : Source) (next : TokenAllocation) :
    (update allocations source next each).used =
      update (fun other => (allocations other).used) source next.used each := by
  by_cases same : each = source
  · subst same
    simp only [update_self]
  · simp only [update_of_ne same]

theorem used_update_same (source each : Source) (next : TokenAllocation)
    (same : next.used = (allocations source).used) :
    (update allocations source next each).used = (allocations each).used := by
  rw [used_update, same, update_eq_self]

theorem budget_update_nonneg (source : Source) (next : TokenAllocation)
    (nonneg : ∀ each, 0 ≤ (allocations each).budget) (next_nonneg : 0 ≤ next.budget) (each : Source)
    :
    0 ≤ (update allocations source next each).budget := by
  by_cases same : each = source
  · subst same
    simpa only [update_self] using next_nonneg
  · simpa only [update_of_ne same] using nonneg each

end

theorem trimSources_trims (sources : List Source) (amount : Int)
    (allocations : Source → TokenAllocation) (amount_nonneg : 0 ≤ amount)
    (nonneg : ∀ source, 0 ≤ (allocations source).budget) :
    Trims sources amount allocations (trimSources sources amount allocations).2
      (trimSources sources amount allocations).1 := by
  induction sources generalizing amount allocations with
  | nil =>
    simp only [trimSources]
    refine ⟨amount_nonneg, le_rfl, nonneg, fun _ => rfl, fun _ _ => rfl, by omega, ?_⟩
    intro _ source member
    cases member
  | cons first rest ih =>
    by_cases done : amount ≤ 0
    · simp only [trimSources, done, ↓reduceIte]
      exact ⟨amount_nonneg, le_rfl, nonneg, fun _ => rfl, fun _ _ => rfl, by omega,
        fun positive => absurd positive (by omega)⟩
    · simp only [trimSources, done, ↓reduceIte]
      have first_nonneg := nonneg first
      generalize give_eq : min amount (allocations first).budget = give
      generalize next_eq : update allocations first
        { allocations first with budget := (allocations first).budget - give } = next
      have next_nonneg : ∀ source, 0 ≤ (next source).budget := by
        rw [← next_eq]
        exact budget_update_nonneg allocations first _ nonneg (by change 0 ≤ _ - give; omega)
      obtain ⟨left_nonneg, left_le, budget_nonneg, used_eq, untouched, budget_sum, exhausted⟩ :=
        ih (amount - give) next (by omega) next_nonneg
      refine ⟨left_nonneg, by omega, budget_nonneg, ?_, ?_, ?_, ?_⟩
      · intro source
        rw [used_eq, ← next_eq]
        exact used_update_same allocations first source _ rfl
      · intro source outside
        obtain ⟨different, outside⟩ := not_or.mp (mem_cons.not.mp outside)
        rw [untouched source outside, ← next_eq, update_of_ne different]
      · have next_sum : ∑ source, (next source).budget =
            (∑ source, (allocations source).budget) - give := by
          simp only [← next_eq, budget_update, sum_update]
          omega
        omega
      · intro short source member
        rcases mem_cons.mp member with same | member
        · subst same
          by_cases again : source ∈ rest
          · exact exhausted short source again
          · -- The first source gave all it had, or nothing would be left to take.
            rw [untouched source again, ← next_eq, update_self]
            change (allocations source).budget - give = 0
            omega
        · exact exhausted short source member

/-! ## The priority a budget keeps -/

theorem mem_cleanPriority {source : Source} :
    ∀ {raw : List String} {seen : List Source}, source ∈ cleanPriority raw seen →
      source ∈ seen ∨ source ≠ .system
  | [], _, member => .inl member
  | key :: rest, seen, member => by
    simp only [cleanPriority] at member
    split at member
    · exact mem_cleanPriority member
    · exact mem_cleanPriority member
    · rename_i named borrowable _
      split at member
      · exact mem_cleanPriority member
      · rcases mem_cleanPriority member with earlier | other
        · rcases mem_append.mp earlier with earlier | same
          · exact .inl earlier
          · cases mem_singleton.mp same
            exact .inr borrowable
        · exact .inr other

theorem mem_extendPriority {source : Source} : ∀ {defaults cleaned : List Source},
      source ∈ extendPriority defaults cleaned ↔ source ∈ cleaned ∨ source ∈ defaults
  | [], cleaned => by simp only [extendPriority, not_mem_nil, or_false]
  | first :: rest, cleaned => by
    simp only [extendPriority]
    split
    · rename_i present
      rw [mem_extendPriority, mem_cons]
      constructor
      · rintro (earlier | later)
        · exact .inl earlier
        · exact .inr (.inr later)
      · rintro (earlier | rfl | later)
        · exact .inl earlier
        · exact .inl present
        · exact .inr later
    · rw [mem_extendPriority, mem_append, mem_singleton, mem_cons, or_assoc]

theorem mem_elasticPriority (demandPriority : Option (List String)) (source : Source) :
    source ∈ elasticPriority demandPriority ↔ source ≠ .system := by
  unfold elasticPriority
  rw [mem_extendPriority]
  constructor
  · rintro (cleaned | default)
    · exact (mem_cleanPriority cleaned).resolve_left (not_mem_nil)
    · intro same
      subst same
      exact absurd default (by decide)
  · intro borrowable
    refine .inr ?_
    cases source with
    | system => exact absurd rfl borrowable
    | history | episodes | memories | rag => decide

/-! ## The ledger of a budget -/

namespace ElasticTokenBudget

/-- The part of the window a section still counts as its own: its budget until it is
finalized, and only what it keeps afterwards. -/
def committedTokens (budget : ElasticTokenBudget) (source : Source) : Int :=
  if source ∈ budget.finalized then budget.protectedTokens source
  else (budget.allocations source).budget

/-- The slack ledger a budget stands for. -/
def commitments (budget : ElasticTokenBudget) : Commitments Source where
  committed := budget.committedTokens
  pool := budget.elasticPool
  reserved := budget.externalReservedTokens

/-- What every budget keeps, whichever calls are made on it. -/
structure WellFormed (budget : ElasticTokenBudget) : Prop where
  pool_nonneg : 0 ≤ budget.elasticPool
  floor_nonneg : 0 ≤ budget.mandatorySystemTokens
  used_nonneg : ∀ source, 0 ≤ (budget.allocations source).used
  used_le : ∀ source, (budget.allocations source).used ≤ (budget.allocations source).budget
  floor_le : budget.mandatorySystemTokens ≤ (budget.allocations .system).budget
  mem_priority : ∀ source, source ∈ budget.priority ↔ source ≠ .system

/-- The ledger of the budget commits no more than the window. -/
def WithinWindow (budget : ElasticTokenBudget) : Prop :=
  budget.commitments.total ≤ budget.totalBudget

/-- The budget after a section took tokens and borrowed part of them. -/
def spend (budget : ElasticTokenBudget) (source : Source) (deficit tokens items : Int) :
    ElasticTokenBudget :=
  { budget with
    elasticPool := budget.elasticPool - deficit
    allocations := Function.update budget.allocations source
      ⟨(budget.allocations source).budget + deficit, (budget.allocations source).used + tokens,
        (budget.allocations source).items + items⟩ }

section

variable {budget : ElasticTokenBudget}

theorem WellFormed.budget_nonneg (wellFormed : budget.WellFormed) (source : Source) :
    0 ≤ (budget.allocations source).budget :=
  (wellFormed.used_nonneg source).trans (wellFormed.used_le source)

theorem WellFormed.remaining_eq (wellFormed : budget.WellFormed) (source : Source) :
    (budget.allocations source).remaining =
      (budget.allocations source).budget - (budget.allocations source).used := by
  have used_le := wellFormed.used_le source
  simp only [TokenAllocation.remaining]
  omega

theorem used_le_protectedTokens (source : Source) :
    (budget.allocations source).used ≤ budget.protectedTokens source := by
  unfold protectedTokens
  split
  · exact le_max_left _ _
  · exact le_rfl

theorem WellFormed.protectedTokens_le (wellFormed : budget.WellFormed) (source : Source) :
    budget.protectedTokens source ≤ (budget.allocations source).budget := by
  unfold protectedTokens
  split
  · rename_i system
    subst system
    exact max_le (wellFormed.used_le _) wellFormed.floor_le
  · exact wellFormed.used_le source

theorem WellFormed.used_le_committedTokens (wellFormed : budget.WellFormed) (source : Source) :
    (budget.allocations source).used ≤ budget.committedTokens source := by
  unfold committedTokens
  split
  · exact used_le_protectedTokens source
  · exact wellFormed.used_le source

theorem WellFormed.totalUsed_le (wellFormed : budget.WellFormed) (within : budget.WithinWindow) :
    budget.totalUsed + budget.externalReservedTokens ≤ budget.totalBudget := by
  have used_le : budget.totalUsed ≤ ∑ source, budget.committedTokens source :=
    Finset.sum_le_sum (fun source _ => wellFormed.used_le_committedTokens source)
  have pool_nonneg := wellFormed.pool_nonneg
  simp only [WithinWindow, total, commitments] at within
  omega

theorem WellFormed.use_system (wellFormed : budget.WellFormed) (tokens items : Int)
    (tokens_nonneg : 0 ≤ tokens) (items_nonneg : 0 ≤ items)
    (unspent : tokens ≤ budget.mandatorySystemTokens - (budget.allocations .system).used) :
    (budget.use "system" tokens items).1 = .ok true := by
  have nonneg : ¬(tokens < 0 ∨ items < 0) := by omega
  have fits : tokens ≤ (budget.allocations .system).remaining := by
    have floor_le := wellFormed.floor_le
    rw [wellFormed.remaining_eq]
    omega
  have named : ofName? "system" = some .system := rfl
  simp only [use, nonneg, ↓reduceIte, named, fits]

/-! ## What each call does -/

theorem WellFormed.use_cases (wellFormed : budget.WellFormed) (key : String) (tokens items : Int) :
    (budget.use key tokens items).2 = budget ∨
      ∃ source deficit, ofName? key = some source ∧ 0 ≤ tokens ∧
        deficit = max 0 (tokens - (budget.allocations source).remaining) ∧
        deficit ≤ budget.elasticPool ∧
        (budget.use key tokens items).2 = budget.spend source deficit tokens items := by
  unfold use
  split
  · exact .inl rfl
  · rename_i nonneg
    cases named : ofName? key with
    | none => exact .inl rfl
    | some source =>
      have pool_nonneg := wellFormed.pool_nonneg
      simp only
      split
      · rename_i fits
        refine .inr ⟨source, 0, rfl, by omega, by omega, pool_nonneg, ?_⟩
        simp only [spend, add_zero, sub_zero]
      · rename_i short
        split
        · exact .inl rfl
        · rename_i covered
          exact .inr ⟨source, _, rfl, by omega, by omega, by omega, rfl⟩

theorem WellFormed.spend (wellFormed : budget.WellFormed) (source : Source)
    (deficit tokens items : Int) (tokens_nonneg : 0 ≤ tokens)
    (deficit_eq : deficit = max 0 (tokens - (budget.allocations source).remaining))
    (covered : deficit ≤ budget.elasticPool) :
    (budget.spend source deficit tokens items).WellFormed := by
  rw [wellFormed.remaining_eq] at deficit_eq
  have used_nonneg := wellFormed.used_nonneg source
  refine ⟨?_, wellFormed.floor_nonneg, ?_, ?_, ?_, wellFormed.mem_priority⟩
  · change 0 ≤ budget.elasticPool - deficit
    omega
  · intro each
    by_cases same : each = source
    · subst same
      simp only [ElasticTokenBudget.spend, update_self]
      omega
    · simpa only [ElasticTokenBudget.spend, update_of_ne same] using wellFormed.used_nonneg each
  · intro each
    by_cases same : each = source
    · subst same
      simp only [ElasticTokenBudget.spend, update_self]
      omega
    · simpa only [ElasticTokenBudget.spend, update_of_ne same] using wellFormed.used_le each
  · have floor_le := wellFormed.floor_le
    by_cases same : system = source
    · subst same
      simp only [ElasticTokenBudget.spend, update_self]
      omega
    · simpa only [ElasticTokenBudget.spend, update_of_ne same] using floor_le

theorem WellFormed.commitments_spend (wellFormed : budget.WellFormed) (source : Source)
    (deficit tokens items : Int) (tokens_nonneg : 0 ≤ tokens)
    (deficit_eq : deficit = max 0 (tokens - (budget.allocations source).remaining))
    (kept : source ∈ budget.finalized →
      budget.protectedTokens source < (budget.allocations source).budget →
      tokens ≤ budget.protectedTokens source - (budget.allocations source).used) :
    (budget.spend source deficit tokens items).commitments =
      budget.commitments.release source (-deficit) := by
  rw [wellFormed.remaining_eq] at deficit_eq
  apply Commitments.ext
  · funext each
    change (budget.spend source deficit tokens items).committedTokens each =
      Function.update budget.committedTokens source (budget.committedTokens source - -deficit) each
    by_cases same : each = source
    · subst same
      rw [update_self]
      by_cases closed : each ∈ budget.finalized
      · have protected_le := wellFormed.protectedTokens_le each
        have kept := kept closed
        simp only [committedTokens, ElasticTokenBudget.spend, closed, ↓reduceIte,
          protectedTokens, update_self] at protected_le kept ⊢
        split at kept
        · rename_i system
          subst system
          simp only [↓reduceIte] at protected_le kept ⊢
          omega
        · rename_i other
          simp only [other, ↓reduceIte] at protected_le ⊢
          omega
      · simp only [committedTokens, ElasticTokenBudget.spend, closed, ↓reduceIte, update_self]
        omega
    · simp only [committedTokens, ElasticTokenBudget.spend, protectedTokens, update_of_ne same]
  · change budget.elasticPool - deficit = budget.elasticPool + -deficit
    omega
  · rfl

theorem markSectionFinalized_cases (key : String) : (budget.markSectionFinalized key).2 = budget ∨
      ∃ source, ofName? key = some source ∧ source ∉ budget.finalized ∧
        (budget.markSectionFinalized key).2 = { budget with
            finalized := insert source budget.finalized
            elasticPool := budget.elasticPool +
              max 0 ((budget.allocations source).budget - budget.protectedTokens source) } := by
  unfold markSectionFinalized
  cases ofName? key with
  | none => exact .inl rfl
  | some source =>
    by_cases closed : source ∈ budget.finalized
    · exact .inl (by simp only [closed, ↓reduceIte])
    · exact .inr ⟨source, rfl, closed, by simp only [closed, ↓reduceIte]⟩

theorem WellFormed.commitments_markSectionFinalized (wellFormed : budget.WellFormed)
    (source : Source) (still_open : source ∉ budget.finalized) :
    ({ budget with
        finalized := insert source budget.finalized
        elasticPool := budget.elasticPool +
          max 0 ((budget.allocations source).budget - budget.protectedTokens source) } :
        ElasticTokenBudget).commitments =
      budget.commitments.release source
        ((budget.allocations source).budget - budget.protectedTokens source) := by
  have protected_le := wellFormed.protectedTokens_le source
  apply Commitments.ext
  · funext each
    by_cases same : each = source
    · subst same
      simp only [commitments, committedTokens, Commitments.release, update_self,
        Finset.mem_insert, true_or, still_open, ↓reduceIte, protectedTokens]
      omega
    · simp [commitments, committedTokens, release, Finset.mem_insert, same, false_or,
        protectedTokens]
  · simp only [commitments, release]
    omega
  · rfl

def reserved (budget : ElasticTokenBudget) (allocations : Source → TokenAllocation)
    (tokens : Int) : ElasticTokenBudget :=
  { budget with
    allocations
    externalReservedTokens := budget.externalReservedTokens + tokens }

/-- What an accepted reservation finds and leaves behind. -/
structure Reserves (budget : ElasticTokenBudget) (tokens : Int)
    (allocations : Source → TokenAllocation) : Prop where
  tokens_pos : 0 < tokens
  none_finalized : budget.finalized = ∅
  pool_empty : budget.elasticPool = 0
  used_eq : ∀ source, (allocations source).used = 0
  budget_nonneg : ∀ source, 0 ≤ (allocations source).budget
  floor_le : budget.mandatorySystemTokens ≤ (allocations .system).budget
  budget_sum : (∑ source, (allocations source).budget) +
    (budget.externalReservedTokens + tokens) ≤ budget.totalBudget

theorem WellFormed.used_eq_zero (wellFormed : budget.WellFormed) (unused : budget.totalUsed = 0)
    (source : Source) : (budget.allocations source).used = 0 :=
  (Finset.sum_eq_zero_iff_of_nonneg (fun each _ => wellFormed.used_nonneg each)).mp unused
    source (Finset.mem_univ source)

/-- A reservation either refuses before it touches the sections, or is funded in full: what
trimming every elastic section leaves open, the system slice above its floor covers. -/
theorem WellFormed.reserveExternal_cases (wellFormed : budget.WellFormed) (tokens : Int) :
    ((budget.reserveExternal tokens).2 = budget ∧
      ∀ floor total model reduction, (budget.reserveExternal tokens).1 ≠
        .error (.degradedMode floor total model (.remainsShort reduction))) ∨
      ∃ allocations, budget.Reserves tokens allocations ∧
        budget.reserveExternal tokens = (.ok (), budget.reserved allocations tokens) := by
  unfold reserveExternal
  split
  · exact .inl ⟨rfl, fun _ _ _ _ => by simp⟩
  split
  · exact .inl ⟨rfl, fun _ _ _ _ => by simp⟩
  split
  · exact .inl ⟨rfl, fun _ _ _ _ => by simp⟩
  rename_i untouched
  simp only [not_or, not_not] at untouched
  obtain ⟨unused, none_finalized, pool_empty⟩ := untouched
  simp only
  split
  · exact .inl ⟨rfl, fun _ _ _ _ => by simp⟩
  generalize reduction_eq : max 0 ((∑ source, (budget.allocations source).budget) +
    (budget.externalReservedTokens + tokens) - budget.totalBudget) = reduction
  have trims := trimSources_trims budget.priority.reverse reduction budget.allocations
    (by omega) wellFormed.budget_nonneg
  generalize trimSources budget.priority.reverse reduction budget.allocations = trimmed at trims ⊢
  obtain ⟨left, after⟩ := trimmed
  obtain ⟨left_nonneg, left_le, budget_nonneg, used_eq, outside, budget_sum, exhausted⟩ := trims
  simp only at left_nonneg left_le budget_nonneg used_eq outside budget_sum exhausted ⊢
  have system_same : after .system = budget.allocations .system :=
    outside .system (by simp [wellFormed.mem_priority])
  have floor_le := wellFormed.floor_le
  -- Once a section list is exhausted, only the system slice still has a budget.
  have only_system : 0 < left →
      ∑ source, (after source).budget = (budget.allocations .system).budget := by
    intro short
    have empty : ∀ source, source ≠ .system → (after source).budget = 0 := fun source other =>
      exhausted short source (mem_reverse.mpr ((wellFormed.mem_priority source).mpr other))
    rw [sum_source, empty .history (by decide), empty .episodes (by decide),
      empty .memories (by decide), empty .rag (by decide), system_same]
    omega
  generalize give_eq : (if left > 0 then min left (max 0 ((after .system).budget -
    budget.mandatorySystemTokens)) else 0) = give
  rw [system_same] at give_eq
  have nothing_left : ¬(left - give > 0) := by omega
  simp only [nothing_left, ↓reduceIte]
  refine .inr ⟨_, ?_, rfl⟩
  refine ⟨by omega, none_finalized, pool_empty, ?_, ?_, ?_, ?_⟩
  · intro source
    refine (used_update_same after .system source _ (by rfl)).trans ?_
    rw [used_eq]
    exact wellFormed.used_eq_zero unused source
  · have system_nonneg := wellFormed.budget_nonneg .system
    have floor_nonneg := wellFormed.floor_nonneg
    refine budget_update_nonneg after .system _ budget_nonneg ?_
    change 0 ≤ (after .system).budget - give
    rw [system_same]
    by_cases short : left > 0
    · rw [if_pos short] at give_eq
      omega
    · omega
  · rw [update_self]
    change _ ≤ (after .system).budget - give
    rw [system_same]
    by_cases short : left > 0
    · rw [if_pos short] at give_eq
      omega
    · omega
  · simp only [budget_update, sum_update]
    omega

theorem WellFormed.reserved (wellFormed : budget.WellFormed) {tokens : Int}
    {allocations : Source → TokenAllocation} (reserves : budget.Reserves tokens allocations) :
    (budget.reserved allocations tokens).WellFormed := by
  refine ⟨wellFormed.pool_nonneg, wellFormed.floor_nonneg, ?_, ?_, reserves.floor_le,
    wellFormed.mem_priority⟩
  · intro source
    exact (reserves.used_eq source).ge
  · intro source
    exact (reserves.used_eq source).trans_le (reserves.budget_nonneg source)

/-! ## Every call keeps the budget well formed -/

theorem WellFormed.step (wellFormed : budget.WellFormed) (call : Call) :
    (budget.step call).WellFormed := by
  cases call with
  | reserveExternal tokens =>
    simp only [ElasticTokenBudget.step]
    rcases wellFormed.reserveExternal_cases tokens with ⟨same, _⟩ | ⟨after, reserves, same⟩
    · rwa [same]
    · rw [same]
      exact wellFormed.reserved reserves
  | use key tokens items =>
    simp only [ElasticTokenBudget.step]
    rcases wellFormed.use_cases key tokens items with
      same | ⟨source, deficit, _, tokens_nonneg, deficit_eq, covered, same⟩
    · rwa [same]
    · rw [same]
      exact wellFormed.spend source deficit tokens items tokens_nonneg deficit_eq covered
  | markSectionFinalized key =>
    simp only [ElasticTokenBudget.step]
    rcases budget.markSectionFinalized_cases key with same | ⟨source, _, _, same⟩
    · rwa [same]
    · rw [same]
      have pool_nonneg := wellFormed.pool_nonneg
      refine { wellFormed with pool_nonneg := ?_ }
      change 0 ≤ budget.elasticPool + max 0 _
      omega

theorem WellFormed.step_move (wellFormed : budget.WellFormed) (call : Call)
    (sound : ¬budget.RespendsSlack call) :
    Move budget.totalBudget budget.commitments (budget.step call).commitments := by
  cases call with
  | reserveExternal tokens =>
    simp only [ElasticTokenBudget.step]
    rcases wellFormed.reserveExternal_cases tokens with ⟨same, _⟩ | ⟨after, reserves, same⟩
    · rw [same]
      exact .stay _
    · rw [same]
      have committed : (budget.reserved after tokens).commitments =
          ⟨fun source => (after source).budget, budget.commitments.pool,
            budget.commitments.reserved + tokens⟩ := by
        apply Commitments.ext
        · funext source
          simp only [commitments, committedTokens, ElasticTokenBudget.reserved,
            reserves.none_finalized, Finset.notMem_empty, ↓reduceIte]
        · rfl
        · rfl
      rw [committed]
      refine .reserve _ _ _ ?_
      have budget_sum := reserves.budget_sum
      simpa only [commitments, reserves.pool_empty, add_zero] using budget_sum
  | use key tokens items =>
    simp only [ElasticTokenBudget.step]
    rcases wellFormed.use_cases key tokens items with
      same | ⟨source, deficit, named, tokens_nonneg, deficit_eq, covered, same⟩
    · rw [same]
      exact .stay _
    · rw [same, wellFormed.commitments_spend source deficit tokens items tokens_nonneg deficit_eq]
      · exact .release _ _ _
      · intro closed released
        by_contra respent
        exact sound ⟨source, closed, named, released, by omega, by omega⟩
  | markSectionFinalized key =>
    simp only [ElasticTokenBudget.step]
    rcases budget.markSectionFinalized_cases key with same | ⟨source, _, still_open, same⟩
    · rw [same]
      exact .stay _
    · rw [same, wellFormed.commitments_markSectionFinalized source still_open]
      exact .release _ _ _

theorem WellFormed.totalBudget_step (wellFormed : budget.WellFormed) (call : Call) :
    (budget.step call).totalBudget = budget.totalBudget := by
  cases call with
  | reserveExternal tokens =>
    simp only [ElasticTokenBudget.step]
    rcases wellFormed.reserveExternal_cases tokens with ⟨same, _⟩ | ⟨_, _, same⟩
    · rw [same]
    · rw [same]
      rfl
  | use key tokens items =>
    simp only [ElasticTokenBudget.step]
    rcases wellFormed.use_cases key tokens items with same | ⟨_, _, _, _, _, _, same⟩
    · rw [same]
    · rw [same]
      rfl
  | markSectionFinalized key =>
    simp only [ElasticTokenBudget.step]
    rcases budget.markSectionFinalized_cases key with same | ⟨_, _, _, same⟩
    · rw [same]
    · rw [same]
      rfl

theorem WellFormed.reserveExternal_ne_remainsShort (wellFormed : budget.WellFormed)
    (tokens floor total : Int) (model : String) (reduction : Int) :
    (budget.reserveExternal tokens).1 ≠
      .error (.degradedMode floor total model (.remainsShort reduction)) := by
  rcases wellFormed.reserveExternal_cases tokens with ⟨_, refused⟩ | ⟨_, _, same⟩
  · exact refused floor total model reduction
  · rw [same]
    simp

theorem WellFormed.withinWindow_step (wellFormed : budget.WellFormed) (call : Call)
    (sound : ¬budget.RespendsSlack call) (within : budget.WithinWindow) :
    (budget.step call).WithinWindow := by
  have move := wellFormed.step_move call sound
  rw [WithinWindow, wellFormed.totalBudget_step]
  exact move.total_le within

end

/-! ## Construction -/

theorem adaptivePercentages_whole (messageCount : Int) :
    (∀ source, 0 ≤ adaptivePercentages messageCount source) ∧
      ∑ source, adaptivePercentages messageCount source = 100 := by
  unfold adaptivePercentages
  split
  · exact ⟨fun source => by cases source <;> decide, by decide⟩
  · split
    all_goals exact ⟨fun source => by cases source <;> decide, by decide⟩

theorem adaptiveAllocations_budget_nonneg {available : Int} (nonneg : 0 ≤ available)
    (messageCount : Int) (source : Source) :
    0 ≤ (adaptiveAllocations available messageCount source).budget := by
  have percentage := (adaptivePercentages_whole messageCount).1 source
  exact Int.tdiv_nonneg (Int.mul_nonneg nonneg percentage) (by omega)

theorem adaptiveAllocations_budget_sum {available : Int} (nonneg : 0 ≤ available)
    (messageCount : Int) :
    ∑ source, (adaptiveAllocations available messageCount source).budget ≤ available := by
  obtain ⟨percentage_nonneg, whole⟩ := adaptivePercentages_whole messageCount
  have share : ∀ source, (adaptiveAllocations available messageCount source).budget * 100 ≤
      available * adaptivePercentages messageCount source := by
    intro source
    have numerator_nonneg := Int.mul_nonneg nonneg (percentage_nonneg source)
    change (available * adaptivePercentages messageCount source).tdiv 100 * 100 ≤ _
    rw [Int.tdiv_eq_ediv_of_nonneg numerator_nonneg]
    exact Int.ediv_mul_le _ (by omega)
  have shares : ∑ source, (adaptiveAllocations available messageCount source).budget * 100 ≤
      ∑ source, available * adaptivePercentages messageCount source :=
    Finset.sum_le_sum (fun source _ => share source)
  rw [← Finset.sum_mul, ← Finset.mul_sum, whole] at shares
  omega

theorem create_spec {model : String} {contextLimit messageCount mandatorySystemTokens : Int}
    {demandPriority : Option (List String)} {budget : ElasticTokenBudget}
    (created : create model contextLimit messageCount mandatorySystemTokens demandPriority =
      .ok budget) : budget.WellFormed ∧ budget.WithinWindow := by
  unfold create at created
  split at created
  · cases created
  rename_i floor_nonneg
  split at created
  · cases created
  rename_i allocations computed
  cases created
  suffices shape : (∀ source, (allocations source).used = 0) ∧
      (∀ source, 0 ≤ (allocations source).budget) ∧
      mandatorySystemTokens ≤ (allocations .system).budget ∧
      ∑ source, (allocations source).budget ≤ contextLimit - RESPONSE_RESERVE by
    obtain ⟨unused, nonneg, floor_le, budget_sum⟩ := shape
    refine ⟨⟨le_rfl, not_lt.mp floor_nonneg, fun source => (unused source).ge,
      fun source => (unused source).trans_le (nonneg source), floor_le,
      mem_elasticPriority demandPriority⟩, ?_⟩
    simpa only [WithinWindow, total, commitments, committedTokens, totalBudget,
      Finset.notMem_empty, ↓reduceIte, add_zero] using budget_sum
  unfold computeAllocations at computed
  simp only at computed
  split at computed
  · cases computed
  have available_nonneg : 0 ≤ contextLimit - RESPONSE_RESERVE := by omega
  have nonneg := adaptiveAllocations_budget_nonneg available_nonneg messageCount
  have budget_sum := adaptiveAllocations_budget_sum available_nonneg messageCount
  split at computed
  · rename_i short
    have trims := trimSources_trims (elasticPriority demandPriority).reverse
      (mandatorySystemTokens - (adaptiveAllocations (contextLimit - RESPONSE_RESERVE)
        messageCount .system).budget) _ (by omega) nonneg
    split at computed
    · cases computed
    cases computed
    obtain ⟨left_nonneg, _, trimmed_nonneg, used_eq, outside, trimmed_sum, _⟩ := trims
    have system_same := outside .system (by simp [mem_elasticPriority])
    refine ⟨?_, ?_, ?_, ?_⟩
    · intro source
      refine (used_update_same _ .system source _ (by rfl)).trans ?_
      rw [used_eq]
      rfl
    · exact budget_update_nonneg _ .system _ trimmed_nonneg (not_lt.mp floor_nonneg)
    · rw [update_self]
    · simp only [budget_update, sum_update, system_same]
      omega
  · rename_i covered
    cases computed
    exact ⟨fun _ => rfl, nonneg, by omega, budget_sum⟩

/-! ## Runs -/

open Transition

/-- Every run from a constructed budget that re-spends no released slack stays within the
window, accepts the unspent mandatory floor and never falls short of a reservation. -/
theorem elastic_run_within_window (model : String)
    (contextLimit messageCount mandatorySystemTokens : Int)
    (demandPriority : Option (List String)) (budget later : ElasticTokenBudget)
    (calls : List Call)
    (created : create model contextLimit messageCount mandatorySystemTokens demandPriority =
      .ok budget)
    (run : Run (Guarded (ofFunction step) fun state call => ¬state.RespendsSlack call)
      budget calls later) :
    later.totalUsed + later.externalReservedTokens ≤ later.totalBudget ∧
      (∀ tokens items, 0 ≤ tokens → 0 ≤ items →
        tokens ≤ later.mandatorySystemTokens - (later.allocations .system).used →
          (later.use "system" tokens items).1 = .ok true) ∧
      ∀ tokens floor total name reduction, (later.reserveExternal tokens).1 ≠
        .error (.degradedMode floor total name (.remainsShort reduction)) := by
  obtain ⟨wellFormed, within⟩ := create_spec created
  have preserved : ∀ source call target, source.WellFormed ∧ source.WithinWindow →
      ¬source.RespendsSlack call → ofFunction step source call target →
      target.WellFormed ∧ target.WithinWindow := by
    rintro source call target ⟨valid, inside⟩ sound rfl
    exact ⟨valid.step call, valid.withinWindow_step call sound inside⟩
  have kept := invariant_of_guarded preserved ⟨wellFormed, within⟩ run
  exact ⟨kept.1.totalUsed_le kept.2, kept.1.use_system, kept.1.reserveExternal_ne_remainsShort⟩

/-- A run that reserves, finalizes and borrows without touching released slack. -/
theorem elastic_run_within_window_borrowing :
    ∃ budget later, create "gpt-4" 8192 0 0 none = .ok budget ∧
      Run (Guarded (ofFunction step) fun state call => ¬state.RespendsSlack call) budget
        [.reserveExternal 100, .use "history" 50 1, .markSectionFinalized "history",
          .use "rag" 2000 1] later ∧
      later.totalUsed + later.externalReservedTokens ≤ later.totalBudget := by
  obtain ⟨budget, created, later, run⟩ : ∃ budget, create "gpt-4" 8192 0 0 none = .ok budget ∧
      ∃ later, Run (Guarded (ofFunction step) fun state call => ¬state.RespendsSlack call) budget
        [.reserveExternal 100, .use "history" 50 1, .markSectionFinalized "history",
          .use "rag" 2000 1] later := by
    refine ⟨_, rfl, _, .cons ⟨?_, rfl⟩ (.cons ⟨?_, rfl⟩ (.cons ⟨?_, rfl⟩
      (.cons ⟨?_, rfl⟩ (.nil _))))⟩
    · exact id
    · decide
    · exact id
    · decide
  exact ⟨budget, later, created, run,
    (elastic_run_within_window "gpt-4" 8192 0 0 none budget later _ created run).1⟩

/-- Using a finalized section spends its released slack a second time. -/
theorem finalized_use_overcommits : ∃ budget later, create "gpt-4" 8192 0 0 none = .ok budget ∧
      Run (ofFunction step) budget
        [.markSectionFinalized "history", .use "rag" 5375 1, .use "history" 4300 1] later ∧
      ¬later.totalUsed + later.externalReservedTokens ≤ later.totalBudget := by
  refine ⟨_, _, rfl, .cons rfl (.cons rfl (.cons rfl (.nil _))), ?_⟩
  decide

/-- **The spend ceiling is exact**: in every run, a section takes what it announces as fitting, which
is what its ceiling covers, and its ceiling falls by exactly what it takes. -/
theorem ceiling_exact {model : String} {contextLimit messageCount mandatorySystemTokens : Int}
    {demandPriority : Option (List String)} {budget later : ElasticTokenBudget} {calls : List Call}
    (created : create model contextLimit messageCount mandatorySystemTokens demandPriority =
      .ok budget)
    (run : Run (ofFunction step) budget calls later) {key : String} {source : Source}
    (named : ofName? key = some source) (tokens items : Int) (tokens_nonneg : 0 ≤ tokens)
    (items_nonneg : 0 ≤ items) :
    (later.use key tokens items).1 = later.canFit key tokens ∧
      (later.canFit key tokens = .ok true ↔ tokens ≤ later.effectiveBudget key) ∧
      ((later.use key tokens items).1 = .ok true →
        (later.use key tokens items).2.effectiveBudget key =
          later.effectiveBudget key - tokens) ∧
      ((later.use key tokens items).1 ≠ .ok true → (later.use key tokens items).2 = later) := by
  have wellFormed : later.WellFormed := by
    refine run.invariant ?_ (create_spec created).1
    intro before call after valid stepped
    rw [ofFunction] at stepped
    exact stepped ▸ valid.step call
  have pool_nonneg := wellFormed.pool_nonneg
  have remaining_nonneg : 0 ≤ (later.allocations source).remaining := le_max_left _ _
  have remaining_eq := wellFormed.remaining_eq source
  unfold use canFit effectiveBudget
  simp only [named, not_lt.mpr tokens_nonneg, not_lt.mpr items_nonneg, or_self, if_false]
  split_ifs with fits short
  · refine ⟨rfl, iff_of_true rfl (by omega), ?_, fun refused => absurd rfl refused⟩
    intro _
    simp only [Function.update_self, TokenAllocation.remaining] at remaining_eq fits ⊢
    omega
  · have uncovered : ¬ tokens - (later.allocations source).remaining ≤ later.elasticPool := by omega
    refine ⟨by simp [uncovered], ?_, fun accepted => (by cases accepted), fun _ => rfl⟩
    simp only [uncovered, decide_false, Except.ok.injEq, Bool.false_eq_true, false_iff]
    omega
  · have covered : tokens - (later.allocations source).remaining ≤ later.elasticPool := by omega
    refine ⟨by simp [covered], ?_, ?_, fun refused => absurd rfl refused⟩
    · simp only [covered, decide_true, true_iff]
      omega
    · intro _
      simp only [Function.update_self, TokenAllocation.remaining] at remaining_eq fits ⊢
      omega

theorem ceiling_exact_borrowing : ∃ budget later, create "gpt-4" 8192 0 0 none = .ok budget ∧
    Run (ofFunction step) budget [.markSectionFinalized "history"] later ∧
      (later.canFit "rag" 5000 = .ok true ↔ 5000 ≤ later.effectiveBudget "rag") := by
  obtain ⟨budget, created⟩ : ∃ budget, create "gpt-4" 8192 0 0 none = .ok budget := ⟨_, rfl⟩
  have run : Run (ofFunction step) budget [.markSectionFinalized "history"] _ :=
    .cons rfl (.nil _)
  exact ⟨budget, _, created, run,
    (ceiling_exact created run rfl 5000 1 (by decide) (by decide)).2.1⟩

end ElasticTokenBudget

end Kestrel.TokenBudget
