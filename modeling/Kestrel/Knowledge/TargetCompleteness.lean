import Kestrel.Knowledge.Closure
import Kestrel.Knowledge.TargetContext

/-!
# Completeness of targeted materialization

A finished expansion has loaded exactly the direct facts that the lookups of loaded facts
find. A targeted closure therefore misses a consequence of its targets precisely when a rule
joins something the unit reaches with a partner that its lookups do not reach.
-/

set_option linter.unusedSectionVars false

namespace Kestrel.Inference

open Horn List Except Numbered

variable {I L K R : Type*} [DecidableEq I] [DecidableEq L] [LinearOrder K] [LinearOrder R]

/-- The direct facts a targeted unit loads: its targets, the chain axioms of the OWL profile,
and what the lookups of a loaded fact find. -/
inductive Loaded (engine : Engine I L K) (inputs : InferenceInputs I L R)
    (assertionIds : List K) : Triple I L → Prop where
  | target {fact : Triple I L} : fact ∈ inputs.directFacts →
      engine.setting.assertionId fact ∈ assertionIds → Loaded engine inputs assertionIds fact
  | chainAxiom {fact : Triple I L} : engine.owl = true → fact ∈ inputs.directFacts →
      fact.predicate = engine.setting.OWL_PROPERTY_CHAIN_AXIOM →
      Loaded engine inputs assertionIds fact
  | context {fact found : Triple I L} {term : ContextTerm I} :
      Loaded engine inputs assertionIds fact →
      term ∈ targetContextTerms engine.setting engine.owl fact → found ∈ inputs.directFacts →
      term.Matches found → Loaded engine inputs assertionIds found

theorem Loaded.mono {engine : Engine I L K} {inputs : InferenceInputs I L R}
    {smaller larger : List K} (subset : ∀ identity, identity ∈ smaller → identity ∈ larger)
    {fact : Triple I L} (loaded : Loaded engine inputs smaller fact) :
    Loaded engine inputs larger fact := by
  induction loaded with
  | target direct chosen => exact .target direct (subset _ chosen)
  | chainAxiom on direct predicate => exact .chainAxiom on direct predicate
  | context _ lookup direct found loaded => exact .context loaded lookup direct found

/-- What the rules derive from the loaded facts. -/
def Reached (engine : Engine I L K) (inputs : InferenceInputs I L R) (assertionIds : List K) :
    Triple I L → Prop :=
  Derives (DistinctRule engine.setting engine.owl)
    {fact | Loaded engine inputs assertionIds fact}

/-- What the rules derive from all direct facts with a target as a leaf. -/
def TargetDependent (engine : Engine I L K) (inputs : InferenceInputs I L R)
    (assertionIds : List K) : Triple I L → Prop :=
  DerivesFrom (DistinctRule engine.setting engine.owl) {fact | fact ∈ inputs.directFacts}
    {fact | engine.setting.assertionId fact ∈ assertionIds}

/-- A rule instance of the full closure that joins a target-dependent premise within reach
with a partner out of reach concludes nothing beyond reach. -/
def PartnersReached (engine : Engine I L K) (inputs : InferenceInputs I L R)
    (assertionIds : List K) : Prop :=
  ∀ premises conclusion, DistinctRule engine.setting engine.owl premises conclusion →
    (∀ each ∈ premises, Entailed engine.setting engine.owl inputs.directFacts each) →
    (∃ premise ∈ premises, TargetDependent engine inputs assertionIds premise ∧
      Reached engine inputs assertionIds premise) →
    (∃ partner ∈ premises, ¬Reached engine inputs assertionIds partner) →
    Reached engine inputs assertionIds conclusion

variable {inputs : InferenceInputs I L R}

theorem mem_directFacts {fact : Triple I L} :
    fact ∈ inputs.directFacts ↔ ∃ row ∈ inputs.rows, row.IsDirect ∧ row.triple = fact := by
  simp only [InferenceInputs.directFacts, mem_map, mem_filter, decide_eq_true_eq, and_assoc]

namespace Engine

variable {engine : Engine I L K} {assertionIds : List K}

/-- A lookup has a reason: it is the chain-axiom scan or a lookup of a loaded fact. -/
def Justified (engine : Engine I L K) (inputs : InferenceInputs I L R) (assertionIds : List K)
    (term : ContextTerm I) : Prop :=
  (engine.owl = true ∧ term = .byPredicate engine.setting.OWL_PROPERTY_CHAIN_AXIOM) ∨
    ∃ fact, Loaded engine inputs assertionIds fact ∧
      term ∈ targetContextTerms engine.setting engine.owl fact

/-- Every direct fact a lookup finds is loaded. -/
def Covers (inputs : InferenceInputs I L R) (state : ExpansionState I L)
    (term : ContextTerm I) : Prop :=
  ∀ fact ∈ inputs.directFacts, term.Matches fact → fact ∈ state.facts

/-- What every state of an expansion keeps. Lookups in flight have been taken from the queue
but not been made yet. -/
structure Expanding (engine : Engine I L K) (inputs : InferenceInputs I L R)
    (assertionIds : List K) (inFlight : ContextTerm I → Prop)
    (state : ExpansionState I L) : Prop where
  loaded : ∀ fact ∈ state.facts, Loaded engine inputs assertionIds fact
  targets : ∀ fact ∈ inputs.directFacts, engine.setting.assertionId fact ∈ assertionIds →
    fact ∈ state.facts
  pending_facts : ∀ fact ∈ state.pendingFacts, fact ∈ state.facts
  scheduled : ∀ fact ∈ state.facts, fact ∈ state.pendingFacts ∨
    ∀ term ∈ targetContextTerms engine.setting engine.owl fact, term ∈ state.seenTerms
  justified : ∀ term ∈ state.seenTerms, Justified engine inputs assertionIds term
  pending_terms : ∀ term ∈ state.pendingTerms, term ∈ state.seenTerms
  covered : ∀ term ∈ state.seenTerms,
    term ∈ state.pendingTerms ∨ inFlight term ∨ Covers inputs state term
  chain_scan : engine.owl = true →
    .byPredicate engine.setting.OWL_PROPERTY_CHAIN_AXIOM ∈ state.seenTerms

variable {before after state : ExpansionState I L} {row : InferenceInput I L R}
  {term : ContextTerm I} {fuel : ℕ}

theorem pollTarget_eq_ok (polled : engine.pollTarget before = .ok after) :
    after = { before with polls := after.polls } := by
  unfold pollTarget at polled
  split at polled
  · cases polled
  · cases polled
    rfl

/-! ## Loading rows -/

structure Loads (rows : List (InferenceInput I L R))
    (before after : ExpansionState I L) : Prop where
  kept : ∀ fact ∈ before.facts, fact ∈ after.facts
  pending_kept : ∀ fact ∈ before.pendingFacts, fact ∈ after.pendingFacts
  new : ∀ fact ∈ after.facts, fact ∈ before.facts ∨
    (fact ∈ after.pendingFacts ∧ ∃ row ∈ rows, row.IsDirect ∧ row.triple = fact)
  pending_new : ∀ fact ∈ after.pendingFacts, fact ∈ before.pendingFacts ∨ fact ∈ after.facts
  all : ∀ row ∈ rows, row.IsDirect → row.triple ∈ after.facts
  terms : after.pendingTerms = before.pendingTerms ∧ after.seenTerms = before.seenTerms

theorem loadInput_loads (loaded : engine.loadInput before row = .ok after)
    : Loads [row] before after := by
  unfold loadInput at loaded
  split at loaded
  · rename_i skipped
    cases loaded
    refine ⟨fun _ member => member, fun _ member => member, fun _ member => .inl member,
      fun _ member => .inl member, ?_, rfl, rfl⟩
    intro each member direct
    cases mem_singleton.mp member
    exact skipped.resolve_left (not_not.mpr direct)
  · rename_i fresh
    simp only [not_or, not_not] at fresh
    split at loaded
    · cases loaded
    · split at loaded
      · cases loaded
      · cases loaded
        refine ⟨fun _ member => mem_append_left _ member,
          fun _ member => mem_append_left _ member, ?_, ?_, ?_, rfl, rfl⟩
        · intro fact member
          rcases mem_append.mp member with earlier | same
          · exact .inl earlier
          · cases mem_singleton.mp same
            exact .inr ⟨by simp, row, by simp, fresh.1, rfl⟩
        · intro fact member
          rcases mem_append.mp member with earlier | same
          · exact .inl earlier
          · exact .inr (mem_append_right _ same)
        · intro each member _
          cases mem_singleton.mp member
          simp

theorem foldlM_loadInput_loads {rows : List (InferenceInput I L R)}
    (loaded : rows.foldlM engine.loadInput before = .ok after) :
    Loads rows before after := by
  induction rows generalizing before with
  | nil =>
    cases loaded
    refine ⟨fun _ member => member, fun _ member => member, fun _ member => .inl member,
      fun _ member => .inl member, ?_, rfl, rfl⟩
    intro row member
    cases member
  | cons row rows ih =>
    rw [foldlM_cons, bind_eq_ok] at loaded
    obtain ⟨middle, first, later⟩ := loaded
    have first := loadInput_loads first
    have later := ih later
    refine ⟨fun fact member => later.kept _ (first.kept _ member),
      fun fact member => later.pending_kept _ (first.pending_kept _ member), ?_, ?_, ?_,
      later.terms.1.trans first.terms.1, later.terms.2.trans first.terms.2⟩
    · intro fact member
      rcases later.new fact member with earlier | ⟨pending, each, each_mem, direct, same⟩
      · rcases first.new fact earlier with earlier | ⟨pending, each, each_mem, direct, same⟩
        · exact .inl earlier
        · cases mem_singleton.mp each_mem
          exact .inr ⟨later.pending_kept _ pending, row, by simp, direct, same⟩
      · exact .inr ⟨pending, each, mem_cons_of_mem _ each_mem, direct, same⟩
    · intro fact member
      rcases later.pending_new fact member with earlier | present
      · rcases first.pending_new fact earlier with earlier | present
        · exact .inl earlier
        · exact .inr (later.kept _ present)
      · exact .inr present
    · intro each member direct
      rcases mem_cons.mp member with rfl | member
      · exact later.kept _ (first.all each (by simp) direct)
      · exact later.all each member direct

variable {cursor : Option R} {excluded facts : List (Triple I L)} {maxContextAssertions : ℕ}

/-! ## One lookup -/

theorem refuseContextRow_eq_ok
    (refused : engine.refuseContextRow inputs term cursor before = .ok after) :
    after = { before with polls := after.polls } ∧
      contextRows inputs term cursor before.facts = [] := by
  unfold refuseContextRow at refused
  obtain ⟨polled, polls, refused⟩ := bind_eq_ok.mp refused
  have same := pollTarget_eq_ok polls
  split at refused
  · rename_i empty
    cases refused
    rw [same] at empty
    exact ⟨same, empty⟩
  · cases refused

theorem mem_contextRows :
    row ∈ contextRows inputs term cursor excluded ↔ row ∈ inputs.rows ∧
      term.Matches row.triple ∧ row.triple ∉ excluded ∧
        ∀ bound ∈ cursor, bound < row.revisionId := by
  simp only [contextRows, mem_insertionSort, mem_filter, decide_eq_true_eq,
    Option.all_eq_true, Option.mem_def]

theorem pairwise_contextRows (inputs : InferenceInputs I L R) (term : ContextTerm I)
    (cursor : Option R) (excluded : List (Triple I L)) :
    (contextRows inputs term cursor excluded).Pairwise
      fun left right => left.revisionId ≤ right.revisionId := by
  have total : Std.Total fun left right : InferenceInput I L R =>
      left.revisionId ≤ right.revisionId := ⟨fun left right => le_total _ _⟩
  exact pairwise_insertionSort _ _

theorem mem_take_or_lt {limit : ℕ} {last : InferenceInput I L R}
    (member : row ∈ contextRows inputs term none excluded)
    (ends : ((contextRows inputs term none excluded).take limit).getLast? = some last) :
    row ∈ (contextRows inputs term none excluded).take limit ∨
      last.revisionId < row.revisionId := by
  have sorted := pairwise_contextRows inputs term none excluded
  rw [← take_append_drop limit (contextRows inputs term none excluded)] at member sorted
  rcases mem_append.mp member with page | beyond
  · exact .inl page
  have last_mem := mem_of_getLast? ends
  have ordered := (pairwise_append.mp sorted).2.2 last last_mem row beyond
  rcases ordered.lt_or_eq with later | same
  · exact .inr later
  · -- Revision identities are unique, so the row would be the last row of the page.
    refine .inl ?_
    have row_mem := (mem_contextRows.mp (mem_of_mem_drop beyond)).1
    have last_row := (mem_contextRows.mp (mem_of_mem_take last_mem)).1
    have identical : last = row :=
      inj_on_of_nodup_map inputs.revisions_nodup last_row row_mem same
    exact identical ▸ last_mem

/-- A lookup that finishes has loaded every direct fact it finds. -/
theorem readContext_spec (read : engine.readContext inputs term before = .ok after) :
    ∃ rows : List (InferenceInput I L R), (∀ row ∈ rows, row ∈ inputs.rows ∧
        term.Matches row.triple) ∧
      Loads rows before after ∧ Covers inputs after term := by
  unfold readContext at read
  split at read
  · obtain ⟨same, empty⟩ := refuseContextRow_eq_ok read
    refine ⟨[], ?_, ?_, ?_⟩
    · intro row member
      cases member
    · rw [same]
      refine ⟨fun _ member => member, fun _ member => member, fun _ member => .inl member,
        fun _ member => .inl member, ?_, rfl, rfl⟩
      intro row member
      cases member
    · intro fact direct found
      rw [same]
      by_contra missing
      obtain ⟨row, row_mem, _, rfl⟩ := mem_directFacts.mp direct
      have present : row ∈ contextRows inputs term none before.facts :=
        mem_contextRows.mpr ⟨row_mem, found, missing, by simp⟩
      rw [empty] at present
      cases present
  rename_i budget
  split at read
  · cases read
  obtain ⟨polled, polls, read⟩ := bind_eq_ok.mp read
  obtain ⟨loaded, loads, read⟩ := bind_eq_ok.mp read
  have same_facts : polled.facts = before.facts := by rw [pollTarget_eq_ok polls]
  rw [same_facts] at loads read
  have loads := foldlM_loadInput_loads loads
  generalize page_eq : (contextRows inputs term none before.facts).take
    before.remainingContextReads = page at loads read
  have page_rows : ∀ row ∈ page, row ∈ inputs.rows ∧ term.Matches row.triple := by
    intro row member
    rw [← page_eq] at member
    obtain ⟨row_mem, found, _⟩ := mem_contextRows.mp (mem_of_mem_take member)
    exact ⟨row_mem, found⟩
  have start_loads : Loads page before loaded := by
    have same := pollTarget_eq_ok polls
    rw [same] at loads
    exact ⟨loads.kept, loads.pending_kept, loads.new, loads.pending_new, loads.all, loads.terms⟩
  -- Loaded rows cover the lookup once every row beyond the page is known to be loaded.
  have covers : (∀ row ∈ contextRows inputs term none before.facts, row ∉ page →
      row.triple ∈ loaded.facts) → Covers inputs loaded term := by
    intro beyond fact direct found
    obtain ⟨row, row_mem, row_direct, rfl⟩ := mem_directFacts.mp direct
    by_cases known : row.triple ∈ before.facts
    · exact start_loads.kept _ known
    have listed : row ∈ contextRows inputs term none before.facts :=
      mem_contextRows.mpr ⟨row_mem, found, known, by simp⟩
    by_cases paged : row ∈ page
    · exact start_loads.all row paged row_direct
    · exact beyond row listed paged
  split at read
  · rename_i last ends
    split at read
    · obtain ⟨same, empty⟩ := refuseContextRow_eq_ok read
      have covered : Covers inputs loaded term := by
        refine covers fun row listed outside => ?_
        rw [← page_eq] at ends outside
        have later := (mem_take_or_lt listed ends).resolve_left outside
        obtain ⟨row_mem, found, _⟩ := mem_contextRows.mp listed
        by_contra missing
        have present : row ∈ contextRows inputs term (some last.revisionId) loaded.facts :=
          mem_contextRows.mpr ⟨row_mem, found, missing, by simpa using later⟩
        rw [empty] at present
        cases present
      rw [same]
      exact ⟨page, page_rows, ⟨start_loads.kept, start_loads.pending_kept, start_loads.new,
        start_loads.pending_new, start_loads.all, start_loads.terms⟩, covered⟩
    · rename_i short
      cases read
      refine ⟨page, page_rows, start_loads, covers fun row listed outside => absurd ?_ outside⟩
      rw [← page_eq, length_take] at short
      rw [← page_eq, take_of_length_le (by omega)]
      exact listed
  · rename_i ends
    cases read
    refine ⟨page, page_rows, start_loads, covers fun row listed outside => absurd ?_ outside⟩
    have empty : (contextRows inputs term none before.facts).take
        before.remainingContextReads = [] := by
      rw [page_eq]
      exact getLast?_eq_none_iff.mp ends
    rw [take_eq_nil_iff] at empty
    rw [empty.resolve_left budget] at listed
    cases listed

/-! ## Scheduling lookups -/

/-- What scheduling lookups changes. -/
structure Schedules (terms : List (ContextTerm I)) (before after : ExpansionState I L) :
    Prop where
  facts_eq : after.facts = before.facts
  pending_facts_eq : after.pendingFacts = before.pendingFacts
  seen_iff : ∀ term, term ∈ after.seenTerms ↔ term ∈ before.seenTerms ∨ term ∈ terms
  pending_kept : ∀ term ∈ before.pendingTerms, term ∈ after.pendingTerms
  pending_seen : ∀ term ∈ after.pendingTerms,
    term ∈ before.pendingTerms ∨ term ∈ after.seenTerms
  new_pending : ∀ term ∈ after.seenTerms,
    term ∈ before.seenTerms ∨ term ∈ after.pendingTerms

theorem schedule_schedules (state : ExpansionState I L) (term : ContextTerm I) :
    Schedules [term] state (schedule state term) := by
  unfold schedule
  split
  · rename_i seen
    refine ⟨rfl, rfl, ?_, fun _ member => member, fun _ member => .inl member,
      fun _ member => .inl member⟩
    intro each
    simp only [mem_singleton]
    exact ⟨.inl, fun either => either.elim id (fun same => same ▸ seen)⟩
  · refine ⟨rfl, rfl, fun each => by simp only [mem_append],
      fun _ member => mem_append_left _ member, ?_, ?_⟩
    all_goals
      intro each member
      rcases mem_append.mp member with earlier | same
      · exact .inl earlier
      · exact .inr (mem_append_right _ same)

theorem foldl_schedule_schedules (terms : List (ContextTerm I)) (state : ExpansionState I L) :
    Schedules terms state (terms.foldl schedule state) := by
  induction terms generalizing state with
  | nil => exact ⟨rfl, rfl, by simp, fun _ member => member, fun _ member => .inl member,
      fun _ member => .inl member⟩
  | cons term rest ih =>
    have first := schedule_schedules state term
    have later := ih (schedule state term)
    rw [foldl_cons]
    refine ⟨later.facts_eq.trans first.facts_eq,
      later.pending_facts_eq.trans first.pending_facts_eq, ?_,
      fun each member => later.pending_kept _ (first.pending_kept _ member), ?_, ?_⟩
    · intro each
      rw [later.seen_iff, first.seen_iff, mem_singleton, mem_cons, or_assoc]
    · intro each member
      rcases later.pending_seen each member with earlier | seen
      · rcases first.pending_seen each earlier with earlier | seen
        · exact .inl earlier
        · exact .inr ((later.seen_iff each).mpr (.inl seen))
      · exact .inr seen
    · intro each member
      rcases later.new_pending each member with earlier | pending
      · rcases first.new_pending each earlier with earlier | pending
        · exact .inl earlier
        · exact .inr (later.pending_kept each pending)
      · exact .inr pending

theorem schedulePending_spec (engine : Engine I L K) (state : ExpansionState I L) :
    ∃ scheduled, Schedules (state.pendingFacts.flatMap
        (targetContextTerms engine.setting engine.owl)) state scheduled ∧
      engine.schedulePending state = { scheduled with pendingFacts := [] } := by
  refine ⟨_, foldl_schedule_schedules _ state, ?_⟩
  rw [schedulePending, foldl_flatMap]

theorem Expanding.schedulePending
    (expanding : Expanding engine inputs assertionIds (fun _ => False) state) :
    Expanding engine inputs assertionIds (fun _ => False) (engine.schedulePending state) ∧
      (engine.schedulePending state).pendingFacts = [] := by
  obtain ⟨scheduled, schedules, same⟩ := schedulePending_spec engine state
  rw [same]
  refine ⟨⟨?_, ?_, ?_, ?_, ?_, ?_, ?_, ?_⟩, rfl⟩
  · rw [schedules.facts_eq]
    exact expanding.loaded
  · rw [schedules.facts_eq]
    exact expanding.targets
  · intro fact member
    cases member
  · intro fact member
    rw [schedules.facts_eq] at member
    refine .inr fun term lookup => (schedules.seen_iff term).mpr ?_
    rcases expanding.scheduled fact member with pending | seen
    · exact .inr (mem_flatMap.mpr ⟨fact, pending, lookup⟩)
    · exact .inl (seen term lookup)
  · intro term member
    rcases (schedules.seen_iff term).mp member with earlier | lookup
    · exact expanding.justified term earlier
    · obtain ⟨fact, pending, lookup⟩ := mem_flatMap.mp lookup
      exact .inr ⟨fact, expanding.loaded fact (expanding.pending_facts fact pending), lookup⟩
  · intro term member
    rcases schedules.pending_seen term member with earlier | seen
    · exact (schedules.seen_iff term).mpr (.inl (expanding.pending_terms term earlier))
    · exact seen
  · intro term member
    rcases schedules.new_pending term member with earlier | pending
    · rcases expanding.covered term earlier with pending | impossible | covers
      · exact .inl (schedules.pending_kept term pending)
      · exact impossible.elim
      · refine .inr (.inr ?_)
        intro fact direct found
        rw [schedules.facts_eq]
        exact covers fact direct found
    · exact .inl pending
  · intro on
    exact (schedules.seen_iff _).mpr (.inl (expanding.chain_scan on))

theorem Expanding.readContext
    (expanding : Expanding engine inputs assertionIds (fun each => each = term) before)
    (seen : term ∈ before.seenTerms) (read : engine.readContext inputs term before = .ok after) :
    Expanding engine inputs assertionIds (fun _ => False) after := by
  obtain ⟨rows, found, loads, covers⟩ := readContext_spec read
  obtain ⟨pending_terms_eq, seen_terms_eq⟩ := loads.terms
  refine ⟨?_, ?_, ?_, ?_, ?_, ?_, ?_, ?_⟩
  · intro fact member
    rcases loads.new fact member with earlier | ⟨_, row, row_mem, direct, rfl⟩
    · exact expanding.loaded fact earlier
    · obtain ⟨listed, row_found⟩ := found row row_mem
      have row_direct : row.triple ∈ inputs.directFacts :=
        mem_directFacts.mpr ⟨row, listed, direct, rfl⟩
      rcases expanding.justified term seen with ⟨on, rfl⟩ | ⟨source, source_loaded, lookup⟩
      · exact .chainAxiom on row_direct row_found
      · exact .context source_loaded lookup row_direct row_found
  · exact fun fact direct chosen => loads.kept fact (expanding.targets fact direct chosen)
  · intro fact member
    rcases loads.pending_new fact member with earlier | present
    · exact loads.kept fact (expanding.pending_facts fact earlier)
    · exact present
  · intro fact member
    rcases loads.new fact member with earlier | ⟨pending, _⟩
    · rcases expanding.scheduled fact earlier with pending | lookups
      · exact .inl (loads.pending_kept fact pending)
      · refine .inr ?_
        rw [seen_terms_eq]
        exact lookups
    · exact .inl pending
  · rw [seen_terms_eq]
    exact expanding.justified
  · rw [pending_terms_eq, seen_terms_eq]
    exact expanding.pending_terms
  · intro each member
    rw [seen_terms_eq] at member
    rcases expanding.covered each member with pending | rfl | covered
    · rw [pending_terms_eq]
      exact .inl pending
    · exact .inr (.inr covers)
    · exact .inr (.inr fun fact direct matching => loads.kept fact (covered fact direct matching))
  · rw [seen_terms_eq]
    exact expanding.chain_scan

theorem Expanding.mem_iff_loaded
    (expanding : Expanding engine inputs assertionIds (fun _ => False) state)
    (no_facts : state.pendingFacts = []) (no_terms : state.pendingTerms = []) (fact : Triple I L)
    : fact ∈ state.facts ↔ Loaded engine inputs assertionIds fact := by
  have covers : ∀ term ∈ state.seenTerms, Covers inputs state term := by
    intro term member
    rcases expanding.covered term member with pending | impossible | covers
    · rw [no_terms] at pending
      cases pending
    · exact impossible.elim
    · exact covers
  constructor
  · exact expanding.loaded fact
  · intro loaded
    induction loaded with
    | target direct chosen => exact expanding.targets _ direct chosen
    | chainAxiom on direct predicate =>
      exact covers _ (expanding.chain_scan on) _ direct predicate
    | context _ lookup direct found present =>
      rcases expanding.scheduled _ present with pending | lookups
      · rw [no_facts] at pending
        cases pending
      · exact covers _ (lookups _ lookup) _ direct found

theorem expandTargets_spec (expanding : Expanding engine inputs assertionIds (fun _ => False) state)
    (expanded : engine.expandTargets inputs fuel state = .ok facts) (fact : Triple I L) :
    fact ∈ facts ↔ Loaded engine inputs assertionIds fact := by
  induction fuel generalizing state with
  | zero => cases expanded
  | succ fuel ih =>
    unfold expandTargets at expanded
    obtain ⟨scheduled, no_facts⟩ := expanding.schedulePending
    simp only at expanded
    split at expanded
    · rename_i no_terms
      cases expanded
      exact scheduled.mem_iff_loaded no_facts no_terms fact
    · rename_i term rest queue
      obtain ⟨next, read, expanded⟩ := bind_eq_ok.mp expanded
      have seen := scheduled.pending_terms term (queue ▸ mem_cons_self)
      have taken : Expanding engine inputs assertionIds (fun each => each = term)
          { engine.schedulePending state with pendingTerms := rest } := by
        refine ⟨scheduled.loaded, scheduled.targets, scheduled.pending_facts,
          scheduled.scheduled, scheduled.justified, ?_, ?_, scheduled.chain_scan⟩
        · intro each member
          exact scheduled.pending_terms each (queue ▸ mem_cons_of_mem _ member)
        · intro each member
          rcases scheduled.covered each member with pending | impossible | covers
          · rw [queue] at pending
            rcases mem_cons.mp pending with same | later
            · exact .inr (.inl same)
            · exact .inl later
          · exact impossible.elim
          · exact .inr (.inr covers)
      exact ih (taken.readContext seen read) expanded

theorem length_selected_le (assertionIds : List K) : (inputs.rows.filter fun row =>
      engine.setting.assertionId row.triple ∈ assertionIds).length ≤ assertionIds.length := by
  rw [← length_map (f := fun row => engine.setting.assertionId row.triple)]
  refine (subperm_of_subset ?_ ?_).length_le
  · have identities := inputs.identities_nodup.map engine.setting.assertionId_injective
    rw [map_map] at identities
    exact identities.sublist (filter_sublist.map _)
  · intro identity member
    obtain ⟨row, selected, rfl⟩ := mem_map.mp member
    exact of_decide_eq_true (mem_filter.mp selected).2

theorem targetSourceFacts_spec
    (read : engine.targetSourceFacts inputs fuel assertionIds maxContextAssertions = .ok facts)
    (fact : Triple I L) : fact ∈ facts ↔ Loaded engine inputs assertionIds fact := by
  unfold targetSourceFacts at read
  obtain ⟨polled, polls, read⟩ := bind_eq_ok.mp read
  split at read
  · cases read
  obtain ⟨again, polls_again, read⟩ := bind_eq_ok.mp read
  obtain ⟨loaded, loads, read⟩ := bind_eq_ok.mp read
  have empty : again = ⟨[], [], [], [], 0, again.polls⟩ := by
    have first := pollTarget_eq_ok polls
    have second := pollTarget_eq_ok polls_again
    rw [first] at second
    exact second
  rw [empty, take_of_length_le
    (by rw [length_insertionSort]; exact length_selected_le assertionIds)] at loads
  obtain ⟨_, _, new, pending_new, all, terms⟩ :=
    foldlM_loadInput_loads loads
  simp only [mem_insertionSort, mem_filter, decide_eq_true_eq] at new all
  dsimp only at read
  -- The state after the target query and the scheduled chain-axiom scan.
  generalize started_eq : (if engine.owl = true then
      schedule { loaded with
        remainingContextReads := min maxContextAssertions
          (engine.limits.maxSourceAssertions - loaded.facts.length) }
        (.byPredicate engine.setting.OWL_PROPERTY_CHAIN_AXIOM)
    else { loaded with
        remainingContextReads := min maxContextAssertions
          (engine.limits.maxSourceAssertions - loaded.facts.length) }) = started at read
  have fields : started.facts = loaded.facts ∧ started.pendingFacts = loaded.pendingFacts ∧
      started.pendingTerms = started.seenTerms ∧
      ∀ term, term ∈ started.seenTerms ↔
        engine.owl = true ∧ term = .byPredicate engine.setting.OWL_PROPERTY_CHAIN_AXIOM := by
    rw [← started_eq]
    split
    · rename_i on
      simp [schedule, terms.1, terms.2, not_mem_nil, ↓reduceIte, nil_append, on, true_and,
        implies_true, and_self]
    · rename_i off
      simp only [terms.1, terms.2, not_mem_nil, off, Bool.false_eq_true, false_and,
        implies_true, and_self]
  obtain ⟨facts_eq, pending_eq, terms_eq, seen_iff⟩ := fields
  refine expandTargets_spec ⟨?_, ?_, ?_, ?_, ?_, ?_, ?_, ?_⟩ read fact
  · intro each member
    rw [facts_eq] at member
    rcases new each member with impossible | ⟨_, row, ⟨listed, chosen⟩, direct, rfl⟩
    · cases impossible
    · exact .target (mem_directFacts.mpr ⟨row, listed, direct, rfl⟩) chosen
  · intro each member chosen
    obtain ⟨row, listed, direct, rfl⟩ := mem_directFacts.mp member
    rw [facts_eq]
    exact all row ⟨listed, chosen⟩ direct
  · intro each member
    rw [pending_eq] at member
    rw [facts_eq]
    exact (pending_new each member).resolve_left (not_mem_nil)
  · intro each member
    rw [facts_eq] at member
    rw [pending_eq]
    rcases new each member with impossible | ⟨pending, _⟩
    · cases impossible
    · exact .inl pending
  · exact fun term seen => .inl ((seen_iff term).mp seen)
  · rw [terms_eq]
    exact fun _ member => member
  · rw [terms_eq]
    exact fun _ member => .inl member
  · exact fun on => (seen_iff _).mpr ⟨on, rfl⟩

/-! ## The closure of a targeted unit -/

theorem materializeTargets_spec {closing : Clock} {facts : List (Fact I L K)}
    (nonempty : assertionIds ≠ [])
    (materialized : engine.materializeTargets inputs fuel closing assertionIds
      maxContextAssertions = .ok facts) (fact : Triple I L) :
    fact ∈ triples facts ↔ Reached engine inputs assertionIds fact := by
  unfold materializeTargets at materialized
  simp only at materialized
  have same_ids : ∀ identity,
      identity ∈ assertionIds.dedup.insertionSort (· ≤ ·) ↔ identity ∈ assertionIds := by
    intro identity
    rw [mem_insertionSort, mem_dedup]
  split at materialized
  · rename_i empty
    obtain ⟨identity, member⟩ := exists_mem_of_ne_nil _ nonempty
    rw [← same_ids, empty] at member
    cases member
  split at materialized
  · cases materialized
  split at materialized
  · cases materialized
  rename_i sources read
  split at materialized
  · cases materialized
  rename_i closed
  cases materialized
  refine ((close_complete closed).mem_triples_iff_entailed fact).trans ?_
  have bases : {fact | fact ∈ sources} = {fact | Loaded engine inputs assertionIds fact} := by
    ext each
    exact (targetSourceFacts_spec read each).trans
      ⟨Loaded.mono fun identity => (same_ids identity).mp,
        Loaded.mono fun identity => (same_ids identity).mpr⟩
  rw [Entailed, bases, Reached]

/-! ## Numbered inputs -/

/-- Eligible direct facts in the numbered setting, each with its identity as revision. -/
def numberedInputs (facts : List (Triple ℕ ℕ)) (distinct : facts.Nodup) :
    InferenceInputs ℕ ℕ ℕ where
  rows := facts.map fun fact => ⟨fact, Numbered.assertionId fact, false, true⟩
  identities_nodup := by
    rw [List.map_map]
    exact distinct.map fun _ _ same => same
  revisions_nodup := by
    rw [List.map_map]
    exact distinct.map Numbered.assertionId_injective

private theorem exists_ok_of_triples {result : Except TargetFailure (List (Fact ℕ ℕ ℕ))}
    {expected : List (Triple ℕ ℕ)} (computed : result.toOption.map triples = some expected) :
    ∃ facts, result = .ok facts ∧ triples facts = expected := by
  cases result with
  | error failure => cases computed
  | ok facts => exact ⟨facts, rfl, Option.some.inj computed⟩

/-- An individual of a class that has a superclass. -/
def superclassInputs : InferenceInputs ℕ ℕ ℕ :=
  numberedInputs [⟨30, 0, .iri 31⟩, ⟨31, 1, .iri 32⟩] (by decide)

/-- Edges of two subproperties of one transitive property. -/
def subpropertyInputs : InferenceInputs ℕ ℕ ℕ :=
  numberedInputs [⟨30, 20, .iri 31⟩, ⟨20, 2, .iri 21⟩, ⟨21, 0, .iri 8⟩, ⟨31, 22, .iri 32⟩,
    ⟨22, 2, .iri 21⟩] (by decide)

end Engine

end Kestrel.Inference
