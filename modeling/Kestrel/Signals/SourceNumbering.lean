import Kestrel.Signals.SourceHistory

/-!
# Source sequences are never reused

Rows of the four tables may be lost between any two transactions. A number is told as long as one
copy of the counter survives, and refused otherwise as long as the loss can be noticed: the scope's
seen row or one of its retained events is still there.
-/

namespace Kestrel.Signals

open List Except Ledger ScopeRows DurableSourceBoundary System

namespace ScopeRows

@[simp] theorem mirror_full (sequence : ℕ) : (full sequence).mirror sequence = full sequence := by
  simp [full, mirror]

theorem full_ne_absent (sequence : ℕ) : full sequence ≠ absent := by
  simp [full, absent]

/-- Rows that vanish from the four tables. -/
def lose (rows : ScopeRows) (current recovery highWater seen : Bool) : ScopeRows where
  currentSequence := if current then none else rows.currentSequence
  recoverySequence := if recovery then none else rows.recoverySequence
  highWaterSequence := if highWater then none else rows.highWaterSequence
  seen := rows.seen && !seen

/-- Every surviving copy is the number of events the scope committed. -/
structure Counts (rows : ScopeRows) (served : ℕ) : Prop where
  current : ∀ sequence ∈ rows.currentSequence, sequence = served
  recovery : ∀ sequence ∈ rows.recoverySequence, sequence = served
  highWater : ∀ sequence ∈ rows.highWaterSequence, sequence = served
  seen : rows.seen = true → 0 < served

theorem counts_full (served : ℕ) : (full served).Counts served where
  current := fun _ stored => (Option.some.inj stored).symm
  recovery := fun _ stored => (Option.some.inj stored).symm
  highWater := fun _ stored => (Option.some.inj stored).symm
  seen := fun seen => of_decide_eq_true seen

theorem counts_absent (served : ℕ) : absent.Counts served where
  current := fun _ stored => by cases stored
  recovery := fun _ stored => by cases stored
  highWater := fun _ stored => by cases stored
  seen := fun seen => by cases seen

variable {rows : ScopeRows} {served : ℕ}

theorem Counts.lose (counts : rows.Counts served) (current recovery highWater seen : Bool) :
    (rows.lose current recovery highWater seen).Counts served where
  current := by
    intro sequence stored
    cases current with
    | true => cases stored
    | false => exact counts.current sequence stored
  recovery := by
    intro sequence stored
    cases recovery with
    | true => cases stored
    | false => exact counts.recovery sequence stored
  highWater := by
    intro sequence stored
    cases highWater with
    | true => cases stored
    | false => exact counts.highWater sequence stored
  seen := fun kept => counts.seen (Bool.and_eq_true_iff.mp kept).1

theorem Counts.getD {row : Option ℕ} (counts : ∀ sequence ∈ row, sequence = served) :
    row.getD 0 = served ∨ row = none := by
  cases row with
  | none => exact .inr rfl
  | some sequence => exact .inl (counts sequence rfl)

theorem Counts.exact_eq (counts : rows.Counts served) (survives : rows.exact ≠ 0)
    : rows.exact = served := by
  have current := Counts.getD counts.current
  have recovery := Counts.getD counts.recovery
  have highWater := Counts.getD counts.highWater
  unfold exact recovered at *
  rcases current with current | current <;> rcases recovery with recovery | recovery <;>
    rcases highWater with highWater | highWater <;>
    simp only [current, recovery, highWater, Option.getD_none] at survives ⊢ <;> omega

theorem Counts.lost (counts : rows.Counts served) (nothing : rows.exact = 0) (used : 0 < served) :
    rows.currentSequence = none ∧ rows.recoverySequence = none ∧ rows.highWaterSequence = none := by
  have current := Counts.getD counts.current
  have recovery := Counts.getD counts.recovery
  have highWater := Counts.getD counts.highWater
  unfold exact recovered at nothing
  refine ⟨current.resolve_left ?_, recovery.resolve_left ?_, highWater.resolve_left ?_⟩ <;> omega

theorem eq_absent (current : rows.currentSequence = none) (recovery : rows.recoverySequence = none)
    (highWater : rows.highWaterSequence = none) (unseen : rows.seen = false) : rows = absent := by
  cases rows
  simp_all [absent]

theorem exact_of_lost (current : rows.currentSequence = none)
    (recovery : rows.recoverySequence = none) (highWater : rows.highWaterSequence = none) :
    rows.exact = 0 := by
  simp [exact, recovered, current, recovery, highWater]

end ScopeRows

/-- A transaction that committed in a ledger: a new event, or a boundary. -/
inductive Entry where
  | persisted (event : Event)
  | captured (boundary : DurableSourceBoundary)
  deriving DecidableEq

def Entry.inScope (scope : Scope) : Entry → Bool
  | .persisted event => event.scope = scope
  | .captured _ => false

def served (committed : List Entry) (scope : Scope) : ℕ := committed.countP (Entry.inScope scope)

theorem served_append (before after : List Entry) (scope : Scope) :
    served (before ++ after) scope = served before scope + served after scope :=
  countP_append

theorem served_persisted_self (event : Event) : served [.persisted event] event.scope = 1 := by
  simp [served, Entry.inScope]

variable {event : Event} {boundary : DurableSourceBoundary}

variable {scope : Scope} {before : List Entry} {sequence : ℕ} {system : System}

theorem served_persisted_of_ne (other : scope ≠ event.scope) :
    served [.persisted event] scope = 0 := by
  simp [served, Entry.inScope, Ne.symm other]

theorem served_captured (boundary : DurableSourceBoundary) (scope : Scope) :
    served [.captured boundary] scope = 0 := by
  simp [served, Entry.inScope]

def Entry.Due (before : List Entry) : Entry → Prop
  | .persisted event => event.sourceSequence = some (served before event.scope + 1) ∧
      served before event.scope < maxSourceSequence
  | .captured boundary => boundary.sequence = served before boundary.scope

def Numbered (committed : List Entry) : Prop :=
  ∀ before entry after, committed = before ++ entry :: after → entry.Due before

theorem Numbered.append {committed : List Entry} (numbered : Numbered committed) {entry : Entry}
    (due : entry.Due committed) : Numbered (committed ++ [entry]) := by
  intro before other after split
  rcases eq_nil_or_concat after with rfl | ⟨rest, last, rfl⟩
  · obtain ⟨rfl, same⟩ := append_inj' split rfl
    cases same
    exact due
  · rw [concat_eq_append, ← cons_append, ← append_assoc] at split
    obtain ⟨rfl, _⟩ := append_inj' split rfl
    exact numbered before other rest rfl

theorem Numbered.of_mem {committed : List Entry} (numbered : Numbered committed)
    (member : .persisted event ∈ committed) :
    ∃ sequence, event.sourceSequence = some sequence ∧ 1 ≤ sequence ∧
      sequence ≤ served committed event.scope ∧ sequence ≤ maxSourceSequence := by
  obtain ⟨before, after, split⟩ := append_of_mem member
  obtain ⟨stored, bounded⟩ := numbered before (.persisted event) after split
  refine ⟨_, stored, Nat.le_add_left 1 _, ?_, bounded⟩
  rw [split, append_cons, served_append, served_append, served_persisted_self]
  omega

theorem Numbered.of_mem_after {after : List Entry} (numbered : Numbered (before ++ after))
    (member : .persisted event ∈ after) :
    ∃ sequence, event.sourceSequence = some sequence ∧ served before event.scope < sequence ∧
      sequence ≤ maxSourceSequence := by
  obtain ⟨middle, rest, rfl⟩ := append_of_mem member
  rw [← append_assoc] at numbered
  obtain ⟨stored, bounded⟩ := numbered (before ++ middle) (.persisted event) rest rfl
  refine ⟨_, stored, ?_, bounded⟩
  rw [served_append]
  omega

/-- The ledger with the transactions it committed, in order. -/
structure System where
  ledger : Ledger
  committed : List Entry

/-- A ledger in which no scope was used. -/
def System.fresh (backend : DatabaseBackend) (backfillCompleted : Bool) : System where
  ledger := ⟨backend, backfillCompleted, fun _ => .absent, []⟩
  committed := []

inductive Operation where
  | persistSignal (signal : Signal) (now : ℕ) (completion : Except SignalError Unit)
  | captureSourceBoundary (scope : Scope)
  | purgeExpired (agentId : String) (source : Option String) (limit : Option ℕ) (now : ℕ)
      (owed : String → Bool)
  | retireSourceHistory (boundary : DurableSourceBoundary) (owed : String → Bool)
  | lose (scope : Scope) (current recovery highWater seen : Bool)

/-- One transaction, or one loss of rows. A failed transaction changes nothing. -/
def System.step (system : System) : Operation → System
  | .persistSignal signal now completion =>
    match system.ledger.persistSignal signal now completion with
    | .error _ => system
    | .ok (_, ledger) => ⟨ledger, system.committed ++
        (ledger.events.drop system.ledger.events.length).map .persisted⟩
  | .captureSourceBoundary scope =>
    match system.ledger.captureSourceBoundary scope with
    | .error _ => system
    | .ok (boundary, ledger) => ⟨ledger, system.committed ++ [.captured boundary]⟩
  | .purgeExpired agentId source limit now owed =>
    match system.ledger.purgeExpired agentId source limit now owed with
    | .error _ => system
    | .ok (_, ledger) => ⟨ledger, system.committed⟩
  | .retireSourceHistory boundary owed =>
    match system.ledger.retireSourceHistory boundary owed with
    | .error _ => system
    | .ok (_, ledger) => ⟨ledger, system.committed⟩
  | .lose scope current recovery highWater seen =>
    ⟨system.ledger.setRows scope
      ((system.ledger.rows scope).lose current recovery highWater seen), system.committed⟩

/-- A row or a retained event shows that the scope was used. -/
def Ledger.Evident (ledger : Ledger) (scope : Scope) : Prop :=
  ledger.rows scope ≠ .absent ∨ ledger.eventsOf scope ≠ []

/-- A loss leaves a row or a retained event of a used scope. -/
def System.Bounded (system : System) : Operation → Prop
  | .lose scope current recovery highWater seen => served system.committed scope = 0 ∨
      (system.step (.lose scope current recovery highWater seen)).ledger.Evident scope
  | _ => True

/-- Retention does not delete the last retained event of a scope that lost its four rows. -/
def System.Spares (system : System) : Operation → Prop
  | .purgeExpired agentId source limit now owed =>
    ∀ scope, system.ledger.rows scope = .absent → system.ledger.eventsOf scope ≠ [] →
      ∃ event ∈ system.ledger.eventsOf scope,
        event ∉ system.ledger.expired agentId source limit now owed
  | _ => True

/-- The steps of losses that can be noticed. -/
def Steps : System → Operation → System → Prop :=
  Transition.Guarded (Transition.ofFunction System.step) System.Bounded

/-- The copies count what was committed, the retained events are committed ones, and the loss of
every copy can be noticed. -/
structure System.Counted (system : System) : Prop where
  numbered : Numbered system.committed
  rows : ∀ scope, (system.ledger.rows scope).Counts (served system.committed scope)
  retained : ∀ event ∈ system.ledger.events, .persisted event ∈ system.committed
  evident : ∀ scope, 0 < served system.committed scope → system.ledger.Evident scope

theorem System.counted_fresh (backend : DatabaseBackend) (backfillCompleted : Bool) :
    (fresh backend backfillCompleted).Counted where
  numbered := by
    intro before entry after split
    cases before <;> cases split
  rows := fun _ => counts_absent _
  retained := fun _ member => by cases member
  evident := fun _ positive => by cases positive

variable {ledger' : Ledger}

namespace Ledger

@[simp] theorem rows_setRows_self (ledger : Ledger) (scope : Scope) (rows : ScopeRows) :
    (ledger.setRows scope rows).rows scope = rows := by
  simp [setRows]

variable {scope : Scope} {ledger : Ledger} {event : Event} {sequence : ℕ}

theorem rows_setRows_of_ne (ledger : Ledger) {other : Scope} (rows : ScopeRows)
    (distinct : other ≠ scope) : (ledger.setRows scope rows).rows other = ledger.rows other := by
  simp [setRows, distinct]

theorem mem_eventsOf :
    event ∈ ledger.eventsOf scope ↔ event ∈ ledger.events ∧ event.scope = scope := by
  simp [eventsOf]

theorem le_retainedMaximum (member : event ∈ ledger.eventsOf scope)
    (numbered : event.sourceSequence = some sequence) :
    sequence ≤ (ledger.retainedMaximum scope).getD 0 := by
  apply le_max?_getD_of_mem
  exact mem_filterMap.mpr ⟨event, member, numbered⟩

theorem sourceSequence_eq_ok
    (located : ledger.sourceSequence scope = .ok (sequence, ledger')) :
    sequence = (ledger.rows scope).exact ∧ ledger' = ledger.setRows scope (.full sequence) ∧
      (ledger.retainedMaximum scope).getD 0 ≤ sequence ∧
      ((ledger.rows scope).seen = true → 0 < sequence) := by
  unfold sourceSequence at located
  obtain ⟨⟨_, rows⟩, locate, same⟩ := bind_eq_ok.mp located
  cases same
  obtain ⟨exact, rfl, rest⟩ := ScopeRows.sourceSequence_eq_ok locate
  exact ⟨exact, rfl, rest⟩

theorem insertEvent_eq_ok {inserted : Bool}
    (insertion : ledger.insertEvent event sequence = .ok (inserted, ledger')) :
    inserted = false ∨ inserted = true ∧ ledger' =
      { ledger.setRows event.scope ((ledger.rows event.scope).mirror sequence) with
        events := ledger.events ++ [event] } := by
  unfold insertEvent at insertion
  obtain ⟨_, insertion⟩ := require_bind_eq_ok.mp insertion
  obtain ⟨_, insertion⟩ := lossFence_bind_eq_ok.mp insertion
  by_cases conflicting : ledger.conflicts event = true
  · rw [if_pos conflicting] at insertion
    cases insertion
    exact .inl rfl
  · rw [if_neg conflicting] at insertion
    cases insertion
    exact .inr ⟨rfl, rfl⟩

theorem persistSignal_eq_ok {signal : Signal} {now : ℕ}
    {completion : Except SignalError Unit} {persistence : DurableEventPersistence}
    (persisted : ledger.persistSignal signal now completion = .ok (persistence, ledger')) :
    persistence.created = false ∧ ledger' = ledger ∨
      persistence.created = true ∧ ∃ event : Event, event.eventId = signal.id ∧
        event.scope = signal.scope ∧
        event.sourceSequence = some ((ledger.rows signal.scope).exact + 1) ∧
        ledger' = { ledger.setRows signal.scope (.full ((ledger.rows signal.scope).exact + 1)) with
          events := ledger.events ++ [event] } ∧
        (ledger.rows signal.scope).exact < maxSourceSequence ∧
        (ledger.retainedMaximum signal.scope).getD 0 ≤ (ledger.rows signal.scope).exact ∧
        ((ledger.rows signal.scope).seen = true → 0 < (ledger.rows signal.scope).exact) := by
  unfold persistSignal at persisted
  obtain ⟨_, _, persisted⟩ := bind_eq_ok.mp persisted
  obtain ⟨_, _, persisted⟩ := bind_eq_ok.mp persisted
  obtain ⟨sourceEventId, _, persisted⟩ := bind_eq_ok.mp persisted
  cases found : ledger.existingEventId signal sourceEventId with
  | some existing =>
    simp only [found] at persisted
    obtain ⟨sequence, _, same⟩ := bind_eq_ok.mp persisted
    cases same
    exact .inl ⟨rfl, rfl⟩
  | none =>
    simp only [found] at persisted
    obtain ⟨⟨sequence, advanced⟩, advance, persisted⟩ := bind_eq_ok.mp persisted
    obtain ⟨⟨inserted, written⟩, insertion, persisted⟩ := bind_eq_ok.mp persisted
    obtain ⟨⟨_, rows⟩, located, same⟩ := bind_eq_ok.mp advance
    cases same
    obtain ⟨rfl, rfl, bounded, retained, positive⟩ := advance_eq_ok located
    rcases insertEvent_eq_ok insertion with rfl | ⟨rfl, rfl⟩
    · simp only [Bool.false_eq_true, ↓reduceIte] at persisted
      cases again : written.existingEventId signal sourceEventId with
      | none | some existing =>
        simp only [again] at persisted
        cases persisted
    · simp only [↓reduceIte] at persisted
      obtain ⟨_, _, same⟩ := bind_eq_ok.mp persisted
      cases same
      refine .inr ⟨rfl, ⟨signal.id, sourceEventId, signal.scope,
        now + signal.retentionDays * day, some ((ledger.rows signal.scope).exact + 1)⟩, rfl, rfl, rfl,
        ?_, bounded, retained, positive⟩
      simp [setRows]

end Ledger

theorem DurableSourceBoundary.create_eq_ok (created : create scope sequence = .ok boundary) :
    boundary.scope = scope ∧ boundary.sequence = sequence := by
  unfold create at created
  split_ifs at created
  cases created
  exact ⟨rfl, rfl⟩

namespace Ledger

variable {ledger : Ledger} {boundary : DurableSourceBoundary} {owed : String → Bool}
  {agentId : String} {source : Option String} {limit : Option ℕ} {now : ℕ}

theorem captureSourceBoundary_eq_ok {scope : Scope}
    (captured : ledger.captureSourceBoundary scope = .ok (boundary, ledger')) :
    boundary.scope = scope ∧ ledger.sourceSequence scope = .ok (boundary.sequence, ledger') := by
  unfold captureSourceBoundary at captured
  obtain ⟨_, _, captured⟩ := bind_eq_ok.mp captured
  obtain ⟨_, _, captured⟩ := bind_eq_ok.mp captured
  obtain ⟨_, captured⟩ := require_bind_eq_ok.mp captured
  obtain ⟨⟨sequence, located⟩, locate, captured⟩ := bind_eq_ok.mp captured
  obtain ⟨_, creation, same⟩ := bind_eq_ok.mp captured
  cases same
  obtain ⟨scopeEq, rfl⟩ := create_eq_ok creation
  exact ⟨scopeEq, locate⟩

variable {outcome : Except SignalError ℕ} {deleted : List String}

theorem retireSourceHistory_eq_ok
    (retired : ledger.retireSourceHistory boundary owed = .ok (outcome, ledger')) :
    ∃ sequence repaired, ledger.sourceSequence boundary.scope = .ok (sequence, repaired) ∧
      (ledger' = repaired ∨ ledger' = repaired.delete (repaired.upTo boundary)) := by
  unfold retireSourceHistory at retired
  obtain ⟨⟨sequence, repaired⟩, locate, retired⟩ := bind_eq_ok.mp retired
  refine ⟨sequence, repaired, locate, ?_⟩
  dsimp only at retired
  split_ifs at retired
  · cases retired
    exact .inl rfl
  · cases retired
    exact .inl rfl
  · cases retired
    exact .inr rfl

theorem retireSourceHistory_drained
    (retired : ledger.retireSourceHistory boundary owed = .ok (outcome, ledger')) :
    ∀ event ∈ ledger.events, event ∉ ledger'.events → owed event.eventId = false := by
  intro event stored deleted
  obtain ⟨⟨sequence, repaired⟩, locate, retired⟩ := bind_eq_ok.mp retired
  obtain ⟨_, rfl, _⟩ := sourceSequence_eq_ok locate
  dsimp only at retired
  split_ifs at retired with _ owes
  · cases retired
    exact absurd stored deleted
  · cases retired
    exact absurd stored deleted
  · cases retired
    rw [Bool.not_eq_true, any_eq_false] at owes
    by_contra still
    apply deleted
    refine mem_filter.mpr ⟨stored, decide_eq_true ?_⟩
    intro selected
    exact owes event selected (by simpa using still)

theorem purgeExpired_eq_ok
    (purged : ledger.purgeExpired agentId source limit now owed = .ok (deleted, ledger')) :
    ledger' = ledger.delete (ledger.expired agentId source limit now owed) := by
  unfold purgeExpired at purged
  obtain ⟨_, _, purged⟩ := bind_eq_ok.mp purged
  obtain ⟨_, _, purged⟩ := bind_eq_ok.mp purged
  obtain ⟨_, purged⟩ := require_bind_eq_ok.mp purged
  cases purged
  rfl

theorem mem_of_mem_expired {event : Event}
    (selected : event ∈ ledger.expired agentId source limit now owed) :
    decide (event.scope.agentId = agentId ∧ event.retentionUntil < now ∧
      (∀ wanted ∈ source, event.scope.source = wanted) ∧ owed event.eventId = false) = true := by
  unfold expired at selected
  cases limit with
  | none => exact (mem_filter.mp (mem_mergeSort.mp selected)).2
  | some bound =>
    exact (mem_filter.mp (mem_mergeSort.mp (mem_of_mem_take selected))).2

theorem purgeExpired_drained
    (purged : ledger.purgeExpired agentId source limit now owed = .ok (deleted, ledger')) :
    ∀ event ∈ ledger.events, event ∉ ledger'.events → owed event.eventId = false := by
  intro event stored gone
  rw [purgeExpired_eq_ok purged] at gone
  have selected : event ∈ ledger.expired agentId source limit now owed := by
    by_contra spared
    exact gone (mem_filter.mpr ⟨stored, decide_eq_true spared⟩)
  have listed := mem_of_mem_expired selected
  exact (of_decide_eq_true listed).2.2.2

end Ledger

namespace System.Counted

variable {system : System}

section

variable (counted : system.Counted)

include counted

theorem exact_eq {scope : Scope}
    (retained : (system.ledger.retainedMaximum scope).getD 0 ≤ (system.ledger.rows scope).exact)
    (positive : (system.ledger.rows scope).seen = true → 0 < (system.ledger.rows scope).exact) :
    (system.ledger.rows scope).exact = served system.committed scope := by
  have counts := counted.rows scope
  by_cases told : (system.ledger.rows scope).exact = 0
  · rw [told]
    by_contra used
    have used : 0 < served system.committed scope := Nat.pos_of_ne_zero (Ne.symm used)
    rcases counted.evident scope used with present | kept
    · apply present
      have unseen : (system.ledger.rows scope).seen = false := by
        by_contra seen
        have := positive (by simpa using seen)
        omega
      have lost := counts.lost told used
      exact eq_absent lost.1 lost.2.1 lost.2.2 unseen
    · obtain ⟨event, member⟩ := exists_mem_of_ne_nil _ kept
      obtain ⟨stored, _⟩ := mem_eventsOf.mp member
      obtain ⟨sequence, numbered, one, _⟩ := counted.numbered.of_mem (counted.retained event stored)
      have := le_retainedMaximum member numbered
      omega
  · exact counts.exact_eq told

theorem setRows (scope : Scope) :
    Counted ⟨system.ledger.setRows scope (.full (served system.committed scope)),
      system.committed⟩ where
  numbered := counted.numbered
  rows := by
    intro other
    by_cases same : other = scope
    · subst other
      rw [rows_setRows_self]
      exact counts_full _
    · rw [rows_setRows_of_ne _ _ same]
      exact counted.rows other
  retained := counted.retained
  evident := by
    intro other used
    by_cases same : other = scope
    · subst other
      apply Or.inl
      rw [rows_setRows_self]
      exact full_ne_absent _
    · rcases counted.evident other used with present | kept
      · apply Or.inl
        rw [rows_setRows_of_ne _ _ same]
        exact present
      · exact .inr kept

theorem delete {deleted : List Event} (evident : ∀ scope, 0 < served system.committed scope →
      (system.ledger.delete deleted).Evident scope) :
    Counted ⟨system.ledger.delete deleted, system.committed⟩ where
  numbered := counted.numbered
  rows := counted.rows
  retained := by
    intro event member
    exact counted.retained event (mem_filter.mp member).1
  evident := evident

theorem captured {boundary : DurableSourceBoundary}
    (due : boundary.sequence = served system.committed boundary.scope) :
    Counted ⟨system.ledger, system.committed ++ [.captured boundary]⟩ where
  numbered := counted.numbered.append due
  rows := by
    intro scope
    rw [served_append, served_captured]
    exact counted.rows scope
  retained := by
    intro event member
    exact mem_append_left _ (counted.retained event member)
  evident := by
    intro scope used
    rw [served_append, served_captured] at used
    exact counted.evident scope used

theorem persisted {event : Event}
    (bounded : served system.committed event.scope < maxSourceSequence)
    (numbered : event.sourceSequence = some (served system.committed event.scope + 1)) :
    Counted ⟨{ system.ledger.setRows event.scope
        (.full (served system.committed event.scope + 1)) with
      events := system.ledger.events ++ [event] }, system.committed ++ [.persisted event]⟩ where
  numbered := counted.numbered.append ⟨numbered, bounded⟩
  rows := by
    intro scope
    rw [served_append]
    by_cases same : scope = event.scope
    · subst scope
      rw [rows_setRows_self, served_persisted_self]
      exact counts_full _
    · rw [rows_setRows_of_ne _ _ same, served_persisted_of_ne same]
      exact counted.rows scope
  retained := by
    intro other member
    rcases mem_append.mp member with old | new
    · exact mem_append_left _ (counted.retained other old)
    · rw [mem_singleton.mp new]
      exact mem_append_right _ (mem_singleton.mpr rfl)
  evident := by
    intro scope used
    by_cases same : scope = event.scope
    · subst scope
      apply Or.inl
      rw [rows_setRows_self]
      exact full_ne_absent _
    · rw [served_append, served_persisted_of_ne same] at used
      rcases counted.evident scope used with present | kept
      · apply Or.inl
        rw [rows_setRows_of_ne _ _ same]
        exact present
      · apply Or.inr
        obtain ⟨other, member⟩ := exists_mem_of_ne_nil _ kept
        obtain ⟨stored, inScope⟩ := mem_eventsOf.mp member
        exact ne_nil_of_mem (mem_eventsOf.mpr ⟨mem_append_left _ stored, inScope⟩)

theorem sourceSequence {scope : Scope} {sequence : ℕ} {repaired : Ledger}
    (located : system.ledger.sourceSequence scope = .ok (sequence, repaired)) :
    sequence = served system.committed scope ∧
      repaired = system.ledger.setRows scope (.full (served system.committed scope)) := by
  obtain ⟨rfl, rfl, retained, positive⟩ := sourceSequence_eq_ok located
  have told := counted.exact_eq retained positive
  exact ⟨told, by rw [told]⟩

end

/-- One step keeps the count: a loss as long as it can be noticed, and retention as long as it
spares the last evidence of a scope. -/
theorem step (counted : system.Counted) {operation : Operation}
    (bounded : system.Bounded operation) (spares : system.Spares operation) :
    (system.step operation).Counted := by
  cases operation with
  | persistSignal signal now completion =>
    cases outcome : system.ledger.persistSignal signal now completion with
    | error error =>
      simp only [System.step, outcome]
      exact counted
    | ok result =>
      obtain ⟨persistence, ledger⟩ := result
      simp only [System.step, outcome]
      rcases persistSignal_eq_ok outcome with
        ⟨_, rfl⟩ | ⟨_, event, _, inScope, numbered, rfl, room, retained, positive⟩
      · rw [drop_length, map_nil, append_nil]
        exact counted
      · have told := counted.exact_eq retained positive
        rw [told, ← inScope] at numbered room ⊢
        rw [drop_left]
        exact counted.persisted room numbered
  | captureSourceBoundary scope =>
    cases outcome : system.ledger.captureSourceBoundary scope with
    | error error =>
      simp only [System.step, outcome]
      exact counted
    | ok result =>
      obtain ⟨boundary, ledger⟩ := result
      simp only [System.step, outcome]
      obtain ⟨rfl, located⟩ := captureSourceBoundary_eq_ok outcome
      obtain ⟨told, rfl⟩ := counted.sourceSequence located
      exact (counted.setRows boundary.scope).captured told
  | purgeExpired agentId source limit now owed =>
    cases outcome : system.ledger.purgeExpired agentId source limit now owed with
    | error error =>
      simp only [System.step, outcome]
      exact counted
    | ok result =>
      obtain ⟨deleted, ledger⟩ := result
      simp only [System.step, outcome]
      cases purgeExpired_eq_ok outcome
      apply counted.delete
      intro scope used
      by_cases lost : system.ledger.rows scope = .absent
      · have kept := (counted.evident scope used).resolve_left (not_not.mpr lost)
        obtain ⟨event, member, spared⟩ := spares scope lost kept
        obtain ⟨stored, inScope⟩ := mem_eventsOf.mp member
        apply Or.inr
        apply ne_nil_of_mem (mem_eventsOf.mpr ⟨?_, inScope⟩)
        exact mem_filter.mpr ⟨stored, decide_eq_true spared⟩
      · exact .inl lost
  | retireSourceHistory boundary owed =>
    cases outcome : system.ledger.retireSourceHistory boundary owed with
    | error error =>
      simp only [System.step, outcome]
      exact counted
    | ok result =>
      obtain ⟨_, ledger⟩ := result
      simp only [System.step, outcome]
      obtain ⟨sequence, repaired, located, ends⟩ := Ledger.retireSourceHistory_eq_ok outcome
      obtain ⟨_, rfl⟩ := counted.sourceSequence located
      have settled := counted.setRows boundary.scope
      rcases ends with rfl | rfl
      · exact settled
      · apply settled.delete
        intro scope used
        by_cases same : scope = boundary.scope
        · subst scope
          apply Or.inl
          dsimp only [Ledger.delete]
          rw [Ledger.rows_setRows_self]
          exact ScopeRows.full_ne_absent _
        · rcases settled.evident scope used with present | kept
          · exact .inl present
          · obtain ⟨event, member⟩ := exists_mem_of_ne_nil _ kept
            obtain ⟨stored, inScope⟩ := Ledger.mem_eventsOf.mp member
            apply Or.inr
            apply ne_nil_of_mem (Ledger.mem_eventsOf.mpr ⟨?_, inScope⟩)
            refine mem_filter.mpr ⟨stored, decide_eq_true ?_⟩
            intro deleted
            have retired := (Ledger.mem_eventsOf.mp (mem_filter.mp deleted).1).2
            exact same (inScope.symm.trans retired)
  | lose scope current recovery highWater seen =>
    refine ⟨counted.numbered, ?_, counted.retained, ?_⟩
    · intro other
      dsimp only [System.step]
      by_cases same : other = scope
      · subst other
        rw [Ledger.rows_setRows_self]
        exact (counted.rows scope).lose current recovery highWater seen
      · rw [rows_setRows_of_ne _ _ same]
        exact counted.rows other
    · intro other used
      by_cases same : other = scope
      · subst other
        exact bounded.resolve_left (Nat.ne_of_gt used)
      · rcases counted.evident other used with present | kept
        · apply Or.inl
          dsimp only [System.step]
          rw [rows_setRows_of_ne _ _ same]
          exact present
        · exact .inr kept

end System.Counted

theorem DurableSourceBoundary.isEventEligible_of_sequence (inScope : event.scope = boundary.scope)
    (numbered : event.sourceSequence = some sequence) (positive : 1 ≤ sequence)
    (bounded : sequence ≤ maxSourceSequence) :
    boundary.isEventEligible event = .ok (decide (boundary.sequence < sequence)) := by
  unfold isEventEligible
  simp [require, inScope, numbered, positive, bounded]
  rfl

/-- What a scope promises of its numbers. -/
structure System.Sound (system : System) : Prop where
  /-- An event has the number after those its scope committed before. -/
  consecutive : ∀ before event after, system.committed = before ++ .persisted event :: after →
    event.sourceSequence = some (served before event.scope + 1)
  /-- No number is used again. -/
  increasing : ∀ before event after, system.committed = before ++ .persisted event :: after →
    ∀ earlier, .persisted earlier ∈ before → earlier.scope = event.scope →
      ∃ sequence, earlier.sourceSequence = some sequence ∧
        ∃ later, event.sourceSequence = some later ∧ sequence < later
  /-- A boundary tells the events committed before its capture from those committed after it. -/
  separated : ∀ before boundary after, system.committed = before ++ .captured boundary :: after →
    ∀ event, event.scope = boundary.scope →
      (.persisted event ∈ before → boundary.isEventEligible event = .ok false) ∧
        (.persisted event ∈ after → boundary.isEventEligible event = .ok true)
  /-- The retained events are committed ones. -/
  retained : ∀ event ∈ system.ledger.events, .persisted event ∈ system.committed
  /-- A number that is told is exact. -/
  exact : ∀ scope sequence ledger, system.ledger.sourceSequence scope = .ok (sequence, ledger) →
    sequence = served system.committed scope
  /-- Without a copy of the counter no boundary, no retirement and no new event of a used scope
  commits. -/
  refused : ∀ scope, 0 < served system.committed scope →
    (system.ledger.rows scope).currentSequence = none →
    (system.ledger.rows scope).recoverySequence = none →
    (system.ledger.rows scope).highWaterSequence = none →
      (∀ result, system.ledger.captureSourceBoundary scope ≠ .ok result) ∧
        (∀ boundary owed result, boundary.scope = scope →
          system.ledger.retireSourceHistory boundary owed ≠ .ok result) ∧
        ∀ signal now completion persistence ledger, signal.scope = scope →
          system.ledger.persistSignal signal now completion = .ok (persistence, ledger) →
          persistence.created = false

theorem System.Counted.separated (counted : system.Counted) {after : List Entry}
    (split : system.committed = before ++ .captured boundary :: after)
    (inScope : event.scope = boundary.scope) :
    (.persisted event ∈ before → boundary.isEventEligible event = .ok false) ∧
      (.persisted event ∈ after → boundary.isEventEligible event = .ok true) := by
  have due : boundary.sequence = served before boundary.scope :=
    counted.numbered before (.captured boundary) after split
  have numbered := counted.numbered
  rw [split] at numbered
  constructor
  · intro member
    have earlier : Numbered before := fun first entry rest inner =>
      numbered first entry (rest ++ .captured boundary :: after) (by rw [inner]; simp)
    obtain ⟨sequence, stored, positive, low, bounded⟩ := earlier.of_mem member
    rw [isEventEligible_of_sequence inScope stored positive bounded]
    rw [inScope, ← due] at low
    rw [decide_eq_false (not_lt.mpr low)]
  · intro member
    rw [append_cons] at numbered
    obtain ⟨sequence, stored, high, bounded⟩ := numbered.of_mem_after member
    rw [served_append, served_captured, Nat.add_zero, inScope, ← due] at high
    rw [isEventEligible_of_sequence inScope stored (by omega) bounded]
    rw [decide_eq_true high]

theorem System.Counted.sound (counted : system.Counted) : system.Sound where
  consecutive := fun before event after split =>
    (counted.numbered before (.persisted event) after split).1
  increasing := by
    intro before event after split earlier member same
    obtain ⟨stored, _⟩ := counted.numbered before (.persisted event) after split
    have numbered := counted.numbered
    rw [split] at numbered
    have earlierNumbered : Numbered before := fun first entry rest inner =>
      numbered first entry (rest ++ .persisted event :: after) (by rw [inner]; simp)
    obtain ⟨sequence, stored', _, low, _⟩ := earlierNumbered.of_mem member
    rw [same] at low
    exact ⟨sequence, stored', _, stored, Nat.lt_succ_of_le low⟩
  separated := fun before boundary after split event inScope => counted.separated split inScope
  retained := counted.retained
  exact := fun scope sequence ledger located => (counted.sourceSequence located).1
  refused := by
    intro scope used current recovery highWater
    have untold : ∀ result, system.ledger.sourceSequence scope ≠ .ok result := by
      rintro ⟨sequence, ledger⟩ located
      have told := (sourceSequence_eq_ok located).1
      rw [exact_of_lost current recovery highWater] at told
      rw [(counted.sourceSequence located).1] at told
      omega
    refine ⟨?_, ?_, ?_⟩
    · rintro ⟨boundary, ledger⟩ captured
      exact untold _ (captureSourceBoundary_eq_ok captured).2
    · rintro boundary owed ⟨outcome, ledger⟩ rfl retired
      obtain ⟨sequence, repaired, located, _⟩ := retireSourceHistory_eq_ok retired
      exact untold _ located
    · rintro signal now completion persistence ledger rfl persisted
      rcases persistSignal_eq_ok persisted with
        ⟨existing, _⟩ | ⟨_, _, _, _, _, _, _, retained, positive⟩
      · exact existing
      · have told := counted.exact_eq retained positive
        rw [exact_of_lost current recovery highWater] at told
        omega

/-- In every run whose losses can be noticed and whose retention spares the last evidence of a
scope that lost its rows, no number is used again: events are numbered one after the other,
boundaries separate what committed before them from what committed after, and where no copy of the
counter survives no number is told. -/
theorem source_sequences_never_reused {backend : DatabaseBackend} {backfillCompleted : Bool}
    {system : System} {operations : List Operation}
    (run : Transition.Run (Transition.Guarded Steps System.Spares)
      (System.fresh backend backfillCompleted) operations system) : system.Sound := by
  have counted : system.Counted := by
    refine run.invariant ?_ (System.counted_fresh backend backfillCompleted)
    rintro source operation target counted ⟨spares, bounded, rfl⟩
    exact counted.step bounded spares
  exact counted.sound

def workflow : Scope := ⟨"agent", "workflow"⟩

/-- Calls of a fresh ledger. -/
def called (operations : List Operation) : System :=
  operations.foldl System.step (.fresh .sqlite true)

/-- An event, a boundary, the loss of the counter's and the seen row, and another event. -/
def repairedCounter : List Operation :=
  [.persistSignal ⟨"first", none, workflow, 1⟩ 0 (.ok ()), .captureSourceBoundary workflow,
    .lose workflow true false true true, .persistSignal ⟨"second", none, workflow, 1⟩ 0 (.ok ())]

/-- The surviving copy numbers the next event. -/
theorem source_sequences_never_reused_repaired : (called repairedCounter).Sound ∧
      (called repairedCounter).ledger.events.map Event.sourceSequence = [some 1, some 2] := by
  refine ⟨@source_sequences_never_reused .sqlite true _ repairedCounter ?_, by decide +kernel⟩
  exact .cons ⟨trivial, trivial, rfl⟩ <| .cons ⟨trivial, trivial, rfl⟩ <|
    .cons ⟨trivial, .inr (.inr (by decide +kernel)), rfl⟩ <|
    .cons ⟨trivial, trivial, rfl⟩ <| .nil _

/-- An event, the loss of the scope's four rows, retention, and another event. -/
def purgedEvidence : List Operation :=
  [.persistSignal ⟨"first", none, workflow, 1⟩ 0 (.ok ()),
    .lose workflow true true true true,
    .purgeExpired "agent" none none (2 * day) (fun _ => false),
    .persistSignal ⟨"second", none, workflow, 1⟩ (2 * day) (.ok ())]

/-- Retention deletes the event that would have shown the loss, and its number is used again. -/
theorem purged_evidence_reuses_sequence :
    Transition.Run Steps (.fresh .sqlite true) purgedEvidence (called purgedEvidence) ∧
      (called purgedEvidence).committed = [.persisted ⟨"first", none, workflow, day, some 1⟩,
          .persisted ⟨"second", none, workflow, 3 * day, some 1⟩] ∧
      ¬(called purgedEvidence).Sound := by
  have reused : (called purgedEvidence).committed =
      [.persisted ⟨"first", none, workflow, day, some 1⟩] ++
        .persisted ⟨"second", none, workflow, 3 * day, some 1⟩ :: [] := by decide +kernel
  refine ⟨?_, reused, ?_⟩
  · exact .cons ⟨trivial, rfl⟩ <| .cons ⟨.inr (.inr (by decide +kernel)), rfl⟩ <|
      .cons ⟨trivial, rfl⟩ <| .cons ⟨trivial, rfl⟩ <| .nil _
  · intro sound
    have numbered := sound.consecutive _ _ _ reused
    exact absurd numbered (by decide +kernel)

end Kestrel.Signals
