import Kestrel.Base.Run
import Kestrel.Stop.Circuit
import Mathlib.Data.List.Perm.Subperm

/-!
# Safety of the peer Stop circuit breaker

Over every interleaving of its calls with receipt commits, the counted admissions stay within the
threshold, and the recorded transitions tell whether the circuit is open.
-/

namespace Kestrel.Stop.Circuit

open List Except Tables Nat Table

variable {EventId : Type}

section History

variable {events : List (PeerStopCircuitEvent EventId)} {isOpen : Bool}

/-- The transitions of one target, in order, and whether they leave its circuit open. -/
inductive History : List (PeerStopCircuitEvent EventId) → Bool → Prop where
  | nil : History [] false
  | opened {events : List (PeerStopCircuitEvent EventId)} {event : PeerStopCircuitEvent EventId} :
      History events false → event.kind = .opened → event.seq = events.length + 1 →
      History (events ++ [event]) true
  | closed {events : List (PeerStopCircuitEvent EventId)} {event : PeerStopCircuitEvent EventId} :
      History events true → event.kind = .closed → event.seq = events.length + 1 →
      History (events ++ [event]) false
  | reset {events : List (PeerStopCircuitEvent EventId)} {event : PeerStopCircuitEvent EventId}
      {isOpen : Bool} : History events isOpen → event.kind = .reset →
      event.seq = events.length + 1 → History (events ++ [event]) false

theorem History.seqs (history : History events isOpen) :
    events.map (·.seq) = range' 1 events.length := by
  have append : ∀ (events : List (PeerStopCircuitEvent EventId)) (event : PeerStopCircuitEvent EventId),
      events.map (·.seq) = range' 1 events.length → event.seq = events.length + 1 →
      (events ++ [event]).map (·.seq) = range' 1 (events ++ [event]).length := by
    intro events event earlier next
    rw [map_append, map_singleton, earlier, next, length_append,
      length_singleton, List.range'_concat, Nat.add_comm 1, Nat.one_mul]
  induction history with
  | nil => rfl
  | opened _ _ next ih | closed _ _ next ih | reset _ _ next ih => exact append _ _ ih next

theorem History.isOpen_iff (history : History events isOpen) :
    isOpen = true ↔ events.getLast?.map (·.kind) = some .opened := by
  cases history with
  | nil => simp
  | opened _ kind _ | closed _ kind _ | reset _ kind _ => simp [kind]

theorem last_or_earlier {Value : Type} {values before after : List Value} {last value : Value}
    (split : values ++ [last] = before ++ value :: after) :
    value = last ∧ before = values ∨ ∃ rest, values = before ++ value :: rest := by
  rcases eq_nil_or_concat after with rfl | ⟨rest, final, rfl⟩
  · have equal := append_inj' split rfl
    exact .inl ⟨(cons.inj equal.2).1.symm, equal.1.symm⟩
  · rw [concat_eq_append, ← cons_append, ← append_assoc] at split
    exact .inr ⟨rest, (append_inj' split rfl).1⟩

theorem History.closed_follows (history : History events isOpen)
    {before after : List (PeerStopCircuitEvent EventId)} {event : PeerStopCircuitEvent EventId}
    (split : events = before ++ event :: after) (closed : event.kind = .closed) :
    before.getLast?.map (·.kind) = some .opened := by
  induction history generalizing after with
  | nil => exact absurd split.symm (append_ne_nil_of_right_ne_nil _ (cons_ne_nil _ _))
  | opened _ kind _ ih | reset _ kind _ ih =>
    rcases last_or_earlier split with ⟨rfl, rfl⟩ | ⟨rest, earlier⟩
    · rw [kind] at closed
      cases closed
    · exact ih earlier
  | closed earlier _ _ ih =>
    rcases last_or_earlier split with ⟨rfl, rfl⟩ | ⟨rest, earlier⟩
    · exact earlier.isOpen_iff.mp rfl
    · exact ih earlier

end History

variable {policy : PeerStopCircuitPolicy} {backend : DatabaseBackend}
  {tables before after : Tables EventId} {target : String}

namespace Tables

def eventsOf (tables : Tables EventId) (target : String) : List (PeerStopCircuitEvent EventId) :=
  tables.events.filter (·.targetAgentId = target)

end Tables

variable {start : ℕ}

section Windows

theorem timestamp_eq_ok {value stored : ℕ} (rounded : timestamp backend value = .ok stored) :
    backend.timestampBoundText value = .ok stored := by
  unfold timestamp at rounded
  cases bound : backend.timestampBoundText value with
  | error error =>
    rw [bound] at rounded
    cases rounded
  | ok text =>
    rw [bound] at rounded
    cases rounded
    rfl

theorem windowStart_mono {now later start' : ℕ} (ordered : now ≤ later)
    (started : windowStart policy backend now = .ok start)
    (started' : Tables.windowStart policy backend later = .ok start') : start ≤ start' := by
  unfold windowStart at started started'
  split_ifs at started started'
  exact DatabaseBackend.timestampBoundText_mono (Nat.sub_le_sub_right ordered _)
    (timestamp_eq_ok started) (timestamp_eq_ok started')

def Tables.Counts (tables : Tables EventId) (target : String) (epoch start : ℕ)
    (operationId : String) (admission : Admission) : Prop :=
  tables.admissions.row (target, operationId) = some admission ∧ admission.epoch = epoch ∧
    start < admission.admittedAt ∧ tables.stoppedNothing operationId = false

theorem mem_counted {epoch : ℕ} {row : (String × String) × Admission} :
    row ∈ tables.counted target epoch start ↔
      row.1.1 = target ∧ tables.Counts target epoch start row.1.2 row.2 := by
  unfold counted Counts
  rw [mem_filter, mem_rows]
  simp only [Bool.and_eq_true, decide_eq_true_eq, Bool.not_eq_true']
  constructor
  · intro found
    obtain ⟨stored, ⟨⟨same, epoch⟩, late⟩, pending⟩ := found
    subst same
    exact ⟨rfl, stored, epoch, late, pending⟩
  · intro found
    obtain ⟨same, stored, epoch, late, pending⟩ := found
    subst same
    exact ⟨stored, ⟨⟨rfl, epoch⟩, late⟩, pending⟩

theorem counted_nodup {epoch : ℕ} : (tables.counted target epoch start).Nodup :=
  tables.admissions.nodup_rows.filter _

theorem length_counted_le {epoch epoch' start' : ℕ}
    (narrower : ∀ operationId admission, after.Counts target epoch' start' operationId admission →
      before.Counts target epoch start operationId admission) :
    (after.counted target epoch' start').length ≤ (before.counted target epoch start).length := by
  refine (subperm_of_subset counted_nodup ?_).length_le
  intro row member
  obtain ⟨same, counts⟩ := mem_counted.mp member
  exact mem_counted.mpr ⟨same, narrower _ _ counts⟩

end Windows

section Transitions

variable {state next : State EventId} {event : PeerStopCircuitEvent EventId} {eventId : EventId}

theorem nextSeq_eq {isOpen : Bool} (history : History (before.eventsOf target) isOpen) :
    before.nextSeq target = (before.eventsOf target).length + 1 := by
  have greatest : ∀ length, (range' 1 length).foldl max 0 = length := by
    intro length
    induction length with
    | zero => rfl
    | succ length ih =>
      rw [range'_concat, foldl_append, ih]
      change max length (1 + 1 * length) = length + 1
      omega
  have seqs := history.seqs
  unfold eventsOf at seqs
  unfold nextSeq
  rw [seqs, greatest]
  rfl

theorem eventsOf_append_self (same : event.targetAgentId = target) :
    eventsOf { before with events := before.events ++ [event] } target =
      before.eventsOf target ++ [event] := by
  unfold eventsOf
  rw [filter_append, filter_singleton, decide_eq_true same]
  rfl

theorem eventsOf_append_other {other : String} (distinct : event.targetAgentId ≠ other) :
    eventsOf { before with events := before.events ++ [event] } other =
      before.eventsOf other := by
  unfold eventsOf
  rw [filter_append, filter_singleton, decide_eq_false distinct]
  exact append_nil _

structure Records (target : String) (before : Tables EventId) (state : State EventId)
    (after : Tables EventId) (next : State EventId) : Prop where
  states : after.states = before.states
  receipts : after.receipts = before.receipts
  others : ∀ other, other ≠ target → after.eventsOf other = before.eventsOf other
  history : History (before.eventsOf target) state.isOpen →
    History (after.eventsOf target) next.isOpen
  epoch : next.epoch = state.epoch

theorem Records.refl : Records target before state before state :=
  ⟨rfl, rfl, fun _ _ => rfl, id, rfl⟩

theorem Records.trans {middle : Tables EventId} {between : State EventId}
    (first : Records target before state middle between)
    (second : Records target middle between after next) :
    Records target before state after next where
  states := second.states.trans first.states
  receipts := second.receipts.trans first.receipts
  others := fun other distinct => (second.others other distinct).trans (first.others other distinct)
  history := fun history => second.history (first.history history)
  epoch := second.epoch.trans first.epoch

theorem Records.withAdmissions (records : Records target before state after next)
    (admissions : Table (String × String) Admission) :
    Records target before state { after with admissions := admissions } next :=
  ⟨records.states, records.receipts, records.others, records.history, records.epoch⟩

variable [DecidableEq EventId]

theorem recordEvent_spec {kind : PeerStopCircuitEventKind} {epoch count now : ℕ}
    {actorId reason : Option String}
    (recorded : before.recordEvent policy backend target kind epoch count now actorId reason
      eventId = .ok (after, event)) :
    after = { before with events := before.events ++ [event] } ∧ event.targetAgentId = target ∧
      event.kind = kind ∧ event.seq = before.nextSeq target := by
  unfold recordEvent at recorded
  obtain ⟨occurredAt, _, recorded⟩ := bind_eq_ok.mp recorded
  split_ifs at recorded
  cases recorded
  exact ⟨rfl, rfl, rfl, rfl⟩

theorem closeIfCleared_records {count now : ℕ} {closed : Option (PeerStopCircuitEvent EventId)}
    (closes : before.closeIfCleared policy backend target state count now eventId =
      .ok (after, next, closed)) :
    Records target before state after next ∧ after.admissions = before.admissions := by
  unfold closeIfCleared at closes
  split_ifs at closes with cleared
  · obtain ⟨⟨tables, state', event⟩, closed', closes⟩ := bind_eq_ok.mp closes
    cases closes
    unfold closeCircuit at closed'
    rw [bind_eq_ok] at closed'
    obtain ⟨⟨written, event'⟩, recorded, closed'⟩ := closed'
    cases closed'
    obtain ⟨rfl, same, kind, seq⟩ := recordEvent_spec recorded
    refine ⟨⟨rfl, rfl, ?_, ?_, rfl⟩, rfl⟩
    · intro other distinct
      exact eventsOf_append_other (fun equal => distinct (equal.symm.trans same))
    · intro history
      rw [eventsOf_append_self same]
      rw [cleared.1] at history
      exact .closed history kind (seq.trans (nextSeq_eq history))
  · cases closes
    exact ⟨.refl, rfl⟩

theorem openIfReached_records {count now : ℕ} {opened : Option (PeerStopCircuitEvent EventId)}
    (opens : before.openIfReached policy backend target state count now eventId =
      .ok (after, next, opened)) :
    Records target before state after next ∧ after.admissions = before.admissions := by
  unfold openIfReached at opens
  split_ifs at opens with reached
  · obtain ⟨⟨tables, state', event⟩, opened', opens⟩ := bind_eq_ok.mp opens
    cases opens
    unfold openCircuit at opened'
    rw [bind_eq_ok] at opened'
    obtain ⟨⟨written, event'⟩, recorded, opened'⟩ := opened'
    cases opened'
    obtain ⟨rfl, same, kind, seq⟩ := recordEvent_spec recorded
    refine ⟨⟨rfl, rfl, ?_, ?_, rfl⟩, rfl⟩
    · intro other distinct
      exact eventsOf_append_other (fun equal => distinct (equal.symm.trans same))
    · intro history
      rw [eventsOf_append_self same]
      have closed : state.isOpen = false := Bool.eq_false_iff.mpr reached.2
      rw [closed] at history
      exact .opened history kind (seq.trans (nextSeq_eq history))
  · cases opens
    exact ⟨.refl, rfl⟩

end Transitions

section Calls

/-- A call on a target leaves the other targets alone, and continues its transitions. -/
structure Serves (target : String) (before after : Tables EventId) : Prop where
  receipts : after.receipts = before.receipts
  states : ∀ other, other ≠ target → after.state other = before.state other
  others : ∀ other, other ≠ target → after.eventsOf other = before.eventsOf other
  epoch : (after.state target).epoch = (before.state target).epoch
  history : History (before.eventsOf target) (before.state target).isOpen →
    History (after.eventsOf target) (after.state target).isOpen

theorem state_saveState {state : State EventId} :
    (tables.saveState target state).state target = state := by
  unfold Tables.state Tables.saveState
  rw [row_insert_self, Option.getD_some]

theorem state_saveState_other {state : State EventId} {other : String} (distinct : other ≠ target) :
    (tables.saveState target state).state other = tables.state other := by
  unfold Tables.state Tables.saveState
  rw [row_insert_of_ne _ _ distinct]

theorem Records.serves {middle : Tables EventId} {next : State EventId}
    (records : Records target before (before.state target) middle next) :
    Serves target before (middle.saveState target next) := by
  refine ⟨records.receipts, ?_, records.others, ?_, ?_⟩
  · intro other distinct
    rw [state_saveState_other distinct]
    unfold state
    rw [records.states]
  · rw [state_saveState]
    exact records.epoch
  · intro history
    rw [state_saveState]
    exact records.history history

/-- The operation's admission is in the current epoch, after an instant. -/
def Tables.Current (tables : Tables EventId) (target operationId : String) (start : ℕ) : Prop :=
  ∃ admission, tables.admissions.row (target, operationId) = some admission ∧
    admission.epoch = (tables.state target).epoch ∧ start < admission.admittedAt

/-- The number that `admit` compares with the threshold. -/
def Tables.counting (tables : Tables EventId) (target : String) (start : ℕ) : ℕ :=
  (tables.counted target (tables.state target).epoch start).length

/-- What a committed admission did. -/
inductive Admits (policy : PeerStopCircuitPolicy) (backend : DatabaseBackend)
    (target actorId operationId : String) (now start : ℕ) (before after : Tables EventId)
    (decision : PeerStopCircuitDecision EventId) : Prop where
  | replayed : before.hasFinalReceipt operationId = true ∨
        before.Current target operationId start →
      Serves target before after → after.admissions = before.admissions →
      decision.honored = true → decision.admittedCount = before.counting target start →
      Admits policy backend target actorId operationId now start before after decision
  | refused : before.hasFinalReceipt operationId = false →
      ¬ before.Current target operationId start →
      policy.threshold ≤ before.counting target start →
      Serves target before after → after.admissions = before.admissions →
      decision.honored = false → decision.admittedCount = before.counting target start →
      Admits policy backend target actorId operationId now start before after decision
  | admitted {admittedAt : ℕ} : before.hasFinalReceipt operationId = false →
      ¬ before.Current target operationId start →
      before.counting target start < policy.threshold →
      timestamp backend now = .ok admittedAt → Serves target before after →
      after.admissions = before.admissions.insert (target, operationId)
        ⟨(before.state target).epoch, actorId, admittedAt⟩ →
      decision.honored = true → decision.admittedCount = before.counting target start + 1 →
      Admits policy backend target actorId operationId now start before after decision

variable [DecidableEq EventId]

/-- **A committed admission replays, refuses or admits.** -/
theorem admitOperation_admits {actorId operationId : String} {now : ℕ} {uuid4 : ℕ → EventId}
    {decision : PeerStopCircuitDecision EventId}
    (committed : before.admitOperation policy backend target actorId operationId now uuid4 =
      .ok (after, decision)) :
    ∃ start, windowStart policy backend now = .ok start ∧
      Admits policy backend target actorId operationId now start before after decision := by
  unfold admitOperation at committed
  obtain ⟨count, counts, committed⟩ := bind_eq_ok.mp committed
  obtain ⟨start, started, counts⟩ := bind_eq_ok.mp counts
  have count_eq : before.counting target start = count := ok.inj counts
  obtain ⟨⟨middle, between, closed⟩, closes, committed⟩ := bind_eq_ok.mp committed
  obtain ⟨records, kept⟩ := closeIfCleared_records closes
  have finished_eq : middle.hasFinalReceipt operationId = before.hasFinalReceipt operationId := by
    unfold hasFinalReceipt
    rw [records.receipts]
  refine ⟨start, started, ?_⟩
  dsimp only at committed
  by_cases finished : middle.hasFinalReceipt operationId = true
  · rw [if_pos finished] at committed
    cases committed
    exact .replayed (.inl (finished_eq.symm.trans finished)) records.serves kept rfl count_eq.symm
  · rw [if_neg finished, bind_eq_ok] at committed
    obtain ⟨isCurrent, located, committed⟩ := committed
    have unfinished : before.hasFinalReceipt operationId = false := by
      rw [← finished_eq]
      exact Bool.eq_false_iff.mpr finished
    have current_iff : isCurrent = true ↔ before.Current target operationId start := by
      unfold admissionIsCurrent at located
      obtain ⟨start', started', located⟩ := bind_eq_ok.mp located
      rw [started] at started'
      cases started'
      cases located
      unfold Current
      rw [kept, Option.any_eq_true, records.epoch]
      simp only [Bool.and_eq_true, decide_eq_true_eq]
    by_cases current : isCurrent = true
    · rw [if_pos current] at committed
      cases committed
      exact .replayed (.inr (current_iff.mp current)) records.serves kept rfl count_eq.symm
    · rw [if_neg current] at committed
      have stale : ¬ before.Current target operationId start :=
        fun located => current (current_iff.mpr located)
      by_cases full : policy.threshold ≤ count
      · rw [if_pos full, bind_eq_ok] at committed
        obtain ⟨⟨written, next, opened⟩, opens, committed⟩ := committed
        cases committed
        obtain ⟨records', kept'⟩ := openIfReached_records opens
        exact .refused unfinished stale (count_eq.symm ▸ full) (records.trans records').serves
          (kept'.trans kept) rfl count_eq.symm
      · rw [if_neg full, bind_eq_ok] at committed
        obtain ⟨admittedAt, stored, committed⟩ := committed
        obtain ⟨⟨written, next, opened⟩, opens, committed⟩ := bind_eq_ok.mp committed
        cases committed
        obtain ⟨records', kept'⟩ := openIfReached_records opens
        refine .admitted unfinished stale ?_ stored ((records.withAdmissions _).trans records').serves
          ?_ rfl ?_
        · rw [count_eq]
          exact Nat.lt_of_not_le full
        · change written.admissions = _
          rw [kept', records.epoch, kept]
        · rw [count_eq]

end Calls

section Invariant

variable {clock later : ℕ}

/-- What holds of a target between any two calls. -/
structure Safe (policy : PeerStopCircuitPolicy) (backend : DatabaseBackend) (clock : ℕ)
    (tables : Tables EventId) (target : String) : Prop where
  epochs : ∀ operationId admission,
    tables.admissions.row (target, operationId) = some admission →
    admission.epoch ≤ (tables.state target).epoch
  bounded : ∀ now start, clock ≤ now → Tables.windowStart policy backend now = .ok start →
    tables.counting target start ≤ policy.threshold
  history : History (tables.eventsOf target) (tables.state target).isOpen

theorem Safe.narrow (safe : Safe policy backend clock before target) (passes : clock ≤ later)
    (epoch : (after.state target).epoch = (before.state target).epoch)
    (admissions : ∀ operationId admission,
      after.admissions.row (target, operationId) = some admission →
      before.admissions.row (target, operationId) = some admission)
    (receipts : ∀ operationId, before.stoppedNothing operationId = true →
      after.stoppedNothing operationId = true)
    (history : History (before.eventsOf target) (before.state target).isOpen →
      History (after.eventsOf target) (after.state target).isOpen) :
    Safe policy backend later after target where
  epochs := fun operationId admission stored => by
    rw [epoch]
    exact safe.epochs operationId admission (admissions operationId admission stored)
  bounded := fun now start reached started => by
    refine Nat.le_trans (length_counted_le ?_)
      (safe.bounded now start (Nat.le_trans passes reached) started)
    intro operationId admission counts
    obtain ⟨stored, same, inside, pending⟩ := counts
    refine ⟨admissions operationId admission stored, same.trans epoch, inside, ?_⟩
    cases stopped : before.stoppedNothing operationId with
    | false => rfl
    | true =>
      rw [receipts operationId stopped] at pending
      cases pending
  history := history safe.history

theorem Safe.passing (safe : Safe policy backend clock before target) (passes : clock ≤ later) :
    Safe policy backend later before target :=
  safe.narrow passes rfl (fun _ _ => id) (fun _ => id) id

variable {other operationId actorId : String} {now : ℕ} {uuid4 : ℕ → EventId}

theorem Serves.safe (serves : Serves target before after)
    (admissions : after.admissions = before.admissions)
    (safe : Safe policy backend clock before other) (passes : clock ≤ later) :
    Safe policy backend later after other := by
  have receipts : ∀ operationId, before.stoppedNothing operationId = true →
      after.stoppedNothing operationId = true := by
    intro operationId
    unfold stoppedNothing
    rw [serves.receipts]
    exact id
  by_cases same : other = target
  · subst same
    exact safe.narrow passes serves.epoch (fun _ _ stored => admissions ▸ stored) receipts
      serves.history
  · refine safe.narrow passes ?_ (fun _ _ stored => admissions ▸ stored) receipts ?_
    · rw [serves.states other same]
    · rw [serves.states other same, serves.others other same]
      exact id

theorem Serves.safe_admitted {admittedAt : ℕ} (serves : Serves target before after)
    (started : windowStart policy backend now = .ok start)
    (below : before.counting target start < policy.threshold)
    (admissions : after.admissions = before.admissions.insert (target, operationId)
      ⟨(before.state target).epoch, actorId, admittedAt⟩)
    (safe : Safe policy backend clock before target) :
    Safe policy backend now after target where
  epochs := fun other admission stored => by
    rw [admissions, row_insert] at stored
    rw [serves.epoch]
    split_ifs at stored
    · cases stored
      exact Nat.le_refl _
    · exact safe.epochs other admission stored
  bounded := fun later start' passes started' => by
    have slides := windowStart_mono passes started started'
    have covered : after.counted target (after.state target).epoch start' ⊆
        ((target, operationId), ⟨(before.state target).epoch, actorId, admittedAt⟩) ::
          before.counted target (before.state target).epoch start := by
      intro row member
      obtain ⟨same, stored, epoch, inside, pending⟩ := mem_counted.mp member
      rw [admissions, row_insert] at stored
      rw [serves.epoch] at epoch
      split_ifs at stored with replaced
      · refine mem_cons.mpr (.inl ?_)
        exact Prod.ext (Prod.ext same (Prod.mk.inj replaced).2) (Option.some.inj stored).symm
      · refine mem_cons_of_mem _ (mem_counted.mpr ⟨same, stored, epoch, ?_, ?_⟩)
        · exact Nat.lt_of_le_of_lt slides inside
        · unfold stoppedNothing at pending ⊢
          rw [serves.receipts] at pending
          exact pending
    have fits := (subperm_of_subset counted_nodup covered).length_le
    exact Nat.le_trans fits below
  history := serves.history safe.history

theorem recorded_eq_ok {Result : Type} {message : String} {computed : Except CircuitError Result}
    {result : Result} (committed : recorded message computed = .ok result) :
    computed = .ok result := by
  cases computed with
  | error _ => cases committed
  | ok _ =>
    cases committed
    rfl

theorem Safe.commitReceipt {dispositions : List StopDisposition}
    (committed : before.commitReceipt operationId dispositions = .ok after)
    (safe : Safe policy backend clock before target) (passes : clock ≤ later) :
    Safe policy backend later after target := by
  unfold Tables.commitReceipt at committed
  split_ifs at committed with final
  cases committed
  refine safe.narrow passes rfl (fun _ _ => id) ?_ id
  intro other stopped
  unfold stoppedNothing at stopped ⊢
  by_cases same : other = operationId
  · subst same
    rw [Option.not_isSome_iff_eq_none.mp final] at stopped
    cases stopped
  · rw [row_insert_of_ne _ _ same]
    exact stopped

variable [DecidableEq EventId]

/-- A reset begins an epoch without admissions. -/
theorem Safe.reset {reason : String} {event : PeerStopCircuitEvent EventId}
    (committed : before.reset policy backend target actorId reason now uuid4 = .ok (after, event))
    (safe : Safe policy backend clock before other) (passes : clock ≤ now) :
    Safe policy backend now after other := by
  unfold Tables.reset at committed
  obtain ⟨_, _, committed⟩ := bind_eq_ok.mp committed
  obtain ⟨_, _, committed⟩ := bind_eq_ok.mp committed
  obtain ⟨_, _, committed⟩ := bind_eq_ok.mp committed
  have transaction := recorded_eq_ok committed
  dsimp only at transaction
  obtain ⟨count, _, transaction⟩ := bind_eq_ok.mp transaction
  obtain ⟨⟨written, entry⟩, records, transaction⟩ := bind_eq_ok.mp transaction
  cases transaction
  obtain ⟨rfl, owner, kind, seq⟩ := recordEvent_spec records
  by_cases same : other = target
  · subst same
    have none_counted : ∀ start, counting (saveState other
          (⟨(before.state other).epoch + 1, false, none, none⟩ : State EventId)
          { before with events := before.events ++ [entry] }) other start = 0 := by
      intro start
      unfold counting
      rw [state_saveState, length_eq_zero_iff, eq_nil_iff_forall_not_mem]
      intro row member
      obtain ⟨same, stored, epoch, _⟩ := mem_counted.mp member
      have old := safe.epochs _ _ stored
      dsimp only at epoch
      omega
    refine ⟨?_, ?_, ?_⟩
    · intro operationId admission stored
      rw [state_saveState]
      exact le_succ_of_le (safe.epochs operationId admission stored)
    · intro later start _ _
      rw [none_counted]
      exact zero_le _
    · rw [state_saveState]
      change History (eventsOf { before with events := before.events ++ [entry] } other) false
      rw [eventsOf_append_self owner]
      exact .reset safe.history kind (seq.trans (nextSeq_eq safe.history))
  · refine safe.narrow passes ?_ (fun _ _ => id) (fun _ => id) ?_
    · rw [state_saveState_other same]
      rfl
    · rw [state_saveState_other same]
      change _ → History (eventsOf { before with events := before.events ++ [entry] } other) _
      rw [eventsOf_append_other (fun equal => same (equal.symm.trans owner))]
      exact id

theorem Safe.openCircuits {targets : List String} {circuits : List (PeerStopCircuit EventId)}
    (committed : before.openCircuits policy backend targets now uuid4 = .ok (after, circuits))
    (safe : ∀ target, Safe policy backend clock before target) (passes : clock ≤ now) :
    ∀ target, Safe policy backend now after target := by
  unfold Tables.openCircuits at committed
  obtain ⟨⟨written, read, draw⟩, folded, committed⟩ := bind_eq_ok.mp committed
  cases committed
  let holds : Tables EventId × List (PeerStopCircuit EventId) × ℕ → Prop :=
    fun read => ∀ target, Safe policy backend now read.1 target
  have preserved : ∀ read target next, target ∈ targets → holds read →
      readCircuit policy backend now uuid4 read target = .ok next → holds next := by
    intro read target next _ safe processed other
    unfold readCircuit at processed
    dsimp only at processed
    by_cases isOpen : (read.1.state target).isOpen = true
    · rw [if_pos isOpen, bind_eq_ok] at processed
      obtain ⟨count, _, processed⟩ := processed
      by_cases cleared : count < policy.threshold
      · rw [if_pos cleared, bind_eq_ok] at processed
        obtain ⟨⟨middle, between, event⟩, closes, processed⟩ := processed
        cases processed
        have closes' : read.1.closeIfCleared policy backend target (read.1.state target) count now
            (uuid4 read.2.2) = .ok (middle, between, some event) := by
          unfold closeIfCleared
          rw [if_pos ⟨isOpen, cleared⟩, closes]
          rfl
        obtain ⟨records, kept⟩ := closeIfCleared_records closes'
        exact records.serves.safe kept (safe other) (Nat.le_refl now)
      · rw [if_neg cleared] at processed
        cases processed
        exact safe other
    · rw [if_neg isOpen] at processed
      cases processed
      exact safe other
  have initial : holds (before, [], 0) := fun target => (safe target).passing passes
  exact foldlM_invariant preserved initial (recorded_eq_ok folded)

end Invariant

section Runs

/-- The calls on the breaker's tables. -/
inductive Call (EventId : Type) where
  | admitStop (request : StopRequest) (uuid4 : ℕ → EventId)
  | commitReceipt (operationId : String) (dispositions : List StopDisposition)
  | openCircuits (targets : List String) (uuid4 : ℕ → EventId)
  | reset (target actorId reason : String) (uuid4 : ℕ → EventId)

/-- The tables with the last reading of the database clock. -/
structure System (EventId : Type) where
  tables : Tables EventId
  clock : ℕ

theorem safe_initial {receipts : Table String (List StopDisposition)} (clock : ℕ)
    (target : String) :
    Safe policy backend clock (initial receipts : Tables EventId) target where
  epochs := fun _ _ stored => by cases stored
  bounded := fun _ _ _ _ => zero_le _
  history := .nil

variable [DecidableEq EventId]

def Tables.perform (policy : PeerStopCircuitPolicy) (backend : DatabaseBackend)
    (identifierDigest : String → String → String) (now : ℕ) (tables : Tables EventId) :
    Call EventId → Except CircuitError (Tables EventId)
  | .admitStop request uuid4 =>
    (tables.admitStop policy backend identifierDigest request now uuid4).map Prod.fst
  | .commitReceipt operationId dispositions => tables.commitReceipt operationId dispositions
  | .openCircuits targets uuid4 =>
    (tables.openCircuits policy backend targets now uuid4).map Prod.fst
  | .reset target actorId reason uuid4 =>
    (tables.reset policy backend target actorId reason now uuid4).map Prod.fst

/-- A call reads the clock, which never runs backwards. A failed call leaves the tables alone. -/
def Steps (policy : PeerStopCircuitPolicy) (backend : DatabaseBackend)
    (identifierDigest : String → String → String) (before : System EventId)
    (call : Call EventId) (after : System EventId) : Prop :=
  before.clock ≤ after.clock ∧
    match before.tables.perform policy backend identifierDigest after.clock call with
    | .ok tables => after.tables = tables
    | .error _ => after.tables = before.tables

variable {identifierDigest : String → String → String}

variable {now : ℕ} {uuid4 : ℕ → EventId} {decision : PeerStopCircuitDecision EventId}

theorem admit_eq_ok {request : StopRequest} (addressed : request.targetAgentId = some target)
    (committed : before.admitStop policy backend identifierDigest request now uuid4 =
      .ok (after, decision)) :
    before.admitOperation policy backend target request.actorId
      (identifierDigest "operation" request.correlationId) now uuid4 = .ok (after, decision) := by
  unfold admitStop at committed
  split_ifs at committed
  rw [addressed] at committed
  obtain ⟨_, _, committed⟩ := bind_eq_ok.mp committed
  obtain ⟨_, _, committed⟩ := bind_eq_ok.mp committed
  exact recorded_eq_ok committed

theorem Safe.admitOperation {clock : ℕ} {actorId operationId other : String}
    (committed : before.admitOperation policy backend target actorId operationId now uuid4 =
      .ok (after, decision)) (safe : ∀ target, Safe policy backend clock before target)
    (passes : clock ≤ now) :
    Safe policy backend now after other := by
  obtain ⟨start, started, admits⟩ := admitOperation_admits committed
  cases admits with
  | replayed _ serves kept _ _ | refused _ _ _ serves kept _ _ =>
    exact serves.safe kept (safe other) passes
  | admitted _ _ below _ serves admissions _ _ =>
    by_cases same : other = target
    · subst same
      exact serves.safe_admitted started below admissions (safe other)
    · refine (safe other).narrow passes ?_ ?_ ?_ ?_
      · rw [serves.states other same]
      · intro operation admission stored
        rw [admissions, row_insert_of_ne _ _ (fun equal => same (Prod.mk.inj equal).1)]
          at stored
        exact stored
      · intro operation
        unfold stoppedNothing
        rw [serves.receipts]
        exact id
      · rw [serves.states other same, serves.others other same]
        exact id

variable {call : Call EventId}

/-- **Every call keeps every target safe.** -/
theorem safe_steps {earlier next : System EventId}
    (safe : ∀ target, Safe policy backend earlier.clock earlier.tables target)
    (stepped : Steps policy backend identifierDigest earlier call next) :
    ∀ target, Safe policy backend next.clock next.tables target := by
  obtain ⟨passes, stepped⟩ := stepped
  intro target
  cases performed : earlier.tables.perform policy backend identifierDigest next.clock call with
  | error _ =>
    rw [performed] at stepped
    rw [stepped]
    exact (safe target).passing passes
  | ok tables =>
    rw [performed] at stepped
    dsimp only at stepped
    rw [stepped]
    cases call with
    | admitStop request uuid4 =>
      obtain ⟨decision, admitted⟩ := map_fst_eq_ok performed
      cases addressed : request.targetAgentId with
      | none =>
        unfold admitStop at admitted
        rw [addressed] at admitted
        split_ifs at admitted
      | some recipient => exact Safe.admitOperation (admit_eq_ok addressed admitted) safe passes
    | commitReceipt operationId dispositions => exact (safe target).commitReceipt performed passes
    | openCircuits targets uuid4 =>
      obtain ⟨circuits, read⟩ := map_fst_eq_ok performed
      exact Safe.openCircuits read safe passes target
    | reset recipient actorId reason uuid4 =>
      obtain ⟨event, committed⟩ := map_fst_eq_ok performed
      exact (safe target).reset committed passes

end Runs

section Contract

namespace Tables

/-- The operation has no final receipt yet. -/
def InFlight (tables : Tables EventId) (operationId : String) : Prop :=
  tables.receipts.row operationId = none

def RecordsStopped (tables : Tables EventId) (operationId : String) : Prop :=
  (tables.receipts.row operationId).any (.stopped ∈ ·) = true

instance (tables : Tables EventId) (operationId : String) : Decidable (tables.InFlight operationId) :=
  inferInstanceAs (Decidable (_ = _))

instance (tables : Tables EventId) (operationId : String) :
    Decidable (tables.RecordsStopped operationId) :=
  inferInstanceAs (Decidable (_ = _))

/-- The number of admissions of the current epoch after an instant that are in flight or whose
receipt records a stopped outcome. -/
def active (tables : Tables EventId) (target : String) (start : ℕ) : ℕ :=
  (tables.admissions.rows.filter fun row =>
    row.1.1 = target ∧ row.2.epoch = (tables.state target).epoch ∧ start < row.2.admittedAt ∧
      (tables.InFlight row.1.2 ∨ tables.RecordsStopped row.1.2)).length

theorem stoppedNothing_eq_false {operationId : String} : tables.stoppedNothing operationId = false ↔
      tables.InFlight operationId ∨ tables.RecordsStopped operationId := by
  unfold stoppedNothing InFlight RecordsStopped
  cases tables.receipts.row operationId with
  | none => simp
  | some dispositions => simp

theorem counting_eq_active : tables.counting target start = tables.active target start := by
  unfold counting counted active
  congr 1
  refine filter_congr ?_
  intro row _
  rw [Bool.eq_iff_iff]
  simp [Bool.and_eq_true, decide_eq_true_eq, stoppedNothing_eq_false, and_assoc]

end Tables

/-- What the breaker promises of a target at a reading of the clock and later. -/
structure Contract (policy : PeerStopCircuitPolicy) (backend : DatabaseBackend)
    (system : System EventId) (target : String) : Prop where
  bounded : ∀ now start, system.clock ≤ now →
    Tables.windowStart policy backend now = .ok start →
    system.tables.active target start ≤ policy.threshold
  isOpen_iff : (system.tables.state target).isOpen = true ↔
    (system.tables.eventsOf target).getLast?.map (·.kind) = some .opened
  seqs : (system.tables.eventsOf target).map (·.seq) =
    List.range' 1 (system.tables.eventsOf target).length
  closed_follows : ∀ earlier event rest,
    system.tables.eventsOf target = earlier ++ event :: rest → event.kind = .closed →
    earlier.getLast?.map (·.kind) = some .opened

/-- What a committed `admit` promises of its operation, for a window that starts at an instant. -/
structure AdmitContract (policy : PeerStopCircuitPolicy) (before after : Tables EventId)
    (target operationId : String) (start : ℕ) (decision : PeerStopCircuitDecision EventId) :
    Prop where
  fresh : before.InFlight operationId → ¬ before.Current target operationId start →
    (decision.honored = true ↔ before.active target start < policy.threshold)
  again : ¬ before.InFlight operationId ∨ before.Current target operationId start →
    decision.honored = true ∧ after.active target start = before.active target start

variable {system : System EventId} {now : ℕ}

theorem Safe.contract (safe : Safe policy backend system.clock system.tables target) :
    Contract policy backend system target where
  bounded := fun now start reached started => by
    rw [← counting_eq_active]
    exact safe.bounded now start reached started
  isOpen_iff := safe.history.isOpen_iff
  seqs := safe.history.seqs
  closed_follows := fun _ _ _ split closed => safe.history.closed_follows split closed

theorem Serves.active_eq (serves : Serves target before after)
    (admissions : after.admissions = before.admissions) :
    after.active target start = before.active target start := by
  rw [← counting_eq_active, ← counting_eq_active]
  unfold counting counted stoppedNothing
  rw [serves.epoch, serves.receipts, admissions]

theorem Admits.contract {actorId operationId : String}
    {decision : PeerStopCircuitDecision EventId}
    (admits : Admits policy backend target actorId operationId now start before after decision) :
    AdmitContract policy before after target operationId start decision := by
  have inFlight_iff : before.InFlight operationId ↔ before.hasFinalReceipt operationId = false := by
    unfold InFlight hasFinalReceipt
    rw [Option.isSome_eq_false_iff, Option.isNone_iff_eq_none]
  cases admits with
  | replayed again serves kept honored _ =>
    refine ⟨?_, fun _ => ⟨honored, serves.active_eq kept⟩⟩
    intro inFlight stale
    rw [inFlight_iff] at inFlight
    rcases again with final | current
    · rw [inFlight] at final
      cases final
    · exact absurd current stale
  | refused unfinished stale full _ _ refused _ =>
    refine ⟨?_, ?_⟩
    · intro _ _
      rw [refused, ← counting_eq_active]
      refine iff_of_false (by simp) ?_
      exact Nat.not_lt.mpr full
    · intro again
      rcases again with final | current
      · exact absurd (inFlight_iff.mpr unfinished) final
      · exact absurd current stale
  | admitted unfinished stale below _ _ _ honored _ =>
    refine ⟨?_, ?_⟩
    · intro _ _
      rw [← counting_eq_active]
      exact iff_of_true honored below
    · intro again
      rcases again with final | current
      · exact absurd (inFlight_iff.mpr unfinished) final
      · exact absurd current stale

variable [DecidableEq EventId] {identifierDigest : String → String → String}

def System.advance (policy : PeerStopCircuitPolicy) (backend : DatabaseBackend)
    (identifierDigest : String → String → String) (system : System EventId) (now : ℕ)
    (call : Call EventId) : System EventId :=
  match system.tables.perform policy backend identifierDigest now call with
  | .ok tables => ⟨tables, now⟩
  | .error _ => ⟨system.tables, now⟩

theorem steps_after {earlier : System EventId} (passes : earlier.clock ≤ now)
    :
    Steps policy backend identifierDigest earlier call
      (earlier.advance policy backend identifierDigest now call) := by
  unfold Steps System.advance
  cases performed : earlier.tables.perform policy backend identifierDigest now call with
  | ok tables =>
    refine ⟨passes, ?_⟩
    rw [performed]
  | error _ =>
    refine ⟨passes, ?_⟩
    dsimp only
    rw [performed]

theorem advance_clock :
    (system.advance policy backend identifierDigest now call).clock = now := by
  unfold System.advance
  split <;> rfl

theorem run_advance {calls : List (ℕ × Call EventId)}
    (reached : ∀ call ∈ calls, system.clock ≤ call.1)
    (ordered : calls.Pairwise fun first second => first.1 ≤ second.1) :
    Transition.Run (Steps policy backend identifierDigest) system (calls.map Prod.snd)
      (calls.foldl (fun system call =>
        system.advance policy backend identifierDigest call.1 call.2) system) := by
  induction calls generalizing system with
  | nil => exact .nil system
  | cons call calls ih =>
    obtain ⟨later, ordered⟩ := pairwise_cons.mp ordered
    refine .cons (steps_after (reached call mem_cons_self)) (ih ?_ ordered)
    intro next member
    rw [advance_clock]
    exact later next member

/-- A peer's Stop of an agent by an operation. -/
def peerStop (correlationId : String) (named : Text.isBlank correlationId = false)
    (short : correlationId.utf8ByteSize ≤ maxStopCorrelationIdBytes) : StopRequest where
  scope := .agent
  actorId := "did:peer"
  target := some "agent"
  targetAgentId := some "did:agent"
  reason := none
  cascade := true
  correlationId := correlationId
  targetIsTurnId := false
  requestGeneration := none
  turnId := none
  spanId := none
  traceId := none
  valid := by
    have peer : Text.isBlank "did:peer" = false := by decide +kernel
    have agent : Text.isBlank "agent" = false := by decide +kernel
    have did : Text.isBlank "did:agent" = false := by decide +kernel
    simp [StopRequestFields.failure, StopRequestFields.targetFailure,
      StopRequestFields.targetAgentFailure, StopRequestFields.turnAddressFailure,
      StopRequestFields.turnFailure, concreteIfPresent, peer, agent, did, named, short]
  turned := by simp

/-- Two Stops against a threshold of one, and a read of the open circuits after the window. -/
def openedCalls : List (ℕ × Call ℕ) :=
  [(100000000, .admitStop (peerStop "first" (by decide +kernel) (by decide +kernel)) (· + 1)),
    (101000000, .admitStop (peerStop "second" (by decide +kernel) (by decide +kernel)) (· + 10)),
    (200000000, .openCircuits ["did:agent"] (· + 20))]

/-- The system after a number of the calls. -/
def openedSystem (count : ℕ) : System ℕ :=
  (openedCalls.take count).foldl
    (fun system call => system.advance ⟨1, 60, by decide, by decide⟩ .sqlite (· ++ ·) call.1 call.2)
    ⟨.initial .empty, 0⟩

end Contract

end Kestrel.Stop.Circuit
