import Kestrel.Storage.GovernedService

/-!
# What a transaction does to the ledger

Transactions other than erasures keep every receipt, report and revision. An erasure leaves every
operation that had a receipt taken, so no operation commits twice.
-/

namespace Kestrel.AssertionStore

open Except Option Function Store

variable {D : Domain} {G : Governance D}

namespace GovernedWrite

variable {write : GovernedWrite D} {supply : Supply D} {generation : ℕ}
  {before after : Store D} {written : Written D}

def mutation (generation : ℕ) : GovernedWrite D → Mutation D
  | .put assertion sources => .putAssertion assertion sources (some generation)
  | .supersede expected replacement sources =>
    .supersede expected replacement sources (some generation)
  | .restore expected replacement sources => .restore expected replacement sources (some generation)

theorem apply_mutation (checked : write.validate = .ok ())
    (applied : write.apply supply generation before = .ok (after, written)) :
    before.apply supply (.mutate (write.mutation generation)) = .ok after := by
  cases Applied.of_apply applied with
  | put assertion sources result put =>
    change Except.map _ (Store.putAssertion _ _ _ _ _) = _
    unfold putAssertion
    rw [show validateInitialAssertionWrite assertion = .ok () from checked, ok_bind, put]
    rfl
  | supersede expected replacement sources result superseded =>
    change Except.map _ (Store.supersede _ _ _ _ _ _) = _
    rw [superseded]
    rfl
  | restore expected replacement sources result restored =>
    change Except.map _ (Store.restore _ _ _ _ _ _) = _
    rw [restored]
    rfl

theorem progresses_apply (applied : write.apply supply generation before = .ok (after, written)) :
    after = before ∧ written.idempotent = true ∨
      Progresses 1 before after ∧ written.idempotent = false := by
  cases Applied.of_apply applied with
  | put assertion sources result put =>
    exact Store.progresses_putInitialAssertion put
  | supersede expected replacement sources result superseded =>
    refine .inr ⟨Store.progresses_supersede superseded, ?_⟩
    unfold Store.supersede at superseded
    split_ifs at superseded
    simp only [bind_eq_ok] at superseded
    obtain ⟨_, _, _, _, _, _, _, _, _, _, _, _, _, _, _, _, superseded⟩ := superseded
    cases superseded
    rfl
  | restore expected replacement sources result restored =>
    refine .inr ⟨progresses_restore restored, ?_⟩
    obtain ⟨_, _, restored⟩ := bind_eq_ok.mp restored
    split_ifs at restored
    · obtain ⟨_, _, restored⟩ := bind_eq_ok.mp restored
      cases restored
    simp only [bind_eq_ok] at restored
    obtain ⟨_, _, _, _, _, _, _, _, _, _, restored⟩ := restored
    cases restored
    rfl

theorem generation_of_apply
    (applied : write.apply supply generation before = .ok (after, written)) :
    before.generation = generation := by
  have current : ¬ (some generation ≠ none ∧ some generation ≠ some before.generation) →
      before.generation = generation := by
    intro accepted
    by_contra moved
    exact accepted ⟨some_ne_none _, fun same => moved (Option.some.inj same).symm⟩
  cases Applied.of_apply applied with
  | put assertion sources result put =>
    unfold putInitialAssertion at put
    split_ifs at put with moved
    exact current moved
  | supersede expected replacement sources result superseded =>
    unfold Store.supersede at superseded
    split_ifs at superseded with inactive moved
    exact current moved
  | restore expected replacement sources result restored =>
    obtain ⟨_, _, restored⟩ := bind_eq_ok.mp restored
    split_ifs at restored with moved
    all_goals exact current moved

end GovernedWrite

namespace Written

/-- The same receipt, read again by a later delivery. -/
def replayed : Written D → Written D
  | .put result => .put { result with idempotent := true }
  | .replaced result => .replaced { result with idempotent := true }

def StoredIn (store : Store D) : Written D → Prop
  | .put result => store.revision result.assertion.revisionId = some result.assertion
  | .replaced result =>
    store.revision result.predecessor.revisionId = some result.predecessor ∧
      store.revision result.replacement.revisionId = some result.replacement

theorem StoredIn.mono {before after : Store D} {written : Written D}
    (kept : ∀ revisionId assertion, before.revision revisionId = some assertion →
      after.revision revisionId = some assertion)
    (stored : written.StoredIn before) : written.StoredIn after := by
  cases written with
  | put result => exact kept _ _ stored
  | replaced result => exact ⟨kept _ _ stored.1, kept _ _ stored.2⟩

end Written

section Stored

variable {write : GovernedWrite D} {supply : Supply D} {generation : ℕ}
  {before after : Store D} {written : Written D}

theorem Store.stored_writeRevision {assertion : Assertion D}
    (revised : before.writeRevision assertion = .ok after) :
    after.revision assertion.revisionId = some assertion := by
  unfold writeRevision at revised
  split at revised
  · rename_i prior present
    split_ifs at revised with same
    cases revised
    unfold revision
    rw [present, map_some, same]
  · cases revised
    unfold revision
    rw [Table.row_insert_self]
    rfl

theorem GovernedWrite.stored_apply (linked : before.Linked)
    (applied : write.apply supply generation before = .ok (after, written))
    (new : written.idempotent = false) : written.StoredIn after := by
  cases GovernedWrite.Applied.of_apply applied with
  | put assertion sources result put =>
    unfold putInitialAssertion at put
    split_ifs at put
    split at put
    · split_ifs at put
      cases put
      cases new
    · split at put
      · cases put
      · simp only [bind_eq_ok] at put
        obtain ⟨sourced, stored, _, _, revised, wrote, put⟩ := put
        cases put
        have written : revised.revision assertion.revisionId = some assertion :=
          Store.stored_writeRevision wrote
        exact written
  | supersede expected replacement sources result superseded =>
    unfold Store.supersede at superseded
    split_ifs at superseded
    simp only [bind_eq_ok] at superseded
    obtain ⟨_, _, _, _, plan, _, predecessorState, _, replacementState, _, ⟨retired, states⟩,
      _, first, firstWritten, second, secondWritten, superseded⟩ := superseded
    cases superseded
    have later := (Store.progresses_setCurrent second replacementState).trans
      ((Store.progresses_advanceGeneration _).trans
        (((Store.progresses_event (supply.eventUuid4 0) predecessorState "superseded" false
          _).trans (Store.progresses_event (supply.eventUuid4 1) replacementState "accepted"
            true _)).trans (Store.progresses_events supply "retracted" states 2 _)))
    have kept := ((Store.progresses_setCurrent first predecessorState).trans
      (progresses_writeRevision secondWritten)).trans later
    exact ⟨kept.revision _ _ (stored_writeRevision firstWritten),
      later.revision _ _ (stored_writeRevision secondWritten)⟩
  | restore expected replacement sources result restored =>
    obtain ⟨source, _, restored⟩ := bind_eq_ok.mp restored
    split_ifs at restored
    · obtain ⟨_, _, restored⟩ := bind_eq_ok.mp restored
      cases restored
    simp only [bind_eq_ok] at restored
    obtain ⟨predecessor, planned, sourced, stored, _, _, state, _, revised, wrote, restored⟩ :=
      restored
    cases restored
    have found : before.revision predecessor.revisionId = some predecessor := by
      unfold planRestorationLifecycle at planned
      split at planned
      · cases planned
      · rename_i other present
        split_ifs at planned with mismatch moved
        cases planned
        push Not at moved
        rw [(linked.current_of_revision moved present).2]
        exact present
    have kept := ((progresses_storeSources stored).trans
      (progresses_writeRevision wrote)).revision _ _ found
    have written : revised.revision state.revisionId = some state :=
      stored_writeRevision wrote
    exact ⟨kept, written⟩

end Stored

namespace Ledger

variable {ledger before after : Ledger G} {supply : Supply D}

/-- The operation has a receipt, or the tombstone of one. -/
def Taken (ledger : Ledger G) (operationId : G.OperationId) : Prop :=
  ledger.operations operationId ≠ none ∨ ledger.tombstones operationId ≠ none

/-- The canonical tables are linked, and the reports stand under their ids. -/
structure Sound (ledger : Ledger G) : Prop where
  linked : ledger.store.Linked
  keyed : ledger.store.LedgerKeyed
  reported : ∀ reportId report, ledger.reports reportId = some report →
    report.reportId = reportId

theorem empty_sound : (empty : Ledger G).Sound where
  linked := empty_linked
  keyed := fun _ _ stored => nomatch stored
  reported := fun _ _ stored => nomatch stored

/-- The generation moves on, or what governed validation reads stays the same. -/
def Fences (before after : Store D) : Prop :=
  before.generation < after.generation ∨
    after.generation = before.generation ∧ Store.SameGraph before after

structure Evolves (before after : Ledger G) : Prop where
  sound : after.Sound
  fences : Fences before.store after.store
  taken : ∀ operationId, before.Taken operationId → after.Taken operationId
  rows : ∀ operationId row, after.operations operationId = some row →
    before.operations operationId = some row ∨ ¬ before.Taken operationId

/-- What a transaction other than an erasure keeps. -/
structure Keeps (before after : Ledger G) : Prop where
  revision : ∀ revisionId assertion, before.store.revision revisionId = some assertion →
    after.store.revision revisionId = some assertion
  operations : ∀ operationId row, before.operations operationId = some row →
    after.operations operationId = some row
  reports : ∀ reportId report, before.reports reportId = some report →
    after.reports reportId = some report

theorem Keeps.refl (ledger : Ledger G) : Keeps ledger ledger :=
  ⟨fun _ _ stored => stored, fun _ _ stored => stored, fun _ _ stored => stored⟩

theorem Keeps.trans {middle : Ledger G} (first : Keeps before middle)
    (second : Keeps middle after) : Keeps before after where
  revision := fun _ _ stored => second.revision _ _ (first.revision _ _ stored)
  operations := fun _ _ stored => second.operations _ _ (first.operations _ _ stored)
  reports := fun _ _ stored => second.reports _ _ (first.reports _ _ stored)

theorem Sound.evolves (sound : ledger.Sound) : Evolves ledger ledger :=
  ⟨sound, .inr ⟨rfl, .refl _⟩, fun _ taken => taken, fun _ _ stored => .inl stored⟩

theorem fences_of_fenced {before after : Store D} (fenced : Fenced before after) :
    Fences before after := by
  rcases fenced with progress | ⟨progress, same⟩
  · left
    rw [progress.generation]
    exact Nat.lt_succ_self _
  · exact .inr ⟨progress.generation, same⟩

theorem not_taken_of_operation {operationId : G.OperationId} {purpose : Purpose D}
    {digest : G.Digest} (vacant : ledger.operation operationId purpose digest = .ok none) :
    ¬ ledger.Taken operationId := by
  unfold operation at vacant
  split at vacant
  · rename_i absent
    split_ifs at vacant
    split at vacant
    · rename_i unburied
      exact not_or.mpr ⟨not_not.mpr absent, not_not.mpr unburied⟩
    · split_ifs at vacant
  · split_ifs at vacant
    cases vacant

theorem operation_eq_some {operationId : G.OperationId} {purpose : Purpose D}
    {digest : G.Digest} {row : OperationRow G} :
    ledger.operation operationId purpose digest = .ok (some row) ↔
      ledger.operations operationId = some row ∧ row.receipt.purpose = purpose ∧
        row.digest = digest := by
  unfold operation
  cases found : ledger.operations operationId with
  | none =>
    refine iff_of_false ?_ (fun impossible => nomatch impossible.1)
    intro answered
    dsimp only at answered
    split_ifs at answered
    split at answered
    · cases answered
    · split_ifs at answered
  | some other =>
    dsimp only
    split_ifs with mismatch
    · refine iff_of_false (fun impossible => nomatch impossible) ?_
      intro impossible
      obtain ⟨same, purpose, digest⟩ := impossible
      cases same
      exact mismatch.elim (fun wrong => wrong purpose) fun wrong => wrong digest
    · push Not at mismatch
      constructor
      · intro answered
        cases answered
        exact ⟨rfl, mismatch⟩
      · intro answered
        rw [answered.1]

theorem evolves_record (operationId : G.OperationId) (sound : before.Sound)
    (linked : after.store.Linked) (keyed : after.store.LedgerKeyed)
    (fences : Fences before.store after.store)
    (operations : after.operations = before.operations ∨ ¬ before.Taken operationId ∧
      ∃ row, after.operations = update before.operations operationId (some row))
    (tombstones : after.tombstones = before.tombstones)
    (reports : ∀ reportId report, after.reports reportId = some report →
      before.reports reportId = some report ∨ report.reportId = reportId) :
    Evolves before after where
  sound := ⟨linked, keyed, fun reportId report stored =>
    (reports reportId report stored).elim (sound.reported reportId report) id⟩
  fences := fences
  taken := by
    intro each taken
    unfold Taken at taken ⊢
    rw [tombstones]
    refine taken.imp_left ?_
    intro present
    rcases operations with same | ⟨_, row, same⟩
    · rw [same]
      exact present
    · rw [same]
      by_cases own : each = operationId
      · rw [own, update_self]
        exact some_ne_none row
      · rw [update_of_ne own]
        exact present
  rows := by
    intro each row stored
    rcases operations with same | ⟨vacant, other, same⟩
    · rw [same] at stored
      exact .inl stored
    · by_cases own : each = operationId
      · exact .inr (own ▸ vacant)
      · rw [same, update_of_ne own] at stored
        exact .inl stored

theorem keeps_update {operationId : G.OperationId} {row : OperationRow G}
    (vacant : ¬ before.Taken operationId)
    (revision : ∀ revisionId assertion, before.store.revision revisionId = some assertion →
      after.store.revision revisionId = some assertion)
    (operations : after.operations = update before.operations operationId (some row))
    (reports : ∀ reportId report, before.reports reportId = some report →
      after.reports reportId = some report) : Keeps before after where
  revision := revision
  operations := by
    intro each other stored
    rw [operations, update_of_ne]
    · exact stored
    · intro own
      rw [own] at stored
      exact (not_or.mp vacant).1 fun absent => by rw [absent] at stored; cases stored
  reports := reports

structure Persists (report : ShaclValidationReport G) (before after : Ledger G) : Prop where
  store : after.store = before.store
  operations : after.operations = before.operations
  tombstones : after.tombstones = before.tombstones
  stored : after.reports report.reportId = some report
  kept : ∀ reportId other, before.reports reportId = some other →
    after.reports reportId = some other
  known : ∀ reportId other, after.reports reportId = some other →
    before.reports reportId = some other ∨ other.reportId = reportId

theorem persists_persistReport {report : ShaclValidationReport G} {bindings : Option (Bindings D)}
    (persisted : before.persistReport report bindings = .ok after) :
    Persists report before after := by
  unfold persistReport at persisted
  split at persisted
  · rename_i existing present
    split_ifs at persisted with same
    cases persisted
    rw [not_not.mp same] at present
    exact ⟨rfl, rfl, rfl, present, fun _ _ stored => stored, fun _ _ stored => .inl stored⟩
  · rename_i absent
    have same : after = { before with
        reports := update before.reports report.reportId (some report) } := by
      cases bindings with
      | none =>
        cases persisted
        rfl
      | some revisions =>
        simp only [bind_eq_ok] at persisted
        obtain ⟨_, _, _, _, persisted⟩ := persisted
        cases persisted
        rfl
    cases same
    refine ⟨rfl, rfl, rfl, update_self .., ?_, ?_⟩
    · intro reportId other stored
      dsimp only
      rw [update_of_ne]
      · exact stored
      · intro own
        rw [own, absent] at stored
        cases stored
    · intro reportId other stored
      dsimp only at stored
      by_cases own : reportId = report.reportId
      · rw [own, update_self] at stored
        cases stored
        exact .inr own.symm
      · rw [update_of_ne own] at stored
        exact .inl stored

theorem Persists.keeps {report : ShaclValidationReport G}
    (persists : Persists report before after) :
    Keeps before after where
  revision := by
    rw [persists.store]
    exact fun _ _ stored => stored
  operations := by
    rw [persists.operations]
    exact fun _ _ stored => stored
  reports := persists.kept

theorem Persists.evolves {report : ShaclValidationReport G} (sound : before.Sound)
    (persists : Persists report before after) : Evolves before after where
  sound := by
    refine ⟨?_, ?_, ?_⟩
    · rw [persists.store]
      exact sound.linked
    · rw [persists.store]
      exact sound.keyed
    · intro reportId other stored
      exact (persists.known reportId other stored).elim (sound.reported reportId other) id
  fences := by
    rw [persists.store]
    exact .inr ⟨rfl, .refl _⟩
  taken := by
    unfold Taken
    rw [persists.operations, persists.tombstones]
    exact fun _ taken => taken
  rows := by
    rw [persists.operations]
    exact fun _ _ stored => .inl stored

section Transactions

variable {write : GovernedWrite D} {operationId : G.OperationId} {generation : ℕ}
  {report : ShaclValidationReport G} {written : Written D}

/-- A governed write goes through: its operation was vacant, its mutation is in the store, and its
report and, if it is new, its receipt are beside it. -/
structure Commits (supply : Supply D) (write : GovernedWrite D) (operationId : G.OperationId)
    (generation : ℕ) (report : ShaclValidationReport G) (before after : Ledger G)
    (written : Written D) : Prop where
  valid : write.validate = .ok ()
  accepted : validateAcceptedReport write.proposal report = .ok ()
  vacant : ¬ before.Taken operationId
  applied : write.apply supply generation before.store = .ok (after.store, written)
  operations : after.operations = if written.idempotent then before.operations
    else Function.update before.operations operationId
      (some (writeRow supply write report.reportId before.store written))
  tombstones : after.tombstones = before.tombstones
  stored : after.reports report.reportId = some report
  kept : ∀ reportId other, before.reports reportId = some other →
    after.reports reportId = some other
  known : ∀ reportId other, after.reports reportId = some other →
    before.reports reportId = some other ∨ other.reportId = reportId

variable {store : Store D} {mutation : AssertionMutation D}

theorem idempotent_of_replay {receipt : Receipt D}
    (replayed : replay store receipt = .ok written) : written.idempotent = true := by
  cases receipt with
  | put revisionId generation eventId =>
    simp only [replay] at replayed
    split at replayed
    · cases replayed
    · cases replayed
      rfl
  | supersede predecessorId replacementId generation eventIds invalidated
  | restore predecessorId replacementId generation eventIds =>
    simp only [replay] at replayed
    split at replayed
    · cases replayed
      rfl
    · cases replayed
  | quarantine quarantined invalidated generation | other operation => cases replayed

theorem revisionId_of_revision (linked : store.Linked)
    {revisionId : D.RevisionId} {assertion : Assertion D}
    (stored : store.revision revisionId = some assertion) : assertion.revisionId = revisionId := by
  obtain ⟨row, present, rfl⟩ := map_eq_some_iff.mp stored
  exact linked.keyed revisionId row present

theorem receipt_of_replay (linked : store.Linked) {receipt : Receipt D}
    (replayed : replay store receipt = .ok written) (purpose : receipt.purpose = write.purpose) :
    write.receipt written = receipt := by
  cases receipt with
  | put revisionId generation eventId =>
    simp only [replay] at replayed
    split at replayed
    · cases replayed
    · rename_i stored
      cases replayed
      change Receipt.put _ _ _ = _
      rw [revisionId_of_revision linked stored]
  | supersede predecessorId replacementId generation eventIds invalidated =>
    simp only [replay] at replayed
    split at replayed
    · rename_i predecessor applied
      cases replayed
      cases write with
      | supersede expected replacement sources =>
        change Receipt.supersede _ _ _ _ _ = _
        rw [revisionId_of_revision linked predecessor, revisionId_of_revision linked applied]
      | put | restore => cases purpose
    · cases replayed
  | restore predecessorId replacementId generation eventIds =>
    simp only [replay] at replayed
    split at replayed
    · rename_i predecessor applied
      cases replayed
      cases write with
      | restore expected replacement sources =>
        change Receipt.restore _ _ _ _ = _
        dsimp only
        rw [revisionId_of_revision linked predecessor, revisionId_of_revision linked applied]
      | put | supersede => cases purpose
    · cases replayed
  | quarantine quarantined invalidated generation | other operation => cases replayed

theorem purpose_receipt {source target : Store D}
    (applied : write.apply supply generation source = .ok (target, written)) :
    (write.receipt written).purpose = write.purpose := by
  cases GovernedWrite.Applied.of_apply applied with
  | put assertion sources result put | supersede expected replacement sources result superseded
  | restore expected replacement sources result restored =>
    rfl

theorem replay_of_apply {source target : Store D}
    (applied : write.apply supply generation source = .ok (target, written))
    (stored : written.StoredIn store) :
    replay store (write.receipt written) = .ok written.replayed := by
  cases GovernedWrite.Applied.of_apply applied with
  | put assertion sources result put =>
    have found : store.revision result.assertion.revisionId = some result.assertion := stored
    simp only [GovernedWrite.receipt, replay, found]
    rfl
  | supersede expected replacement sources result superseded =>
    have found : store.revision result.predecessor.revisionId = some result.predecessor ∧
      store.revision result.replacement.revisionId = some result.replacement := stored
    simp only [GovernedWrite.receipt, replay, found]
    rfl
  | restore expected replacement sources result restored =>
    have nothing : result.invalidatedRevisionIds = [] := by
      unfold restore at restored
      obtain ⟨_, _, restored⟩ := bind_eq_ok.mp restored
      split_ifs at restored
      · obtain ⟨_, _, restored⟩ := bind_eq_ok.mp restored
        cases restored
      simp only [bind_eq_ok] at restored
      obtain ⟨_, _, _, _, _, _, _, _, _, _, restored⟩ := restored
      cases restored
      rfl
    have found : store.revision result.predecessor.revisionId = some result.predecessor ∧
      store.revision result.replacement.revisionId = some result.replacement := stored
    simp only [GovernedWrite.receipt, replay, found]
    rw [← nothing]
    rfl

theorem commitWithReport_eq_ok
    (committed : before.commitWithReport supply write operationId generation report =
      .ok (after, written)) : after = before ∧ written.idempotent = true ∨
        Commits supply write operationId generation report before after written := by
  simp only [commitWithReport, bind_eq_ok] at committed
  obtain ⟨_, valid, _, accepted, found, looked, committed⟩ := committed
  cases found with
  | some row =>
    simp only [bind_eq_ok] at committed
    obtain ⟨other, replayed, _, _, committed⟩ := committed
    cases committed
    exact .inl ⟨rfl, idempotent_of_replay replayed⟩
  | none =>
    simp only [bind_eq_ok] at committed
    obtain ⟨⟨store, result⟩, applied, persisted, persists, committed⟩ := committed
    cases committed
    have kept := persists_persistReport persists
    have shape : (if result.idempotent then ({ before with store := store } : Ledger G)
        else ({ before with store := store } : Ledger G).record operationId
          (writeRow supply write report.reportId before.store result)) =
        { before with
          store := store
          operations := if result.idempotent then before.operations
            else update before.operations operationId
              (some (writeRow supply write report.reportId before.store result)) } := by
      split_ifs <;> rfl
    rw [shape] at kept
    refine .inr ⟨valid, accepted, not_taken_of_operation looked, ?_, kept.operations,
      kept.tombstones, kept.stored, kept.kept, kept.known⟩
    rw [kept.store]
    exact applied

theorem Commits.evolves (sound : before.Sound)
    (commits : Commits supply write operationId generation report before after written) :
    Evolves before after := by
  have applied := GovernedWrite.apply_mutation commits.valid commits.applied
  have linked := linked_apply sound.linked applied
  rcases GovernedWrite.progresses_apply commits.applied with ⟨same, idempotent⟩ | ⟨progress, new⟩
  · refine evolves_record operationId sound linked ?_ ?_ (.inl ?_) commits.tombstones commits.known
    · rw [same]
      exact sound.keyed
    · rw [same]
      exact .inr ⟨rfl, .refl _⟩
    · rw [commits.operations, if_pos idempotent]
  · have operations := commits.operations
    rw [new] at operations
    exact evolves_record operationId sound linked (progress.keyed sound.keyed)
      (fences_of_fenced (.inl progress)) (.inr ⟨commits.vacant, _, operations⟩)
      commits.tombstones commits.known

theorem Commits.keeps
    (commits : Commits supply write operationId generation report before after written) :
    Keeps before after := by
  rcases GovernedWrite.progresses_apply commits.applied with ⟨same, idempotent⟩ | ⟨progress, new⟩
  · refine ⟨?_, ?_, commits.kept⟩
    · rw [same]
      exact fun _ _ stored => stored
    · rw [commits.operations, if_pos idempotent]
      exact fun _ _ stored => stored
  · have operations := commits.operations
    rw [new] at operations
    exact keeps_update commits.vacant progress.revision operations commits.kept

theorem revision_apply {before after : Store D}
    (keyed : before.LedgerKeyed) (settled : before.Settled mutation)
    (applied : before.apply supply mutation = .ok after) (revisionId : D.RevisionId)
    (assertion : Assertion D) (stored : before.revision revisionId = some assertion) :
    after.revision revisionId = some assertion := by
  rcases fenced_apply keyed settled applied with progress | ⟨progress, _⟩
  all_goals exact progress.revision _ _ stored

theorem keyed_apply {before after : Store D}
    (keyed : before.LedgerKeyed) (settled : before.Settled mutation)
    (applied : before.apply supply mutation = .ok after) : after.LedgerKeyed := by
  rcases fenced_apply keyed settled applied with progress | ⟨progress, _⟩
  all_goals exact progress.keyed keyed

theorem evolves_of_apply (sound : before.Sound)
    (settled : before.store.Settled mutation)
    (applied : before.store.apply supply mutation = .ok store) :
    (Evolves before { before with store := store } ∧
        Keeps before { before with store := store }) ∧
      ∀ (operationId : G.OperationId) (row : OperationRow G), ¬ before.Taken operationId →
        Evolves before (({ before with store := store } : Ledger G).record operationId row) ∧
          Keeps before (({ before with store := store } : Ledger G).record operationId row) := by
  have linked := linked_apply sound.linked applied
  have keyed := keyed_apply sound.keyed settled applied
  have fences := fences_of_fenced (fenced_apply sound.keyed settled applied)
  have revision := revision_apply sound.keyed settled applied
  refine ⟨⟨⟨⟨linked, keyed, sound.reported⟩, fences, fun _ taken => taken,
    fun _ _ stored => .inl stored⟩, ⟨revision, fun _ _ stored => stored,
      fun _ _ stored => stored⟩⟩, ?_⟩
  intro operationId row vacant
  exact ⟨evolves_record operationId sound linked keyed fences (.inr ⟨vacant, row, rfl⟩) rfl
    fun _ _ stored => .inl stored, keeps_update vacant revision rfl fun _ _ stored => stored⟩

theorem evolves_mutate
    {recorded : Option (G.OperationId × Receipt D × G.Digest × List D.AssertionId ×
      List D.RevisionId)} (sound : before.Sound) (settled : before.store.Settled mutation)
    (mutated : before.mutate supply mutation recorded = .ok after) :
    Evolves before after ∧ Keeps before after := by
  cases recorded with
  | none =>
    simp only [mutate, bind_eq_ok] at mutated
    obtain ⟨store, applied, mutated⟩ := mutated
    cases mutated
    exact (evolves_of_apply sound settled applied).1
  | some recorded =>
    simp only [mutate, bind_eq_ok] at mutated
    obtain ⟨found, looked, mutated⟩ := mutated
    cases found with
    | some row =>
      cases mutated
      exact ⟨sound.evolves, .refl _⟩
    | none =>
      simp only [bind_eq_ok] at mutated
      obtain ⟨store, applied, mutated⟩ := mutated
      cases mutated
      exact (evolves_of_apply sound settled applied).2 _ _ (not_taken_of_operation looked)

theorem Persists.taken {operationId : G.OperationId} (persists : Persists report before after) :
    after.Taken operationId ↔ before.Taken operationId := by
  unfold Taken
  rw [persists.operations, persists.tombstones]

theorem Evolves.after_persists {middle : Ledger G} (persists : Persists report before middle)
    (evolves : Evolves middle after) : Evolves before after where
  sound := evolves.sound
  fences := by
    rw [← persists.store]
    exact evolves.fences
  taken := fun operationId taken => evolves.taken operationId (persists.taken.mpr taken)
  rows := by
    intro operationId row stored
    have known := evolves.rows operationId row stored
    rw [persists.operations, persists.taken] at known
    exact known

theorem evolves_persistReportAndQuarantine {revisions : Bindings D} (sound : before.Sound)
    (settled : report.targets = [] → (before.store.planDependentCurrentRevisions []).1 = [])
    (repaired : before.persistReportAndQuarantine supply report revisions = .ok after) :
    Evolves before after ∧ Keeps before after := by
  simp only [persistReportAndQuarantine, bind_eq_ok] at repaired
  obtain ⟨_, _, _, bound, found, looked, repaired⟩ := repaired
  cases found with
  | some row =>
    have same : after = before := by
      simp only [bind_eq_ok] at repaired
      obtain ⟨_, _, repaired⟩ := repaired
      split at repaired
      · simp only [bind_eq_ok] at repaired
        obtain ⟨_, _, repaired⟩ := repaired
        cases repaired
        rfl
      · cases repaired
        rfl
    rw [same]
    exact ⟨sound.evolves, .refl _⟩
  | none =>
    simp only [bind_eq_ok] at repaired
    obtain ⟨_, _, middle, persisted, ⟨store, result⟩, quarantined, repaired⟩ := repaired
    cases repaired
    have persists := persists_persistReport persisted
    have applied : middle.store.apply supply (.mutate (.quarantineReportTargets
        (report.targets.filterMap fun assertionId =>
          (revisions assertionId).map fun revisionId => (assertionId, revisionId)))) =
        .ok store := by
      change Except.map _ (quarantineReportTargets _ _ _) = _
      rw [quarantined]
      rfl
    have grounded : middle.store.Settled (.mutate (.quarantineReportTargets
        (report.targets.filterMap fun assertionId =>
          (revisions assertionId).map fun revisionId => (assertionId, revisionId)))) := by
      cases listed : report.targets.filterMap fun assertionId =>
          (revisions assertionId).map fun revisionId => (assertionId, revisionId) with
      | nil =>
        rw [persists.store]
        refine settled (List.eq_nil_iff_forall_not_mem.mpr ?_)
        intro assertionId member
        obtain ⟨revisionId, bound⟩ := isSome_iff_exists.mp
          (require_eq_ok.mp bound assertionId member)
        have unlisted := List.filterMap_eq_nil_iff.mp listed assertionId member
        rw [bound] at unlisted
        cases unlisted
      | cons target targets => trivial
    have vacant : ¬ middle.Taken (G.quarantineOperationId report.reportId) :=
      fun taken => not_taken_of_operation looked (persists.taken.mp taken)
    obtain ⟨evolves, keeps⟩ :=
      (evolves_of_apply (persists.evolves sound).sound grounded applied).2 _ _ vacant
    exact ⟨evolves.after_persists persists, persists.keeps.trans keeps⟩

theorem linked_erase {before after : Store D} {limit : ℕ} {assertionId : D.AssertionId}
    {result : ErasureResult D} (linked : before.Linked) (fresh : supply.FreshFrom 0 before)
    (erased : before.erase supply assertionId limit = .ok (some (after, result))) :
    after.Linked := by
  have performed : before.Performs (.erase assertionId) after :=
    ⟨supply, fresh, limit, result, erased⟩
  exact linked_performs linked performed

theorem evolves_forget {result : ErasureResult D} (sound : before.Sound)
    (linked : store.Linked) (keyed : store.LedgerKeyed)
    (advanced : before.store.generation < store.generation) :
    Evolves before (before.forget operationId store result) where
  sound := by
    refine ⟨linked, keyed, ?_⟩
    intro reportId report stored
    exact sound.reported reportId report (filter_eq_some_iff.mp stored).1
  fences := .inl advanced
  taken := by
    intro each taken
    unfold Taken forget at *
    dsimp only at *
    cases found : before.operations each with
    | none =>
      rw [found] at taken
      exact .inr (taken.resolve_left fun absent => absent rfl)
    | some row =>
      dsimp only
      by_cases referenced : OperationRow.References row result
      · right
        rw [if_pos referenced]
        exact some_ne_none _
      · left
        rw [filter_some, if_pos (decide_eq_true referenced)]
        exact some_ne_none row
  rows := fun each row stored => .inl (filter_eq_some_iff.mp stored).1

theorem evolves_erase {limit : ℕ} {assertionId : D.AssertionId} (sound : before.Sound)
    (fresh : supply.FreshFrom 0 before.store)
    (erased : before.erase supply limit operationId assertionId = .ok after) :
    Evolves before after := by
  unfold erase at erased
  split_ifs at erased
  · cases erased
    exact sound.evolves
  · obtain ⟨found, performed, erased⟩ := bind_eq_ok.mp erased
    cases found with
    | none =>
      cases erased
      exact sound.evolves
    | some erasure =>
      cases erased
      obtain ⟨generation, keyed⟩ := generation_erase performed
      refine evolves_forget sound (linked_erase sound.linked fresh performed) (keyed sound.keyed) ?_
      rw [generation]
      exact Nat.lt_succ_self _

end Transactions

end Ledger

end Kestrel.AssertionStore
