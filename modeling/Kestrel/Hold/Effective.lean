import Kestrel.Hold.Calls
import Mathlib.Data.List.ReduceOption

/-!
# The effective Hold of an agent

An agent is held by the host latch, by its own latch or by a mandate latch of any of its ancestors.
-/

namespace Kestrel.Hold

open List Except HoldStore

variable {sha256 : Sha256} {isAware : String → Bool} {keys : List HoldTarget}
  {history : List HoldReceipt}

theorem scopeSubject_of_begins {key : HoldTarget} (isKey : key.IsKey) (mandate : key.scope = .mandate)
    (subject : String) :
    (mandateKeyPrefix subject).toList.isPrefixOf key.targetId.toList = true ↔
      scopeSubject .mandate key.targetId = .ok subject := by
  obtain ⟨⟨target, holder⟩, parsed⟩ := isKey.2.2 mandate
  obtain ⟨_, _, _, encoded⟩ := parseMandateLatchKey_eq_ok.mp parsed
  unfold scopeSubject
  rw [parsed, isPrefixOf_iff_prefix, encoded]
  change (Json.pairPrefix subject).toList <+: _ ↔ Except.ok target = Except.ok subject
  rw [Json.pairPrefix_isPrefix, ok.injEq]

def mandateKeys (keys : List HoldTarget) (subject : String) : List HoldTarget :=
  keys.filter fun key => key.scope = .mandate ∧
    (mandateKeyPrefix subject).toList.isPrefixOf key.targetId.toList

theorem filter_mandates (subject : String) :
    (keys.map (latchRowOf history)).filter (fun row => row.scope = HoldScope.mandate.value ∧
        (mandateKeyPrefix subject).toList.isPrefixOf row.targetId.toList) =
      (mandateKeys keys subject).map (latchRowOf history) := by
  unfold mandateKeys
  rw [filter_map]
  congr 1
  apply filter_congr
  intro key _
  simp only [Function.comp, latchRowOf_scope, latchRowOf_targetId]
  rw [Bool.eq_iff_iff, decide_eq_true_iff, decide_eq_true_iff]
  refine and_congr_left fun _ => ⟨HoldScope.value_injective, ?_⟩
  intro mandate
  rw [mandate]

theorem mem_mandateKeys (keyed : Keyed isAware keys history) {subject : String} {key : HoldTarget} :
    key ∈ mandateKeys keys subject ↔
      key ∈ keys ∧ key.scope = .mandate ∧ scopeSubject .mandate key.targetId = .ok subject := by
  unfold mandateKeys
  rw [mem_filter, decide_eq_true_iff]
  constructor
  · rintro ⟨member, mandate, begins⟩
    exact ⟨member, mandate, (scopeSubject_of_begins (keyed.isKey key member) mandate _).mp begins⟩
  · rintro ⟨member, mandate, subject⟩
    exact ⟨member, mandate, (scopeSubject_of_begins (keyed.isKey key member) mandate _).mpr subject⟩

theorem readSubjectMandates_project (sha256 : Sha256) (keyed : Keyed isAware keys history)
    (subject : String) :
    ∃ mandates, readSubjectMandates sha256 isAware (project sha256 keys history) subject =
        .ok mandates ∧
      ∀ latch, latch ∈ mandates ↔ ∃ key ∈ mandateKeys keys subject,
        stateOf history key = some latch := by
  let rows := ((mandateKeys keys subject).map (latchRowOf history)).mergeSort
    fun first second => first.targetId ≤ second.targetId
  have stored : ∀ row, row ∈ rows ↔ ∃ key ∈ mandateKeys keys subject,
      latchRowOf history key = row := by
    intro row
    rw [mem_mergeSort, mem_map]
  have nodup : (rows.map LatchRow.targetId).Nodup := by
    rw [((mergeSort_perm _ _).map LatchRow.targetId).nodup_iff, map_map]
    refine Nodup.map_on ?_ (keyed.nodup.filter _)
    intro first known second known' same
    simp only [Function.comp, latchRowOf_targetId] at same
    have mandate := ((mem_mandateKeys keyed).mp known).2.1
    have mandate' := ((mem_mandateKeys keyed).mp known').2.1
    obtain ⟨scope, targetId⟩ := first
    obtain ⟨scope', targetId'⟩ := second
    obtain rfl : scope = .mandate := mandate
    obtain rfl : scope' = .mandate := mandate'
    rw [HoldTarget.mk.injEq]
    exact ⟨rfl, same⟩
  have reads : ∀ key ∈ mandateKeys keys subject,
      readMandate sha256 isAware (project sha256 keys history) subject
        (latchRowOf history key) = .ok (stateOf history key) := by
    intro key known
    obtain ⟨member, mandate, subjected⟩ := (mem_mandateKeys keyed).mp known
    have isKey := keyed.isKey key member
    have same : HoldTarget.mk .mandate key.targetId = key := by rw [← mandate]
    unfold readMandate
    rw [latchFromRow_latchRowOf isKey keyed.checked, latchRowOf_targetId, subjected, same]
    refine bind_eq_ok.mpr ⟨_, rfl, ?_⟩
    refine bind_eq_ok.mpr ⟨_, rfl, ?_⟩
    refine require_bind_eq_ok.mpr ⟨rfl, ?_⟩
    exact bind_eq_ok.mpr ⟨(), validateLatchProjection_project keyed isKey, rfl⟩
  let told : LatchRow → Option HoldState := fun row =>
    (readMandate sha256 isAware (project sha256 keys history) subject row).toOption.join
  refine ⟨(rows.map told).reduceOption, ?_, ?_⟩
  · unfold readSubjectMandates
    simp only [project, filter_mandates]
    refine require_bind_eq_ok.mpr ⟨nodup, ?_⟩
    refine bind_eq_ok.mpr ⟨rows.map told, mapM_eq_ok.mpr ?_, rfl⟩
    rw [forall₂_map_right_iff, forall₂_same]
    intro row member
    obtain ⟨key, known, rfl⟩ := (stored row).mp member
    have read := reads key known
    simp only [told, read]
    exact read
  · intro latch
    rw [reduceOption_mem_iff, mem_map]
    constructor
    · rintro ⟨row, member, same⟩
      obtain ⟨key, known, rfl⟩ := (stored row).mp member
      refine ⟨key, known, ?_⟩
      simp only [told, reads key known] at same
      exact same
    · rintro ⟨key, known, same⟩
      refine ⟨latchRowOf history key, (stored _).mpr ⟨key, known, rfl⟩, ?_⟩
      simp only [told, reads key known]
      exact same

theorem exists_holder_of_scopeSubject {key subject : String}
    (subjected : scopeSubject .mandate key = .ok subject) :
    ∃ holder, mandateLatchKey subject holder = .ok key := by
  obtain ⟨⟨target, holder⟩, parsed, rfl⟩ := map_eq_ok.mp subjected
  obtain ⟨required, required', distinct, rfl⟩ := parseMandateLatchKey_eq_ok.mp parsed
  exact ⟨holder, mandateLatchKey_of_isRequired required required' distinct⟩

theorem scopeSubject_of_mandateLatchKey {subject holder key : String} (required : IsRequired subject)
    (keyedBy : mandateLatchKey subject holder = .ok key) :
    scopeSubject .mandate key = .ok subject := by
  obtain ⟨target, _, required', required'', distinct, same, _, rfl⟩ := mandateLatchKey_eq_ok keyedBy
  rw [required.2] at same
  subst same
  exact map_eq_ok.mpr
    ⟨_, parseMandateLatchKey_eq_ok.mpr ⟨required', required'', distinct, rfl⟩, rfl⟩

theorem getEffective_storeOf (sha256 : Sha256) (keyed : Keyed isAware keys history)
    {agentId agent : String} (named : requiredText agentId "agent_id" = .ok agent) :
    ∃ effective, (storeOf sha256 isAware keys history).getEffective sha256 isAware agentId =
        .ok effective ∧
      (effective.held = true ↔ (stateOf history ⟨.host, hostHoldTarget⟩).isSome = true ∨
        (stateOf history ⟨.agent, agent⟩).isSome = true ∨
        ∃ holder key, mandateLatchKey agent holder = .ok key ∧
          (stateOf history ⟨.mandate, key⟩).isSome = true) := by
  have required := (requiredText_eq_ok named).1
  have isAgent : (HoldTarget.mk .agent agent).IsKey :=
    ⟨required, fun other => (by cases other), fun other => by cases other⟩
  obtain ⟨mandates, read, member⟩ :=
    readSubjectMandates_project sha256 keyed agent
  refine ⟨⟨stateOf history ⟨.host, hostHoldTarget⟩, stateOf history ⟨.agent, agent⟩, mandates⟩,
    ?_, ?_⟩
  · unfold getEffective
    refine bind_eq_ok.mpr ⟨agent, named, ?_⟩
    refine bind_eq_ok.mpr ⟨(), assertHostLatchShape_project keyed, ?_⟩
    refine bind_eq_ok.mpr ⟨mandates, read, ?_⟩
    refine bind_eq_ok.mpr ⟨_, currentLatch_project keyed isKey_host, ?_⟩
    refine bind_eq_ok.mpr ⟨_, currentLatch_project keyed isAgent, ?_⟩
    refine bind_eq_ok.mpr ⟨(), validateLatchProjection_project keyed isKey_host, ?_⟩
    refine bind_eq_ok.mpr ⟨(), validateLatchProjection_project keyed isAgent, ?_⟩
    exact bind_eq_ok.mpr ⟨(), assertGlobalHistoryIntact_storeOf keyed.recorded keys, rfl⟩
  · have mandated : mandates ≠ [] ↔ ∃ holder key, mandateLatchKey agent holder = .ok key ∧
        (stateOf history ⟨.mandate, key⟩).isSome = true := by
      constructor
      · intro some
        obtain ⟨latch, stored⟩ := exists_mem_of_ne_nil _ some
        obtain ⟨⟨scope, key⟩, known, told⟩ := (member latch).mp stored
        obtain ⟨inKeys, mandate, subjected⟩ := (mem_mandateKeys keyed).mp known
        obtain rfl : scope = .mandate := mandate
        obtain ⟨holder, keyedBy⟩ := exists_holder_of_scopeSubject subjected
        exact ⟨holder, key, keyedBy, by rw [told]; rfl⟩
      · rintro ⟨holder, key, keyedBy, active⟩
        obtain ⟨latch, told⟩ := Option.isSome_iff_exists.mp active
        apply ne_nil_of_mem
        refine (member latch).mpr ⟨⟨.mandate, key⟩, (mem_mandateKeys keyed).mpr ⟨?_, rfl, ?_⟩, told⟩
        · by_contra unknown
          rw [stateOf_eq_none_of_notMem keyed unknown] at told
          cases told
        · exact scopeSubject_of_mandateLatchKey required keyedBy
    unfold EffectiveHoldState.held
    rw [Bool.or_eq_true, Bool.or_eq_true, or_assoc, Bool.not_eq_true', ← mandated]
    simp

end Kestrel.Hold
