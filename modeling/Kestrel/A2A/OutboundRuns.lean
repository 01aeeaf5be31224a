import Kestrel.A2A.OutboundLineage
import Kestrel.Base.Counting

/-!
# Runs of the outbound ledger

What holds of the rows after any run of calls, what a longer run keeps of them, and how often a
dispatch is submitted or canceled along it.
-/

namespace Kestrel.A2A

open List Except OutboundRows Bool OutboundStep OutboundDispatch Nat Transition

/-- The rows that a run of calls leaves of an empty table. -/
def outboundLedger (wire : Wire) (steps : List OutboundStep) : OutboundRows :=
  steps.foldl (OutboundStep.apply wire) []

/-- What every call keeps of the table. -/
structure OutboundRows.Sound (rows : OutboundRows) : Prop where
  indexed : rows.Indexed
  receipted : ∀ row ∈ rows, row.Receipted
  lineages : ∀ row ∈ rows, ∃ root, Lineage rows row root

/-- Every row of a table has a successor in a later one. -/
def OutboundRows.Succeeds (before after : OutboundRows) : Prop :=
  ∀ row ∈ before, ∃ later ∈ after, Successor row later

theorem OutboundRows.Succeeds.refl (rows : OutboundRows) : rows.Succeeds rows :=
  fun row stored => ⟨row, stored, .refl row⟩

theorem OutboundRows.Succeeds.trans {first second third : OutboundRows}
    (earlier : first.Succeeds second) (later : second.Succeeds third) : first.Succeeds third := by
  intro row stored
  obtain ⟨middle, stored', advance⟩ := earlier row stored
  obtain ⟨last, stored'', advance'⟩ := later middle stored'
  exact ⟨last, stored'', advance.trans advance'⟩

namespace Effect

variable {wire : Wire} {step : OutboundStep} {rows after : OutboundRows}
  {result : Option OutboundDispatch}

theorem succeeds (effect : Effect wire step rows after result) (sound : rows.Sound) :
    rows.Succeeds after := by
  cases effect with
  | none => exact .refl rows
  | reserved seen call reservation committed called reserves =>
    intro row stored
    exact ⟨row, mem_append_left _ stored, .refl row⟩
  | moved dispatch committed assignment move stored owned indexed read =>
    intro row member
    by_cases same : row = dispatch
    · subst same
      exact ⟨_, updated_mem_replace stored, move.successor (sound.receipted row stored) step.now⟩
    · exact ⟨row, mem_replace_of_ne member same, .refl row⟩

theorem lineage_of_reserves {call : ReserveCall} {reservation : OutboundDispatch}
    (reserves : Reserves wire step rows call reservation) (sound : rows.Sound) :
    ∃ root, Lineage (rows ++ [reservation]) reservation root := by
  have last : reservation ∈ rows ++ [reservation] :=
    mem_append_right _ (mem_singleton.mpr rfl)
  have valid := reserves.valid
  have required := reserves.lineage
  unfold ReserveCall.requireLineage at required
  cases parental : call.parent with
  | none =>
    refine ⟨reservation, .root last ?_ ?_⟩
    all_goals
      rw [reserves.row]
      simp [ReserveCall.reservation, parental]
  | some parent =>
    rw [parental] at required
    have child : reservation.parentDispatchId = some parent.dispatchId := by
      rw [reserves.row]
      simp [ReserveCall.reservation, parental]
    obtain ⟨root, continued, _⟩ := bind_eq_ok.mp required
    obtain ⟨stored, _, route, names, _, task, context, _⟩ :=
      requireContinuation_eq_ok child continued
    obtain ⟨_, _, valid⟩ := bind_eq_ok.mp valid
    obtain ⟨_, _, valid⟩ := bind_eq_ok.mp valid
    obtain ⟨_, _, valid⟩ := bind_eq_ok.mp valid
    obtain ⟨_, valid⟩ := require_bind_eq_ok.mp valid
    obtain ⟨_, valid⟩ := require_bind_eq_ok.mp valid
    obtain ⟨_, valid⟩ := require_bind_eq_ok.mp valid
    have agreed : ∀ parent ∈ call.parent, call.verb ≠ "question" ∧
        parent.remoteTaskId = some call.request.message.taskId ∧
        parent.remoteContextId = some call.request.message.contextId := by
      by_contra refused
      rw [require, if_neg refused] at valid
      cases valid
    obtain ⟨_, named, known⟩ := agreed parent parental
    obtain ⟨root, older⟩ := sound.lineages parent stored
    refine ⟨root, .follow last child route names ?_ task ?_ context
      (older.mono (subset_append_left _ _))⟩
    · rw [← task, named]
      exact Option.some_ne_none _
    · rw [← context, known]
      exact Option.some_ne_none _

theorem sound (effect : Effect wire step rows after result) (sound : rows.Sound) :
    after.Sound := by
  cases effect with
  | none => exact sound
  | reserved seen call reservation committed called reserves =>
    refine ⟨?_, ?_, ?_⟩
    · refine pairwise_append.mpr ⟨sound.indexed, pairwise_singleton _ _, ?_⟩
      intro row stored last single
      rw [mem_singleton.mp single]
      exact reserves.fresh row stored
    · intro row member
      rcases mem_append.mp member with stored | last
      · exact sound.receipted row stored
      · rw [mem_singleton.mp last, reserves.row]
        intro labelled
        exact (labelled rfl).elim
    · intro row member
      rcases mem_append.mp member with stored | last
      · obtain ⟨root, lineage⟩ := sound.lineages row stored
        exact ⟨root, lineage.mono (subset_append_left _ _)⟩
      · rw [mem_singleton.mp last]
        exact lineage_of_reserves reserves sound
  | moved dispatch committed assignment move stored owned indexed read =>
    refine ⟨indexed, ?_, ?_⟩
    · intro row member
      rcases mem_replace member with ⟨old, _⟩ | rfl
      · exact sound.receipted row old
      · exact move.receipted (sound.receipted dispatch stored) step.now
    · intro row member
      obtain ⟨before, old, rfl⟩ := mem_map.mp member
      obtain ⟨root, lineage⟩ := sound.lineages before old
      exact ⟨_, lineage.replace (move.successor (sound.receipted dispatch stored) step.now)⟩

end Effect

namespace OutboundStep

variable (wire : Wire) (step : OutboundStep) (rows : OutboundRows)

theorem apply_cases : (∃ result, step.perform wire rows = .ok (step.apply wire rows, result) ∧
      Effect wire step rows (step.apply wire rows) result) ∨
    ((∃ error, step.perform wire rows = .error error) ∧ step.apply wire rows = rows) := by
  unfold apply
  cases performed : step.perform wire rows with
  | error error => exact .inr ⟨⟨error, rfl⟩, rfl⟩
  | ok pair => exact .inl ⟨pair.2, rfl, effect performed⟩

theorem sound_apply (sound : rows.Sound) : Sound (step.apply wire rows) := by
  rcases step.apply_cases wire rows with ⟨_, _, effect⟩ | ⟨_, same⟩
  · exact effect.sound sound
  · rw [same]
    exact sound

theorem succeeds_apply (sound : rows.Sound) : rows.Succeeds (step.apply wire rows) := by
  rcases step.apply_cases wire rows with ⟨_, _, effect⟩ | ⟨_, same⟩
  · exact effect.succeeds sound
  · rw [same]
    exact .refl rows

end OutboundStep

theorem OutboundRows.Sound.foldl {wire : Wire} {rows : OutboundRows} (sound : rows.Sound)
    (steps : List OutboundStep) :
    Sound (steps.foldl (apply wire) rows) := by
  induction steps generalizing rows with
  | nil => exact sound
  | cons step steps ih => exact ih (step.sound_apply wire rows sound)

theorem outboundLedger_sound (wire : Wire) (steps : List OutboundStep) :
    Sound (outboundLedger wire steps) := by
  apply Sound.foldl
  refine ⟨Pairwise.nil, ?_, ?_⟩
  all_goals
    intro row impossible
    cases impossible

theorem outboundLedger_succeeds (wire : Wire) (steps later : List OutboundStep) :
    (outboundLedger wire steps).Succeeds (outboundLedger wire (steps ++ later)) := by
  unfold outboundLedger
  rw [foldl_append]
  have continued : ∀ rows : OutboundRows, rows.Sound →
      rows.Succeeds (later.foldl (apply wire) rows) := by
    induction later with
    | nil => exact fun rows _ => .refl rows
    | cons step later ih =>
      intro rows sound
      exact (step.succeeds_apply wire rows sound).trans (ih _ (step.sound_apply wire rows sound))
  exact continued _ (outboundLedger_sound wire steps)

/-! ## Rows of one dispatch -/

namespace OutboundRows.Sound

variable {rows : OutboundRows}

theorem eq_of_key (sound : rows.Sound) {first second : OutboundDispatch} (member : first ∈ rows)
    (member' : second ∈ rows) (same : first.key = second.key) : first = second :=
  sound.indexed.eq_of_conflicts member member'
    ⟨congrArg Prod.fst same, .inl (congrArg Prod.snd same)⟩

end OutboundRows.Sound

theorem OutboundDispatch.key_eq_of_binding {first second : OutboundDispatch}
    (same : first.binding = second.binding) : first.key = second.key :=
  Prod.ext (congrArg Binding.sender same) (congrArg Binding.dispatchId same)

variable {rows : OutboundRows} {dispatch : OutboundDispatch} {key : NativeRecipientScope × String}

variable {assignment : Assignment} {updated : OutboundDispatch}

theorem committed_eq {scope : NativeRecipientScope} {now : String} {committed : OutboundDispatch}
    (stored : dispatch ∈ rows) (owned : dispatch.sender = scope)
    (indexed : Indexed (rows.replace dispatch (assignment.apply now dispatch)))
    (read : get (rows.replace dispatch (assignment.apply now dispatch)) scope
      dispatch.dispatchId = some committed) : committed = assignment.apply now dispatch := by
  obtain ⟨member, sender, named⟩ := mem_of_get read
  have kept := assignment.apply_binding now dispatch
  apply indexed.eq_of_conflicts member (updated_mem_replace stored)
  refine ⟨?_, .inl ?_⟩
  · exact sender.trans (owned.symm.trans (congrArg Binding.sender kept).symm)
  · exact named.trans (congrArg Binding.dispatchId kept).symm

/-! ## Submissions -/

def OutboundRows.isSubmitting (rows : OutboundRows) (key : NativeRecipientScope × String) : Bool :=
  rows.any fun row => row.key = key ∧ row.state = .submitting

/-- The dispatch of a key was submitted or given up. -/
def OutboundRows.hasStarted (rows : OutboundRows) (key : NativeRecipientScope × String) : Bool :=
  rows.any fun row => row.key = key ∧ row.state ≠ .reserved

/-- A call after which the dispatch is being submitted, and was not before. -/
def OutboundStep.submits (wire : Wire) (key : NativeRecipientScope × String) (rows : OutboundRows)
    (step : OutboundStep) : Bool :=
  !rows.isSubmitting key && OutboundRows.isSubmitting (step.apply wire rows) key

theorem OutboundRows.hasStarted_eq_true :
    rows.hasStarted key = true ↔ ∃ row ∈ rows, row.key = key ∧ row.state ≠ .reserved := by
  unfold hasStarted
  simp only [any_eq_true, decide_eq_true_eq]

theorem OutboundRows.isSubmitting_eq_true :
    rows.isSubmitting key = true ↔ ∃ row ∈ rows, row.key = key ∧ row.state = .submitting := by
  unfold isSubmitting
  simp only [any_eq_true, decide_eq_true_eq]

theorem OutboundStep.submits_paid (wire : Wire) (key : NativeRecipientScope × String)
    (step : OutboundStep) (sound : rows.Sound) :
    (step.submits wire key rows).toNat + (rows.hasStarted key).toNat ≤
      (hasStarted (step.apply wire rows) key).toNat := by
  have after := step.sound_apply wire rows sound
  by_cases started : rows.hasStarted key = true
  · obtain ⟨row, stored, named, begun⟩ := hasStarted_eq_true.mp started
    obtain ⟨later, stored', successor⟩ := step.succeeds_apply wire rows sound row stored
    have named' : later.key = key :=
      (key_eq_of_binding successor.binding).trans named
    have still : hasStarted (step.apply wire rows) key = true :=
      hasStarted_eq_true.mpr ⟨later, stored', named', (successor.released begun).1⟩
    have once : step.submits wire key rows = false := by
      rw [eq_false_iff]
      intro submits
      obtain ⟨idle, submitting⟩ := (and_eq_true _ _).mp submits
      obtain ⟨other, member, same, entered⟩ := isSubmitting_eq_true.mp submitting
      have found : other = later := after.eq_of_key member stored' (same.trans named'.symm)
      subst found
      have before : rows.isSubmitting key = true :=
        isSubmitting_eq_true.mpr ⟨row, stored, named, (successor.released begun).2 entered⟩
      rw [before] at idle
      cases idle
    rw [once, started, still]
    decide
  · rw [eq_false_iff.mpr started]
    by_cases submits : step.submits wire key rows = true
    · obtain ⟨_, submitting⟩ := (and_eq_true _ _).mp submits
      obtain ⟨other, member, same, entered⟩ := isSubmitting_eq_true.mp submitting
      have still : hasStarted (step.apply wire rows) key = true :=
        hasStarted_eq_true.mpr ⟨other, member, same, by simp [entered]⟩
      rw [submits, still]
      decide
    · rw [eq_false_iff.mpr submits]
      exact zero_le _

theorem submissions_le_one (wire : Wire) (key : NativeRecipientScope × String)
    (steps : List OutboundStep) :
    countAlong (apply wire) (submits wire key) [] steps ≤
      1 := by
  have empty : Sound [] := outboundLedger_sound wire []
  have paid := @countAlong_add_le _ _ (apply wire) Sound
    (submits wire key) (fun _ _ => false)
    (fun rows => (rows.hasStarted key).toNat)
    (fun rows step sound => step.sound_apply wire rows sound)
    (fun rows step sound => by
      rw [toNat_false, zero_add]
      exact step.submits_paid wire key sound)
    [] empty steps
  rw [countAlong_never] at paid
  have small := toNat_le (hasStarted (steps.foldl (apply wire) []) key)
  omega

/-! ## Cancellations -/

def OutboundStep.cancels (wire : Wire) (key : NativeRecipientScope × String) (rows : OutboundRows)
    (step : OutboundStep) : Bool :=
  match step.call, step.perform wire rows with
  | .beginCancellation dispatch _, .ok (_, some _) => dispatch.key = key
  | _, _ => false

/-- A committed proof that the cancellation of the dispatch of a key was never sent. -/
def OutboundStep.withdraws (wire : Wire) (key : NativeRecipientScope × String)
    (rows : OutboundRows) (step : OutboundStep) : Bool :=
  match step.call, step.perform wire rows with
  | .retainCancellationFailure dispatch false, .ok (_, some _) => dispatch.key = key
  | _, _ => false

def OutboundRows.isCanceling (rows : OutboundRows) (key : NativeRecipientScope × String) : Bool :=
  rows.any fun row => row.key = key ∧ ¬ row.uncanceled

theorem OutboundRows.isCanceling_eq_true :
    rows.isCanceling key = true ↔ ∃ row ∈ rows, row.key = key ∧ ¬ row.uncanceled := by
  unfold isCanceling
  simp only [any_eq_true, decide_eq_true_eq]

theorem OutboundRows.isCanceling_replace_of_ne (distinct : dispatch.key ≠ key)
    (canceling : rows.isCanceling key = true) :
    isCanceling (rows.replace dispatch updated) key = true := by
  obtain ⟨row, stored, named, sent⟩ := isCanceling_eq_true.mp canceling
  refine isCanceling_eq_true.mpr ⟨row, mem_replace_of_ne stored ?_, named, sent⟩
  intro same
  exact distinct (same ▸ named)

theorem OutboundRows.isCanceling_replace_self (stored : dispatch ∈ rows)
    (same : updated.key = dispatch.key) (sent : ¬ updated.uncanceled) :
    isCanceling (rows.replace dispatch updated) dispatch.key = true :=
  isCanceling_eq_true.mpr ⟨updated, updated_mem_replace stored, same, sent⟩

theorem OutboundRows.Sound.isCanceling_of_mem (sound : rows.Sound) (stored : dispatch ∈ rows) :
    rows.isCanceling dispatch.key = true ↔ ¬ dispatch.uncanceled := by
  rw [isCanceling_eq_true]
  constructor
  · intro found
    obtain ⟨row, member, same, sent⟩ := found
    rw [← sound.eq_of_key member stored same]
    exact sent
  · intro sent
    exact ⟨dispatch, stored, rfl, sent⟩

theorem Move.cancellation_cases {call : OutboundCall} (move : Move dispatch call assignment)
    (now : String) :
    ((∃ request, call = .beginCancellation dispatch request) ∧ dispatch.uncanceled ∧
        ¬ (assignment.apply now dispatch).uncanceled) ∨
      call = .retainCancellationFailure dispatch false ∨
      ((∀ snapshot request, call ≠ .beginCancellation snapshot request) ∧
        (∀ snapshot, call ≠ .retainCancellationFailure snapshot false) ∧
        (¬ dispatch.uncanceled → ¬ (assignment.apply now dispatch).uncanceled)) := by
  have canceled := assignment.apply_cancelState now dispatch
  unfold uncanceled
  rw [canceled]
  cases move with
  | cancellation operationId digest request source free =>
    exact .inl ⟨⟨request, rfl⟩, free, by simp⟩
  | cancellationFailure operationId cancelOperation digest mayHaveSent source inFlight =>
    cases mayHaveSent with
    | false => exact .inr (.inl rfl)
    | true => exact .inr (.inr ⟨by simp, by simp, by simp⟩)
  | receipt operationId call complete receipt calls source acceptable =>
    refine .inr (.inr ⟨?_, ?_, ?_⟩)
    · rcases calls with ⟨_, rfl⟩ | ⟨_, rfl⟩ <;> simp
    · rcases calls with ⟨_, rfl⟩ | ⟨_, rfl⟩ <;> simp
    · intro sent
      cases complete with
      | false => simpa using sent
      | true =>
        cases ended : dispatch.endedCancellation with
        | none => simpa [ended] using sent
        | some cancellation =>
          have final : cancellation.state = .complete := by
            unfold endedCancellation at ended
            split at ended
            · split_ifs at ended
              cases ended
              rfl
            · cases ended
          simp [final]
  | _ => exact .inr (.inr ⟨by simp, by simp, by simp⟩)

namespace OutboundStep

variable {wire : Wire} {key : NativeRecipientScope × String} {rows : OutboundRows}
  {step : OutboundStep}

theorem cancels_eq_true (canceled : step.cancels wire key rows = true) :
    ∃ dispatch request after committed, step.call = .beginCancellation dispatch request ∧
      step.perform wire rows = .ok (after, some committed) ∧ dispatch.key = key := by
  unfold cancels at canceled
  split at canceled
  next dispatch request after committed called performed =>
    exact ⟨dispatch, request, after, committed, called, performed, of_decide_eq_true canceled⟩
  next => cases canceled

theorem withdraws_of_committed {dispatch : OutboundDispatch} {after : OutboundRows}
    {committed : OutboundDispatch} (called : step.call = .retainCancellationFailure dispatch false)
    (performed : step.perform wire rows = .ok (after, some committed)) :
    step.withdraws wire dispatch.key rows = true := by
  unfold withdraws
  rw [called, performed]
  exact decide_eq_true rfl

/-- A cancellation is only begun where the last one is known never to have been sent. -/
theorem cancels_paid (wire : Wire) (key : NativeRecipientScope × String) (step : OutboundStep)
    (sound : rows.Sound) :
    (step.cancels wire key rows).toNat + (rows.isCanceling key).toNat ≤
      (step.withdraws wire key rows).toNat +
        (isCanceling (step.apply wire rows) key).toNat := by
  have small := toNat_le (rows.isCanceling key)
  rcases step.apply_cases wire rows with ⟨result, performed, effect⟩ | ⟨⟨error, refused⟩, same⟩
  swap
  · have idle : step.cancels wire key rows = false := by
      rw [eq_false_iff]
      intro canceled
      obtain ⟨_, _, _, _, _, performed, _⟩ := cancels_eq_true canceled
      rw [refused] at performed
      cases performed
    rw [same, idle, toNat_false, zero_add]
    exact le_add_left _ _
  generalize reached : step.apply wire rows = after at effect performed
  have idle_of : (∀ snapshot request, step.call ≠ .beginCancellation snapshot request) →
      step.cancels wire key rows = false := by
    intro other
    rw [eq_false_iff]
    intro canceled
    obtain ⟨snapshot, request, _, _, called, _⟩ := cancels_eq_true canceled
    exact other snapshot request called
  cases effect with
  | none =>
    have idle : step.cancels wire key rows = false := by
      rw [eq_false_iff]
      intro canceled
      obtain ⟨_, _, _, _, _, committed, _⟩ := cancels_eq_true canceled
      rw [performed] at committed
      cases committed
    rw [idle, toNat_false, zero_add]
    exact le_add_left _ _
  | reserved seen call reservation committed called reserves =>
    rw [idle_of (by rw [called]; simp), toNat_false, zero_add]
    have grown : (rows.isCanceling key).toNat ≤
        (isCanceling (rows ++ [reservation]) key).toNat := by
      unfold isCanceling
      rw [any_append]
      cases rows.any fun row => decide (row.key = key ∧ ¬ row.uncanceled) <;> simp
    omega
  | moved dispatch committed assignment move stored owned indexed read =>
    have renamed := key_eq_of_binding (assignment.apply_binding step.now dispatch)
    by_cases named : dispatch.key = key
    · subst named
      have after := isCanceling_replace_self stored renamed
      have before := sound.isCanceling_of_mem stored
      rcases move.cancellation_cases step.now with
        ⟨_, free, sent⟩ | withdrawn | ⟨other, _, kept⟩
      · have idle : rows.isCanceling dispatch.key = false := by
          rw [eq_false_iff, Ne, before]
          exact not_not.mpr free
        rw [idle, after sent]
        have once := toNat_le (step.cancels wire dispatch.key rows)
        simp only [toNat_false, toNat_true]
        omega
      · rw [withdraws_of_committed withdrawn performed, idle_of (by rw [withdrawn]; simp)]
        simp only [toNat_false, toNat_true]
        omega
      · rw [idle_of other, toNat_false, zero_add]
        by_cases canceling : rows.isCanceling dispatch.key = true
        · rw [canceling, after (kept (before.mp canceling))]
          exact le_add_left _ _
        · rw [eq_false_iff.mpr canceling]
          exact zero_le _
    · have idle : step.cancels wire key rows = false := by
        rw [eq_false_iff]
        intro canceled
        obtain ⟨snapshot, request, _, _, called, _, same⟩ := cancels_eq_true canceled
        rw [called] at move
        cases move with
        | cancellation => exact named same
        | receipt operationId call complete receipt calls =>
          rcases calls with ⟨_, impossible⟩ | ⟨_, impossible⟩ <;> cases impossible
      rw [idle, toNat_false, zero_add]
      by_cases canceling : rows.isCanceling key = true
      · rw [canceling, isCanceling_replace_of_ne named canceling]
        exact le_add_left _ _
      · rw [eq_false_iff.mpr canceling]
        exact zero_le _

end OutboundStep

theorem cancellations_le (wire : Wire) (key : NativeRecipientScope × String)
    (steps : List OutboundStep) :
    countAlong (apply wire) (cancels wire key) [] steps ≤
      countAlong (apply wire) (withdraws wire key) [] steps +
        1 := by
  have empty : Sound [] := outboundLedger_sound wire []
  have paid := @countAlong_add_le _ _ (apply wire) Sound
    (cancels wire key) (withdraws wire key)
    (fun rows => (rows.isCanceling key).toNat)
    (fun rows step sound => step.sound_apply wire rows sound)
    (fun rows step sound => step.cancels_paid wire key sound) [] empty steps
  have small := toNat_le (isCanceling (steps.foldl (apply wire) []) key)
  omega

end Kestrel.A2A
