import Kestrel.Base.Except
import Kestrel.Base.Json
import Kestrel.Base.Text

/-!
# Hold latches and their keys

A host or agent latch is set by the sovereign. A mandate latch is set by one ancestor on one of its
descendants and is keyed by the pair.
-/

namespace Kestrel.Hold

open Except Json Text

inductive HoldScope where
  | host
  | agent
  | mandate
  deriving DecidableEq, Repr

inductive HoldAction where
  | hold
  | release
  deriving DecidableEq, Repr

inductive HoldDisposition where
  | applied
  | alreadyInState
  | refusedStale
  deriving DecidableEq, Repr

/-- The authority under which a receipt's actor acted. -/
inductive HoldAuthority where
  | sovereign
  | mandate
  deriving DecidableEq, Repr

inductive HoldError where
  | corrupt (message : String)
  | idempotencyConflict (message : String)
  | authorityMismatch (message : String)
  | value (message : String)
  | database (message : String)
  deriving DecidableEq, Repr

namespace HoldScope

def value : HoldScope → String
  | .host => "host"
  | .agent => "agent"
  | .mandate => "mandate"

def ofValue (text : String) : Option HoldScope :=
  if text = "host" then some .host
  else if text = "agent" then some .agent
  else if text = "mandate" then some .mandate
  else none

@[simp] theorem ofValue_value (scope : HoldScope) : ofValue scope.value = some scope := by
  cases scope <;> rfl

theorem value_injective {first second : HoldScope} (same : first.value = second.value) :
    first = second := by
  have read := congrArg ofValue same
  rw [ofValue_value, ofValue_value] at read
  exact Option.some.inj read

end HoldScope

namespace HoldAction

def value : HoldAction → String
  | .hold => "hold"
  | .release => "release"

def ofValue (text : String) : Option HoldAction :=
  if text = "hold" then some .hold else if text = "release" then some .release else none

@[simp] theorem ofValue_value (action : HoldAction) : ofValue action.value = some action := by
  cases action <;> rfl

end HoldAction

namespace HoldDisposition

def value : HoldDisposition → String
  | .applied => "applied"
  | .alreadyInState => "already_in_state"
  | .refusedStale => "refused_stale"

def ofValue (text : String) : Option HoldDisposition :=
  if text = "applied" then some .applied
  else if text = "already_in_state" then some .alreadyInState
  else if text = "refused_stale" then some .refusedStale
  else none

@[simp] theorem ofValue_value (disposition : HoldDisposition) :
    ofValue disposition.value = some disposition := by
  cases disposition <;> rfl

end HoldDisposition

namespace HoldAuthority

def value : HoldAuthority → String
  | .sovereign => "sovereign"
  | .mandate => "mandate"

def ofValue (text : String) : Option HoldAuthority :=
  if text = "sovereign" then some .sovereign
  else if text = "mandate" then some .mandate
  else none

@[simp] theorem ofValue_value (authority : HoldAuthority) :
    ofValue authority.value = some authority := by
  cases authority <;> rfl

end HoldAuthority

def hostHoldTarget : String := "host"

def requiredText (value field : String) : Except HoldError String :=
  if Text.isBlank value then .error (.value (field ++ " must be a non-empty string"))
  else .ok (Text.strip value)

def mandateLatchKey (targetId holderId : String) : Except HoldError String := do
  let target ← requiredText targetId "target_id"
  let holder ← requiredText holderId "holder_id"
  Except.require (target ≠ holder) (.value "a mandate Hold cannot target its own holder")
  .ok (Json.encodePair target holder)

def mandateKeyPrefix (targetId : String) : String := Json.pairPrefix targetId

/-- `parse_mandate_latch_key`. Only a canonical key passes, which a list of two texts without
spaces is read for. -/
def parseMandateLatchKey (key : String) : Except HoldError (String × String) :=
  match Json.readPair key with
  | none => .error (.value "mandate Hold key is not canonical")
  | some (target, holder) => do
    let canonical ← mandateLatchKey target holder
    Except.require (canonical = key) (.value "mandate Hold key is not canonical")
    .ok (target, holder)

def scopeSubject (scope : HoldScope) (targetId : String) : Except HoldError String :=
  match scope with
  | .mandate => (parseMandateLatchKey targetId).map Prod.fst
  | _ => .ok targetId

def validateDoorAuthority (action : HoldAction) (scope : HoldScope) (targetId actorId : String)
    (authority : HoldAuthority) : Except HoldError Unit :=
  match scope with
  | .mandate => do
    let (_, holder) ← parseMandateLatchKey targetId
    if authority = .mandate then
      Except.require (actorId = holder)
        (.authorityMismatch "a mandate Hold is mutable only by its own holder")
    else
      Except.require (action ≠ .hold)
        (.authorityMismatch "a mandate Hold is set only by a verified ancestor")
  | _ => Except.require (authority = .sovereign)
      (.authorityMismatch "only the sovereign may mutate a host or agent Hold")

/-- `_target`: the latch key that a caller's identities name. -/
def target (scope : HoldScope) (targetId holderId : Option String) : Except HoldError String :=
  match scope, holderId with
  | .mandate, none => .error (.value "a mandate Hold names its holder")
  | .mandate, some holder => do
    let subject ← requiredText (targetId.getD "") "target_id"
    let holder ← requiredText holder "holder_id"
    mandateLatchKey subject holder
  | _, some _ => .error (.value "only a mandate Hold has a holder")
  | .host, none => do
    Except.require (targetId.getD "" = "" ∨ targetId = some hostHoldTarget)
      (.value "host Hold target is fixed by the host control store")
    .ok hostHoldTarget
  | .agent, none => requiredText (targetId.getD "") "target_id"

def assertScopeKey (scope : HoldScope) (targetId label : String) : Except HoldError Unit :=
  match scope with
  | .host => Except.require (targetId = hostHoldTarget)
      (.corrupt (label ++ " has a foreign host identity"))
  | .agent => .ok ()
  | .mandate => (parseMandateLatchKey targetId).toOption.elim
      (.error (.corrupt (label ++ " has an invalid mandate identity"))) fun _ => .ok ()

/-- A latch key with its scope. -/
structure HoldTarget where
  scope : HoldScope
  targetId : String
  deriving DecidableEq, Repr

/-- One active latch. -/
structure HoldState where
  scope : HoldScope
  targetId : String
  reason : String
  actorId : String
  setAt : String
  holdReceiptId : String
  revision : ℤ
  deriving DecidableEq, Repr

structure HoldReceipt where
  receiptId : String
  operationId : String
  action : HoldAction
  disposition : HoldDisposition
  scope : HoldScope
  targetId : String
  reason : String
  actorId : String
  occurredAt : String
  expectedHoldReceiptId : String
  priorHoldReceiptId : String
  resultingHoldReceiptId : String
  authority : HoldAuthority
  deriving DecidableEq, Repr

def HoldReceipt.target (receipt : HoldReceipt) : HoldTarget := ⟨receipt.scope, receipt.targetId⟩

structure HoldMutation where
  receipt : HoldReceipt
  current : Option HoldState
  deriving DecidableEq, Repr

/-- The latches that apply to one agent. -/
structure EffectiveHoldState where
  host : Option HoldState
  agent : Option HoldState
  mandates : List HoldState
  deriving DecidableEq, Repr

def EffectiveHoldState.held (effective : EffectiveHoldState) : Bool :=
  effective.host.isSome || effective.agent.isSome || !effective.mandates.isEmpty

/-! ## Keys -/

/-- A text that `_required_text` gives back. -/
def IsRequired (text : String) : Prop := Text.isBlank text = false ∧ Text.strip text = text

theorem requiredText_eq_ok {value field text : String} (required : requiredText value field = .ok text) :
    IsRequired text ∧ text = strip value := by
  unfold requiredText at required
  split_ifs at required with blank
  cases required
  refine ⟨⟨?_, strip_idem value⟩, rfl⟩
  rw [isBlank_strip]
  simpa using blank

theorem requiredText_of_isRequired {text : String} (required : IsRequired text) (field : String) :
    requiredText text field = .ok text := by
  unfold requiredText
  rw [required.1, if_neg Bool.false_ne_true, required.2]

theorem mandateLatchKey_eq_ok {targetId holderId key : String}
    (keyed : mandateLatchKey targetId holderId = .ok key) :
    ∃ target holder, IsRequired target ∧ IsRequired holder ∧ target ≠ holder ∧
      target = strip targetId ∧ holder = strip holderId ∧
      key = encodePair target holder := by
  unfold mandateLatchKey at keyed
  obtain ⟨target, known, keyed⟩ := bind_eq_ok.mp keyed
  obtain ⟨holder, known', keyed⟩ := bind_eq_ok.mp keyed
  obtain ⟨distinct, keyed⟩ := require_bind_eq_ok.mp keyed
  cases keyed
  obtain ⟨required, rfl⟩ := requiredText_eq_ok known
  obtain ⟨required', rfl⟩ := requiredText_eq_ok known'
  exact ⟨_, _, required, required', distinct, rfl, rfl, rfl⟩

theorem mandateLatchKey_of_isRequired {target holder : String} (required : IsRequired target)
    (required' : IsRequired holder) (distinct : target ≠ holder) :
    mandateLatchKey target holder = .ok (encodePair target holder) := by
  unfold mandateLatchKey
  rw [requiredText_of_isRequired required, requiredText_of_isRequired required']
  exact require_bind_eq_ok.mpr ⟨distinct, rfl⟩

theorem parseMandateLatchKey_eq_ok {key target holder : String} :
    parseMandateLatchKey key = .ok (target, holder) ↔ IsRequired target ∧ IsRequired holder ∧
      target ≠ holder ∧ key = encodePair target holder := by
  constructor
  · intro parsed
    unfold parseMandateLatchKey at parsed
    cases read : readPair key with
    | none =>
      simp only [read] at parsed
      cases parsed
    | some pair =>
      simp only [read] at parsed
      obtain ⟨canonical, keyed, parsed⟩ := bind_eq_ok.mp parsed
      obtain ⟨rfl, same⟩ := require_bind_eq_ok.mp parsed
      obtain ⟨rfl, rfl⟩ := Prod.mk.inj (ok.inj same)
      obtain ⟨subject, owner, required, required', distinct, _, _, rfl⟩ :=
        mandateLatchKey_eq_ok keyed
      rw [readPair_encodePair] at read
      cases read
      exact ⟨required, required', distinct, rfl⟩
  · rintro ⟨required, required', distinct, rfl⟩
    unfold parseMandateLatchKey
    rw [readPair_encodePair]
    simp only [mandateLatchKey_of_isRequired required required' distinct]
    exact require_bind_eq_ok.mpr ⟨rfl, rfl⟩

theorem isRequired_encodePair (first second : String) : IsRequired (encodePair first second) := by
  have text : (encodePair first second).toList =
      '[' :: (encodeText first ++ ',' :: encodeText second ++ [']']) := by
    unfold encodePair
    rw [String.toList_ofList]
    rfl
  refine ⟨?_, strip_eq_self ?_ ?_⟩
  · unfold isBlank
    rw [text]
    rfl
  · intro letter found
    rw [text] at found
    cases found
    rfl
  · intro letter found
    rw [text, ← List.cons_append, List.getLast?_concat] at found
    cases found
    rfl

/-- A key that its scope can interpret. -/
def HoldTarget.IsKey (target : HoldTarget) : Prop :=
  IsRequired target.targetId ∧ (target.scope = .host → target.targetId = hostHoldTarget) ∧
    (target.scope = .mandate → ∃ pair, parseMandateLatchKey target.targetId = .ok pair)

theorem target_eq_ok {scope : HoldScope} {targetId holderId : Option String} {key : String}
    (resolved : target scope targetId holderId = .ok key) : (HoldTarget.mk scope key).IsKey := by
  unfold target at resolved
  split at resolved
  · cases resolved
  · obtain ⟨subject, known, resolved⟩ := bind_eq_ok.mp resolved
    obtain ⟨holder, known', resolved⟩ := bind_eq_ok.mp resolved
    obtain ⟨first, second, required, required', distinct, _, _, rfl⟩ :=
      mandateLatchKey_eq_ok resolved
    exact ⟨isRequired_encodePair _ _, fun other => (by cases other), fun _ =>
      ⟨_, parseMandateLatchKey_eq_ok.mpr ⟨required, required', distinct, rfl⟩⟩⟩
  · cases resolved
  · obtain ⟨_, resolved⟩ := require_bind_eq_ok.mp resolved
    cases resolved
    exact ⟨⟨by decide +kernel, by decide +kernel⟩, fun _ => rfl, fun other => by cases other⟩
  · exact ⟨(requiredText_eq_ok resolved).1, fun other => (by cases other),
      fun other => by cases other⟩

theorem assertScopeKey_of_isKey {target : HoldTarget} (isKey : target.IsKey) (label : String) :
    assertScopeKey target.scope target.targetId label = .ok () := by
  obtain ⟨_, host, mandate⟩ := isKey
  unfold assertScopeKey
  cases scope : target.scope with
  | host => exact if_pos (host scope)
  | agent => rfl
  | mandate =>
    obtain ⟨pair, parsed⟩ := mandate scope
    simp only [parsed]
    rfl

end Kestrel.Hold
