import Mathlib.Data.Fintype.Basic
import Mathlib.Data.Finset.Insert
import Kestrel.Base.Run
import Kestrel.Base.SlackLedger

/-!
# The elastic token budget

The budget of one model call: adaptive percentages per section, a mandatory system floor,
an external reservation for payload outside the sections, and a pool that finalized
sections release their slack into. Percentages are hundredths, read exactly.
-/

namespace Kestrel.TokenBudget

/-- The sections of the default allocation, in its order. -/
inductive Source where
  | system
  | history
  | episodes
  | memories
  | rag
  deriving DecidableEq, Repr

namespace Source

instance : Fintype Source where
  elems := {.system, .history, .episodes, .memories, .rag}
  complete := by
    intro source
    cases source <;> decide

/-- The key of a section in the allocation dictionary. -/
def name : Source → String
  | .system => "system"
  | .history => "history"
  | .episodes => "episodes"
  | .memories => "memories"
  | .rag => "rag"

def ofName? (key : String) : Option Source :=
  if key = "system" then some .system
  else if key = "history" then some .history
  else if key = "episodes" then some .episodes
  else if key = "memories" then some .memories
  else if key = "rag" then some .rag
  else none

end Source

def RESPONSE_RESERVE : Int := 1024

def DEFAULT_ALLOCATION : Source → Int
  | .system => 15
  | .history => 40
  | .episodes => 20
  | .memories => 10
  | .rag => 15

def DEFAULT_ELASTIC_PRIORITY : List Source := [.history, .episodes, .memories, .rag]

structure TokenAllocation where
  budget : Int
  used : Int
  items : Int
  deriving DecidableEq, Repr

def TokenAllocation.remaining (allocation : TokenAllocation) : Int :=
  max 0 (allocation.budget - allocation.used)

/-- What a degraded-mode error reports beyond the floor, the budget and the model. -/
inductive DegradedDetail where
  | floorExceedsBudget
  | stillShort (shortfall : Int)
  | floorPlusReserve (totalReserved : Int)
  | remainsShort (reduction : Int)
  deriving DecidableEq, Repr

def DegradedDetail.text : DegradedDetail → String
  | .floorExceedsBudget => "mandatory floor exceeds the entire post-reserve budget"
  | .stillShort shortfall =>
    "after trimming elastic sections, " ++ toString shortfall ++
      " tokens still short of the mandatory floor"
  | .floorPlusReserve totalReserved =>
    "mandatory floor plus external payload reserve (" ++ toString totalReserved ++
      " tokens) exceeds the post-response budget"
  | .remainsShort reduction =>
    "external payload reservation remains " ++ toString reduction ++ " tokens short"

/-- The exceptions the budget raises. -/
inductive BudgetError where
  | valueError (message : String)
  | runtimeError (message : String)
  | degradedMode (mandatorySystemTokens totalBudget : Int) (model : String)
      (detail : DegradedDetail)
  deriving DecidableEq, Repr

def adaptivePercentages (messageCount : Int) : Source → Int :=
  if messageCount < 10 then
    fun
      | .system => 15
      | .history => 60
      | .episodes => 5
      | .memories => 5
      | .rag => 15
  else if messageCount < 30 then DEFAULT_ALLOCATION
  else
    fun
      | .system => 15
      | .history => 25
      | .episodes => 35
      | .memories => 10
      | .rag => 15

/-- The allocations before the mandatory floor is applied. -/
def adaptiveAllocations (available messageCount : Int) (source : Source) : TokenAllocation :=
  ⟨(available * adaptivePercentages messageCount source).tdiv 100, 0, 0⟩

/-- Dedupe a caller's priority and drop what may not be trimmed or is unknown. -/
def cleanPriority : List String → List Source → List Source
  | [], seen => seen
  | key :: rest, seen =>
    match Source.ofName? key with
    | none => cleanPriority rest seen
    | some .system => cleanPriority rest seen
    | some source =>
      if source ∈ seen then cleanPriority rest seen
      else cleanPriority rest (seen ++ [source])

def extendPriority : List Source → List Source → List Source
  | [], cleaned => cleaned
  | source :: rest, cleaned =>
    if source ∈ cleaned then extendPriority rest cleaned
    else extendPriority rest (cleaned ++ [source])

def elasticPriority (demandPriority : Option (List String)) : List Source :=
  let raw :=
    match demandPriority with
    | some (first :: rest) => first :: rest
    | _ => DEFAULT_ELASTIC_PRIORITY.map Source.name
  extendPriority DEFAULT_ELASTIC_PRIORITY (cleanPriority raw [])

/-- Take an amount out of the budgets of the sources in order, as far as they have it.
Returns what could not be taken. -/
def trimSources : List Source → Int → (Source → TokenAllocation) →
    Int × (Source → TokenAllocation)
  | [], amount, allocations => (amount, allocations)
  | source :: rest, amount, allocations =>
    if amount ≤ 0 then (amount, allocations)
    else
      let give := min amount (allocations source).budget
      trimSources rest (amount - give)
        (Function.update allocations source
          { allocations source with budget := (allocations source).budget - give })

structure ElasticTokenBudget where
  model : String
  contextLimit : Int
  responseReserve : Int
  messageCount : Int
  mandatorySystemTokens : Int
  externalReservedTokens : Int
  elasticPool : Int
  finalized : Finset Source
  priority : List Source
  allocations : Source → TokenAllocation

namespace ElasticTokenBudget

/-- Total available budget, excluding the response reserve. -/
def totalBudget (budget : ElasticTokenBudget) : Int :=
  budget.contextLimit - budget.responseReserve

def totalUsed (budget : ElasticTokenBudget) : Int :=
  ∑ source, (budget.allocations source).used

/-- Raise the system slice to the mandatory floor, trimming the elastic sections for it. -/
def computeAllocations (model : String) (available messageCount mandatorySystemTokens : Int)
    (priority : List Source) : Except BudgetError (Source → TokenAllocation) :=
  let allocations := adaptiveAllocations available messageCount
  if mandatorySystemTokens > available then
    .error (.degradedMode mandatorySystemTokens available model .floorExceedsBudget)
  else if mandatorySystemTokens > (allocations .system).budget then
    let trimmed := trimSources priority.reverse
      (mandatorySystemTokens - (allocations .system).budget) allocations
    if trimmed.1 > 0 then
      .error (.degradedMode mandatorySystemTokens available model (.stillShort trimmed.1))
    else
      .ok (Function.update trimmed.2 .system
        { trimmed.2 .system with budget := mandatorySystemTokens })
  else .ok allocations

def create (model : String) (contextLimit messageCount mandatorySystemTokens : Int)
    (demandPriority : Option (List String)) : Except BudgetError ElasticTokenBudget :=
  if mandatorySystemTokens < 0 then
    .error (.valueError "mandatory_system_tokens must be non-negative")
  else
    match computeAllocations model (contextLimit - RESPONSE_RESERVE) messageCount
      mandatorySystemTokens (elasticPriority demandPriority) with
    | .error error => .error error
    | .ok allocations => .ok
        { model, contextLimit, messageCount, mandatorySystemTokens, allocations
          responseReserve := RESPONSE_RESERVE
          externalReservedTokens := 0
          elasticPool := 0
          finalized := ∅
          priority := elasticPriority demandPriority }

/-- Remove an LLM payload component from every allocatable slice. -/
def reserveExternal (budget : ElasticTokenBudget) (tokens : Int) :
    Except BudgetError Unit × ElasticTokenBudget :=
  if tokens < 0 then
    (.error (.valueError "external reserved tokens must be non-negative"), budget)
  else if tokens = 0 then (.ok (), budget)
  else if budget.totalUsed ≠ 0 ∨ budget.finalized ≠ ∅ ∨ budget.elasticPool ≠ 0 then
    (.error (.runtimeError "external payload tokens must be reserved before section use"), budget)
  else
    let totalReserved := budget.externalReservedTokens + tokens
    if budget.mandatorySystemTokens + totalReserved > budget.totalBudget then
      (.error (.degradedMode budget.mandatorySystemTokens budget.totalBudget budget.model
        (.floorPlusReserve totalReserved)), budget)
    else
      -- Integer percentages leave a gap; only what exceeds it is trimmed from real slices.
      let reduction := max 0 ((∑ source, (budget.allocations source).budget) + totalReserved -
        budget.totalBudget)
      let trimmed := trimSources budget.priority.reverse reduction budget.allocations
      let system := trimmed.2 .system
      let give :=
        if trimmed.1 > 0 then
          min trimmed.1 (max 0 (system.budget - budget.mandatorySystemTokens))
        else 0
      let allocations :=
        Function.update trimmed.2 .system { system with budget := system.budget - give }
      if trimmed.1 - give > 0 then
        (.error (.degradedMode budget.mandatorySystemTokens budget.totalBudget budget.model
          (.remainsShort (trimmed.1 - give))), { budget with allocations })
      else (.ok (), { budget with allocations, externalReservedTokens := totalReserved })

/-- Whether a section can take the tokens, from its own quota or from the pool. -/
def canFit (budget : ElasticTokenBudget) (key : String) (tokens : Int) :
    Except BudgetError Bool :=
  if tokens < 0 then
    .error (.valueError ("tokens must be non-negative (got " ++ toString tokens ++ ")"))
  else
    match Source.ofName? key with
    | none => .ok false
    | some source =>
      let localRemaining := (budget.allocations source).remaining
      if tokens ≤ localRemaining then .ok true
      else .ok (decide (tokens - localRemaining ≤ budget.elasticPool))

/-- Record usage, borrowing from the elastic pool when the section's quota is short. -/
def use (budget : ElasticTokenBudget) (key : String) (tokens items : Int) :
    Except BudgetError Bool × ElasticTokenBudget :=
  if tokens < 0 ∨ items < 0 then
    (.error (.valueError ("tokens and items must be non-negative (got tokens=" ++
      toString tokens ++ ", items=" ++ toString items ++ ")")), budget)
  else
    match Source.ofName? key with
    | none => (.ok false, budget)
    | some source =>
      let allocation := budget.allocations source
      let localRemaining := allocation.remaining
      if tokens ≤ localRemaining then
        (.ok true, { budget with
          allocations := Function.update budget.allocations source
            ⟨allocation.budget, allocation.used + tokens, allocation.items + items⟩ })
      else
        let deficit := tokens - localRemaining
        if deficit > budget.elasticPool then (.ok false, budget)
        else
          (.ok true, { budget with
            elasticPool := budget.elasticPool - deficit
            allocations := Function.update budget.allocations source
              ⟨allocation.budget + deficit, allocation.used + tokens,
                allocation.items + items⟩ })

/-- The tokens a section keeps when it is finalized. -/
def protectedTokens (budget : ElasticTokenBudget) (source : Source) : Int :=
  if source = .system then
    max (budget.allocations source).used budget.mandatorySystemTokens
  else (budget.allocations source).used

def markSectionFinalized (budget : ElasticTokenBudget) (key : String) :
    Int × ElasticTokenBudget :=
  match Source.ofName? key with
  | none => (0, budget)
  | some source =>
    if source ∈ budget.finalized then (0, budget)
    else
      let slack := max 0 ((budget.allocations source).budget - budget.protectedTokens source)
      (slack, { budget with
        finalized := insert source budget.finalized
        elasticPool := budget.elasticPool + slack })

/-- Spend-ceiling for a section including the elastic pool. -/
def effectiveBudget (budget : ElasticTokenBudget) (key : String) : Int :=
  match Source.ofName? key with
  | none => 0
  | some source => (budget.allocations source).remaining + budget.elasticPool

/-- The calls that change a budget. -/
inductive Call where
  | reserveExternal (tokens : Int)
  | use (key : String) (tokens items : Int)
  | markSectionFinalized (key : String)
  deriving DecidableEq, Repr

def step (budget : ElasticTokenBudget) : Call → ElasticTokenBudget
  | .reserveExternal tokens => (budget.reserveExternal tokens).2
  | .use key tokens items => (budget.use key tokens items).2
  | .markSectionFinalized key => (budget.markSectionFinalized key).2

/-- The call spends slack of a section that finalizing the section already released. -/
def RespendsSlack (budget : ElasticTokenBudget) : Call → Prop
  | .use key tokens _ => ∃ source ∈ budget.finalized, Source.ofName? key = some source ∧
      budget.protectedTokens source < (budget.allocations source).budget ∧
      budget.protectedTokens source - (budget.allocations source).used < tokens ∧
      tokens ≤ (budget.allocations source).remaining + budget.elasticPool
  | _ => False

instance (budget : ElasticTokenBudget) (call : Call) : Decidable (budget.RespendsSlack call) :=
  match call with
  | .reserveExternal _ => inferInstanceAs (Decidable False)
  | .use key tokens _ => inferInstanceAs (Decidable (∃ source ∈ budget.finalized,
      Source.ofName? key = some source ∧
      budget.protectedTokens source < (budget.allocations source).budget ∧
      budget.protectedTokens source - (budget.allocations source).used < tokens ∧
      tokens ≤ (budget.allocations source).remaining + budget.elasticPool))
  | .markSectionFinalized _ => inferInstanceAs (Decidable False)

end ElasticTokenBudget

end Kestrel.TokenBudget
