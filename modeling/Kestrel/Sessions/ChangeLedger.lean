import Kestrel.Base.Run
import Mathlib.Algebra.BigOperators.Group.List.Basic
import Mathlib.Algebra.GroupWithZero.Nat
import Mathlib.Data.Multiset.Filter
import Mathlib.Data.Multiset.UnionInter

/-!
# The change ledger of a conversation history

Triggers count the row events of each agent: one for each row on SQLite, one upsert for a whole
statement on PostgreSQL. A projection reads the counts back to tell appends from everything else.
-/

namespace Kestrel.Sessions

inductive Backend where
  | sqlite
  | postgres
  deriving DecidableEq, Repr

section Ledger

variable {Agent : Type*} [DecidableEq Agent]

/-- A row of `conversation_history_changes`. -/
structure LedgerRow (Agent : Type*) where
  agentId : Agent
  slot : ℕ
  changes : ℕ
  appends : ℕ

/-- What one upsert adds to an agent. -/
structure Bump (Agent : Type*) where
  agentId : Agent
  changes : ℕ
  appends : ℕ

/-- The upsert of `_BUMP` and of the statement bumps. -/
def upsert (ledger : List (LedgerRow Agent)) (slot : ℕ) (bump : Bump Agent) :
    List (LedgerRow Agent) :=
  match ledger with
  | [] => [⟨bump.agentId, slot, bump.changes, bump.appends⟩]
  | row :: rest =>
    if row.agentId = bump.agentId ∧ row.slot = slot then
      { row with
        changes := row.changes + bump.changes
        appends := row.appends + bump.appends } :: rest
    else row :: upsert rest slot bump

def observedChanges (ledger : List (LedgerRow Agent)) (agent : Agent) : ℕ :=
  ((ledger.filter fun row => row.agentId = agent).map LedgerRow.changes).sum

/-- The sum of an agent's `appends`. -/
def observedAppends (ledger : List (LedgerRow Agent)) (agent : Agent) : ℕ :=
  ((ledger.filter fun row => row.agentId = agent).map LedgerRow.appends).sum

/-- What a list of bumps adds to an agent's `changes`. -/
def bumpedChanges (bumps : List (Bump Agent)) (agent : Agent) : ℕ :=
  ((bumps.filter fun bump => bump.agentId = agent).map Bump.changes).sum

/-- What a list of bumps adds to an agent's `appends`. -/
def bumpedAppends (bumps : List (Bump Agent)) (agent : Agent) : ℕ :=
  ((bumps.filter fun bump => bump.agentId = agent).map Bump.appends).sum

end Ledger

section Statements

variable {Agent Other Rest : Type*} [DecidableEq Agent] [DecidableEq Other]

/-- The columns of `PROJECTION_INPUT_COLUMNS`: the id, the agent, and the others with the watched
keys of the metadata. -/
structure Watched (Agent Other : Type*) where
  id : ℤ
  agentId : Agent
  other : Other
  deriving DecidableEq

/-- A row of `conversation_history` with the columns that nothing watches. -/
structure HistoryRow (Agent Other Rest : Type*) extends Watched Agent Other where
  rest : Rest

/-- A statement with the rows that its triggers see. An updated row comes with what it was. -/
inductive Statement (Agent Other Rest : Type*) where
  | insert (rows : List (HistoryRow Agent Other Rest))
  | update (pairs : List (HistoryRow Agent Other Rest × HistoryRow Agent Other Rest))
  | delete (rows : List (HistoryRow Agent Other Rest))

/-- `_watched_changed` of a row's two versions. -/
def changed (pair : HistoryRow Agent Other Rest × HistoryRow Agent Other Rest) : Prop :=
  pair.1.toWatched ≠ pair.2.toWatched

instance (pair : HistoryRow Agent Other Rest × HistoryRow Agent Other Rest) :
    Decidable (changed pair) :=
  inferInstanceAs (Decidable (_ ≠ _))

def rowUpdateBumps (pair : HistoryRow Agent Other Rest × HistoryRow Agent Other Rest) :
    List (Bump Agent) :=
  if changed pair then
    ⟨pair.2.agentId, 1, 0⟩ ::
      if pair.1.agentId ≠ pair.2.agentId then [⟨pair.1.agentId, 1, 0⟩] else []
  else []

def rowBumps : Statement Agent Other Rest → List (Bump Agent)
  | .insert rows => rows.map fun row => ⟨row.agentId, 1, 1⟩
  | .update pairs => pairs.flatMap rowUpdateBumps
  | .delete rows => rows.map fun row => ⟨row.agentId, 1, 0⟩

def countOf (rows : List (HistoryRow Agent Other Rest)) (agent : Agent) : ℕ :=
  rows.countP fun row => row.agentId = agent

/-- `_statement_bump`, with whether the rows are appends. -/
def statementBump (rows : List (HistoryRow Agent Other Rest)) (appends : Bool) :
    List (Bump Agent) :=
  (rows.map fun row => row.agentId).dedup.map fun agent =>
    ⟨agent, countOf rows agent, if appends then countOf rows agent else 0⟩

/-- The rows that `EXCEPT ALL` leaves to an agent. -/
def changedRows (pairs : List (HistoryRow Agent Other Rest × HistoryRow Agent Other Rest))
    (agent : Agent) : ℕ :=
  (((pairs.map fun pair => pair.2.toWatched : Multiset (Watched Agent Other)) -
    (pairs.map fun pair => pair.1.toWatched : Multiset (Watched Agent Other))).filter
      fun row => row.agentId = agent).card

/-- The rows that an agent has fewer after a statement than before, where it has fewer. -/
def departedRows (pairs : List (HistoryRow Agent Other Rest × HistoryRow Agent Other Rest))
    (agent : Agent) : ℕ :=
  countOf (pairs.map Prod.fst) agent - countOf (pairs.map Prod.snd) agent

/-- `_update_statement_bump`: one row for each agent that the two comparisons name. -/
def updateStatementBump (pairs : List (HistoryRow Agent Other Rest × HistoryRow Agent Other Rest)) :
    List (Bump Agent) :=
  ((pairs.flatMap fun pair => [pair.1.agentId, pair.2.agentId]).dedup.filter fun agent =>
    0 < changedRows pairs agent + departedRows pairs agent).map fun agent =>
      ⟨agent, changedRows pairs agent + departedRows pairs agent, 0⟩

/-- The upserts of the PostgreSQL triggers. -/
def statementBumps : Statement Agent Other Rest → List (Bump Agent)
  | .insert rows => statementBump rows true
  | .update pairs => updateStatementBump pairs
  | .delete rows => statementBump rows false

def bumps : Backend → Statement Agent Other Rest → List (Bump Agent)
  | .sqlite => rowBumps
  | .postgres => statementBumps

/-- `_slot`. -/
def slotOf : Backend → ℕ → ℕ
  | .sqlite, _ => 0
  | .postgres, pid => pid

/-- The rows and their ledger. -/
structure History (Agent Other Rest : Type*) where
  rows : Multiset (HistoryRow Agent Other Rest)
  ledger : List (LedgerRow Agent)

inductive Executes : Multiset (HistoryRow Agent Other Rest) → Statement Agent Other Rest →
    Multiset (HistoryRow Agent Other Rest) → Prop where
  | insert {rows : Multiset (HistoryRow Agent Other Rest)}
      (added : List (HistoryRow Agent Other Rest)) : Executes rows (.insert added) (rows + added)
  | update {untouched : Multiset (HistoryRow Agent Other Rest)}
      (pairs : List (HistoryRow Agent Other Rest × HistoryRow Agent Other Rest)) :
      Executes (untouched + pairs.map Prod.fst) (.update pairs) (untouched + pairs.map Prod.snd)
  | delete {rows : Multiset (HistoryRow Agent Other Rest)}
      (removed : List (HistoryRow Agent Other Rest)) :
      Executes (rows + removed) (.delete removed) rows

def HistoryStep (backend : Backend) (before : History Agent Other Rest)
    (label : Statement Agent Other Rest × ℕ) (after : History Agent Other Rest) : Prop :=
  Executes before.rows label.1 after.rows ∧
    after.ledger = (bumps backend label.1).foldl
      (fun ledger bump => upsert ledger (slotOf backend label.2) bump) before.ledger

def rowsAbove (rows : Multiset (HistoryRow Agent Other Rest)) (agent : Agent) (target : ℤ) : ℕ :=
  (rows.filter fun row => row.agentId = agent ∧ target < row.id).card

def onlyAppendsAbove (delta appended rowsAbove : ℤ) : Bool :=
  0 < delta ∧ delta = appended ∧ delta = rowsAbove

inductive RowEvent (Agent Other Rest : Type*) where
  | inserted (row : HistoryRow Agent Other Rest)
  | updated (pair : HistoryRow Agent Other Rest × HistoryRow Agent Other Rest)
  | deleted (row : HistoryRow Agent Other Rest)

def Statement.events : Statement Agent Other Rest → List (RowEvent Agent Other Rest)
  | .insert rows => rows.map .inserted
  | .update pairs => pairs.map .updated
  | .delete rows => rows.map .deleted

def RowEvent.Touches (agent : Agent) : RowEvent Agent Other Rest → Prop
  | .inserted row => row.agentId = agent
  | .updated pair => changed pair ∧ (pair.1.agentId = agent ∨ pair.2.agentId = agent)
  | .deleted row => row.agentId = agent

/-- Only rows above the target arrived, and some did. -/
def AppendedAbove (events : List (RowEvent Agent Other Rest)) (agent : Agent) (target : ℤ) : Prop :=
  (∃ row, .inserted row ∈ events ∧ row.agentId = agent) ∧
    ∀ event ∈ events, event.Touches agent → ∃ row, event = .inserted row ∧ target < row.id

end Statements

end Kestrel.Sessions
