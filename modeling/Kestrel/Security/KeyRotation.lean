import Kestrel.Base.Attempt
import Kestrel.Base.Table
import Mathlib.Algebra.GroupWithZero.Nat
import Mathlib.Tactic.SplitIfs

/-!
# Rotation of the master key

The rotation service with its database. Each function below is the code between two awaits, or one
transaction of the database with the ways in which it can end.
-/

namespace Kestrel.Security

/-- What the service computes from a key as the operator wrote it. Different keys have different
fingerprints. -/
structure Keys (Master : Type) where
  /-- `_validate_key` does not raise. -/
  valid : String → Bool
  /-- `_master_bytes_from_key`. -/
  master : String → Master
  /-- `_hash_key`. -/
  hash : String → String
  hash_injective : Function.Injective hash

/-- The ciphers of a master key: its own and the ones derived for agents. -/
inductive Cipher (Master : Type) where
  | whole (master : Master)
  | agent (master : Master) (agentId : String)
  deriving DecidableEq, Repr

/-- A stored text: a token of a cipher or anything else. -/
inductive Stored (Master : Type) where
  | token (cipher : Cipher Master) (plaintext : String)
  | text (body : String)
  deriving DecidableEq, Repr

variable {Master : Type}

def Cipher.encrypt (cipher : Cipher Master) (plaintext : String) : Stored Master :=
  .token cipher plaintext

def Cipher.decrypt [DecidableEq Master] (cipher : Cipher Master) : Stored Master → Option String
  | .token maker plaintext => if maker = cipher then some plaintext else none
  | .text _ => none

section Registry

inductive TableName where
  | conversationHistory
  | files
  | artifactKeys
  | visualComputerKeys
  deriving DecidableEq, Repr

def TableName.text : TableName → String
  | .conversationHistory => "conversation_history"
  | .files => "files"
  | .artifactKeys => "artifact_keys"
  | .visualComputerKeys => "visual_computer_keys"

inductive Column where
  | content
  | renderedContent
  | wrappedKey
  deriving DecidableEq, Repr

/-- An entry of `ENCRYPTED_TABLES`. -/
structure Entry where
  table : TableName
  contentColumn : Column
  agentIdColumn : Bool
  progressAlias : Option String := none
  optionalContent : Bool := false
  optional : Bool := false
  requireAll : Bool := false
  deriving DecidableEq, Repr

def encryptedTables : List Entry :=
  [{ table := .conversationHistory
     contentColumn := .content
     agentIdColumn := true },
   { table := .conversationHistory
     contentColumn := .renderedContent
     agentIdColumn := true
     progressAlias := some "conversation_history.rendered_content"
     optionalContent := true },
   { table := .files
     contentColumn := .content
     agentIdColumn := false },
   { table := .artifactKeys
     contentColumn := .wrappedKey
     agentIdColumn := false
     optional := true
     requireAll := true },
   { table := .visualComputerKeys
     contentColumn := .wrappedKey
     agentIdColumn := false
     optional := true
     requireAll := true }]

def Entry.progressKey (entry : Entry) : String := entry.progressAlias.getD entry.table.text

end Registry

section Database

/-- The metadata of a row: nothing, or a falsy document; an object with the truth of its `enc`; or
what is neither. -/
inductive Metadata where
  | absent
  | object (enc : Bool)
  | malformed
  deriving DecidableEq, Repr

structure Row (Master : Type) where
  agentId : Option String
  metadata : Metadata
  column : Column → Option (Stored Master)

inductive RotationStatus where
  | pending
  | inProgress
  | completed
  | failed
  | rolledBack
  deriving DecidableEq, Repr

/-- A row of `key_rotations`, without its times and counters. -/
structure Journal where
  oldKeyHash : String
  newKeyHash : String
  status : RotationStatus
  deriving DecidableEq, Repr

/-- A row of `rotation_progress`. -/
structure Progress where
  rotationId : String
  tableName : String
  recordId : String
  deriving DecidableEq, Repr

/-- The database. A table lists its rows by id; the progress rows are newest first. -/
structure Database (Master : Type) where
  tables : TableName → Option (Table String (Row Master))
  journals : Table String Journal
  progress : List Progress

namespace Database

/-- The test of `_get_in_progress_rotation`. -/
def unresolved (database : Database Master) (id : String) : Bool :=
  (database.journals.row id).any fun journal =>
    journal.status = .inProgress ||
      (journal.status = .failed && database.progress.any fun done => done.rotationId = id)

/-- `_get_in_progress_rotation` finds a journal. -/
def inProgressRotation (database : Database Master) (excludingId : Option String) : Bool :=
  database.journals.keys.any fun id => database.unresolved id && excludingId != some id

def saveRotation (database : Database Master) (id : String) (journal : Journal) :
    Database Master :=
  { database with journals := database.journals.insert id journal }

def alreadyRotated (database : Database Master) (id : String) (entry : Entry) : List String :=
  (database.progress.filter fun done =>
    done.rotationId = id && done.tableName = entry.progressKey).map Progress.recordId

end Database

/-- The runtime reads the column as ciphertext. Unreadable metadata raises. -/
def Entry.selects (entry : Entry) (row : Row Master) : Option Bool :=
  if entry.requireAll then some true
  else
    match row.metadata with
    | .absent => some false
    | .object enc =>
      some (enc && !(entry.optionalContent && (row.column entry.contentColumn).isNone))
    | .malformed => none

def Entry.agentOf (entry : Entry) (row : Row Master) : Option String :=
  if entry.agentIdColumn then row.agentId.filter fun agentId => agentId ≠ "" else none

/-- A row that `_encrypted_rows` returns. -/
structure Selected (Master : Type) where
  recordId : String
  content : Option (Stored Master)
  agentId : Option String

def Entry.select (entry : Entry) (recordId : String) (row : Row Master) :
    Option (Selected Master) :=
  if entry.selects row = some true then
    some
      { recordId := recordId
        content := row.column entry.contentColumn
        agentId := entry.agentOf row }
  else none

def Entry.encryptedRows (entry : Entry) (table : Table String (Row Master)) :
    Option (List (Selected Master)) :=
  if table.rows.any fun stored => (entry.selects stored.2).isNone then none
  else
    let selected := table.rows.filterMap fun stored => entry.select stored.1 stored.2
    if entry.requireAll && selected.isEmpty then none else some selected

def Database.entryRows (database : Database Master) (entry : Entry) :
    Option (List (Selected Master)) :=
  match database.tables entry.table with
  | none => if entry.optional then some [] else none
  | some table => entry.encryptedRows table

def Database.countEncryptedRecords (database : Database Master) : Option ℕ :=
  (encryptedTables.mapM database.entryRows).map fun rows => (rows.map List.length).sum

end Database

section Record

/-- The cipher under which a row is written. -/
def newCipher (master : Master) : Option String → Cipher Master
  | some agentId => .agent master agentId
  | none => .whole master

/-- The ciphers under which a row may have been written. -/
def decryptCandidates (master : Master) : Option String → List (Cipher Master)
  | some agentId => [.agent master agentId, .whole master]
  | none => [.whole master]

variable [DecidableEq Master]

/-- The new content of a record. A content that no candidate opens raises. -/
def Selected.reencrypt (selected : Selected Master) (oldMaster newMaster : Master) :
    Option (Stored Master) := do
  let content ← selected.content
  let decrypted ← (decryptCandidates oldMaster selected.agentId).findSome? fun cipher =>
    cipher.decrypt content
  return (newCipher newMaster selected.agentId).encrypt decrypted

/-- The transaction that rewrites a record and names it in the progress. -/
def Database.rotateRecord (database : Database Master) (id : String) (entry : Entry)
    (recordId : String) (content : Stored Master) : Option (Database Master) :=
  match database.tables entry.table with
  | none => none
  | some table =>
    let done : Progress :=
      { rotationId := id
        tableName := entry.progressKey
        recordId := recordId }
    if recordId ∈ table.keys ∧ done ∉ database.progress then
      let written := table.adjust fun key row =>
        if key = recordId then
          { row with column := Function.update row.column entry.contentColumn (some content) }
        else row
      some
        { database with
          tables := Function.update database.tables entry.table (some written)
          progress := done :: database.progress }
    else none

end Record

section Service

/-- Where `_execute_rotation` stands. -/
inductive Phase (Master : Type) where
  | tables (rest : List Entry)
  | rows (entry : Entry) (already : List String) (rows : List (Selected Master))
      (rest : List Entry)
  | completing
  | failing

structure Rotation (Master : Type) where
  id : String
  oldKeyHash : String
  newKeyHash : String
  oldMaster : Master
  newMaster : Master

structure Task (Master : Type) where
  rotation : Rotation Master
  phase : Phase Master

structure Service (Master : Type) where
  database : Database Master
  task : Option (Task Master)

/-- One operation of the database. Without a result it raises by itself. -/
def Database.attempt (database : Database Master) (written : Option (Database Master))
    (next onError : Option (Task Master)) : Write → Service Master
  | .done =>
    match written with
    | some written => { database := written, task := next }
    | none => { database := database, task := onError }
  | .raised applied =>
    { database := if applied then written.getD database else database, task := onError }
  | .stopped applied =>
    { database := if applied then written.getD database else database, task := none }

namespace Task

def goTo (task : Task Master) (phase : Phase Master) : Task Master := { task with phase := phase }

/-- The task of a rotation that begins or goes on. -/
def opening (keys : Keys Master) (id newKey oldKey : String) : Task Master where
  rotation :=
    { id := id
      oldKeyHash := keys.hash oldKey
      newKeyHash := keys.hash newKey
      oldMaster := keys.master oldKey
      newMaster := keys.master newKey }
  phase := .tables encryptedTables

def journal (task : Task Master) (status : RotationStatus) : Journal where
  oldKeyHash := task.rotation.oldKeyHash
  newKeyHash := task.rotation.newKeyHash
  status := status

variable [DecidableEq Master]

/-- The read of an entry's progress and rows. -/
def loadEntry (task : Task Master) (database : Database Master) (entry : Entry)
    (rest : List Entry) (outcome : Write) : Service Master :=
  match database.entryRows entry with
  | none => database.attempt none none (some (task.goTo .failing)) outcome
  | some rows =>
    let already := database.alreadyRotated task.rotation.id entry
    database.attempt (some database) (some (task.goTo (.rows entry already rows rest)))
      (some (task.goTo .failing)) outcome

/-- One row of `_rotate_table`. -/
def rotateRow (task : Task Master) (database : Database Master) (entry : Entry)
    (already : List String) (selected : Selected Master) (rows : List (Selected Master))
    (rest : List Entry) (outcome : Write) : Service Master :=
  let next := some (task.goTo (.rows entry already rows rest))
  let failing := some (task.goTo .failing)
  if selected.recordId ∈ already then
    let readable := selected.content.any fun content =>
      ((Cipher.whole task.rotation.newMaster).decrypt content).isSome
    { database := database, task := if entry.requireAll && !readable then failing else next }
  else
    match selected.reencrypt task.rotation.oldMaster task.rotation.newMaster with
    | none => { database := database, task := failing }
    | some content =>
      database.attempt (database.rotateRecord task.rotation.id entry selected.recordId content)
        next failing outcome

/-- `_execute_rotation` up to the end of its next operation. -/
def advance (task : Task Master) (database : Database Master) (outcome : Write) :
    Service Master :=
  match task.phase with
  | .tables [] => { database := database, task := some (task.goTo .completing) }
  | .tables (entry :: rest) => task.loadEntry database entry rest outcome
  | .rows _ _ [] rest => { database := database, task := some (task.goTo (.tables rest)) }
  | .rows entry already (selected :: rows) rest =>
    task.rotateRow database entry already selected rows rest outcome
  | .completing =>
    database.attempt (some (database.saveRotation task.rotation.id (task.journal .completed)))
      none (some (task.goTo .failing)) outcome
  | .failing =>
    database.attempt (some (database.saveRotation task.rotation.id (task.journal .failed)))
      none none outcome

end Task

inductive Command where
  | start (id : String) (newKey dataKey : Option String) (outcome : Write)
  | resume (id : String) (newKey dataKey : Option String) (outcome : Write)
  | advance (outcome : Write)
  /-- A crash, a shutdown or a cancellation between two operations. -/
  | stop
  deriving DecidableEq, Repr

namespace Service

/-- `_require_rotation_admission`. -/
def admits (service : Service Master) (resumeId : Option String) : Bool :=
  service.task.isNone && !service.database.inProgressRotation resumeId

/-- The save of the journal before `_execute_rotation` runs. -/
def launch (keys : Keys Master) (service : Service Master) (id newKey oldKey : String)
    (outcome : Write) : Service Master :=
  let task := Task.opening keys id newKey oldKey
  service.database.attempt
    (some (service.database.saveRotation id (task.journal .inProgress))) (some task) none outcome

def given (key : Option String) : Option String := key.filter fun key => key ≠ ""

/-- `start_rotation`. The id is fresh. -/
def startRotation (keys : Keys Master) (service : Service Master) (id : String)
    (newKey dataKey : Option String) (outcome : Write) : Service Master :=
  match given newKey, given dataKey with
  | some newKey, some oldKey =>
    if service.admits none ∧ keys.valid newKey ∧ id ∉ service.database.journals.keys ∧
        service.database.countEncryptedRecords.isSome then
      service.launch keys id newKey oldKey outcome
    else service
  | _, _ => service

/-- `resume_rotation`. The stored fingerprints are those of the given keys. -/
def resumeRotation (keys : Keys Master) (service : Service Master) (id : String)
    (newKey dataKey : Option String) (outcome : Write) : Service Master :=
  match service.database.journals.row id, given newKey, given dataKey with
  | some journal, some newKey, some oldKey =>
    if service.admits (some id) ∧ (journal.status = .inProgress ∨ journal.status = .failed) ∧
        keys.hash newKey = journal.newKeyHash ∧ keys.hash oldKey = journal.oldKeyHash then
      service.launch keys id newKey oldKey outcome
    else service
  | _, _, _ => service

variable [DecidableEq Master]

def apply (keys : Keys Master) (service : Service Master) : Command → Service Master
  | .start id newKey dataKey outcome => service.startRotation keys id newKey dataKey outcome
  | .resume id newKey dataKey outcome => service.resumeRotation keys id newKey dataKey outcome
  | .advance outcome =>
    match service.task with
    | none => service
    | some task => task.advance service.database outcome
  | .stop => { service with task := none }

end Service

end Service

end Kestrel.Security
