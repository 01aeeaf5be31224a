import Kestrel.Security.KeyRotation

/-!
# Records and their ciphers

What a rewritten record changes in the database, and what it leaves alone.
-/

namespace Kestrel.Security

open Option Function

variable {Master : Type}

section Ciphers

variable {cipher : Cipher Master} {content : Stored Master}

theorem decrypt_eq_some_iff [DecidableEq Master] {plaintext : String} :
    cipher.decrypt content = some plaintext ↔ content = .token cipher plaintext := by
  cases content with
  | token maker inner =>
    simp only [Cipher.decrypt, ite_none_right_eq_some, Option.some.injEq, Stored.token.injEq]
  | text body => simp only [Cipher.decrypt, reduceCtorEq]

theorem newCipher_mem (master : Master) (agentId : Option String) :
    newCipher master agentId ∈ decryptCandidates master agentId := by
  cases agentId <;> simp [newCipher, decryptCandidates]

theorem master_of_candidate {left right : Master} {agentId : Option String}
    (ofLeft : cipher ∈ decryptCandidates left agentId)
    (ofRight : cipher ∈ decryptCandidates right agentId) : left = right := by
  cases agentId <;> cases cipher <;> simp_all [decryptCandidates]

theorem Selected.reencrypt_eq_some [DecidableEq Master] {selected : Selected Master}
    {oldMaster newMaster : Master}
    (rewritten : selected.reencrypt oldMaster newMaster = some content) :
    ∃ cipher ∈ decryptCandidates oldMaster selected.agentId, ∃ plaintext,
      selected.content = some (.token cipher plaintext) ∧
        content = .token (newCipher newMaster selected.agentId) plaintext := by
  simp only [Selected.reencrypt, bind_eq_bind, bind_eq_some_iff] at rewritten
  obtain ⟨before, stored, plaintext, opened, written⟩ := rewritten
  obtain ⟨cipher, candidate, decrypted⟩ := List.exists_of_findSome?_eq_some opened
  rw [decrypt_eq_some_iff] at decrypted
  refine ⟨cipher, candidate, plaintext, ?_, (Option.some.inj written).symm⟩
  rw [stored, decrypted]

end Ciphers

section Registry

theorem entry_of_progressKey {left right : Entry} (ofLeft : left ∈ encryptedTables)
    (ofRight : right ∈ encryptedTables) (same : left.progressKey = right.progressKey) :
    left = right := by
  have distinct : ∀ left ∈ encryptedTables, ∀ right ∈ encryptedTables,
      left.progressKey = right.progressKey → left = right := by decide
  exact distinct left ofLeft right ofRight same

theorem entry_of_column {left right : Entry} (ofLeft : left ∈ encryptedTables)
    (ofRight : right ∈ encryptedTables) (table : left.table = right.table)
    (column : left.contentColumn = right.contentColumn) : left = right := by
  have distinct : ∀ left ∈ encryptedTables, ∀ right ∈ encryptedTables,
      left.table = right.table → left.contentColumn = right.contentColumn → left = right := by
    decide
  exact distinct left ofLeft right ofRight table column

end Registry

namespace Row

def write (row : Row Master) (column : Column) (content : Stored Master) : Row Master :=
  { row with column := Function.update row.column column (some content) }

@[simp] theorem column_write_self (row : Row Master) (column : Column) (content : Stored Master) :
    (row.write column content).column column = some content := by
  simp only [write, update_self]

theorem column_write_of_ne (row : Row Master) {column other : Column} (content : Stored Master)
    (distinct : other ≠ column) : (row.write column content).column other = row.column other := by
  simp only [write, update_of_ne distinct]

theorem selects_congr {row other : Row Master} (entry : Entry)
    (metadata : row.metadata = other.metadata)
    (absent : (row.column entry.contentColumn).isNone = (other.column entry.contentColumn).isNone) :
    entry.selects row = entry.selects other := by
  simp only [Entry.selects, metadata, absent]

theorem selects_write {row : Row Master} (entry : Entry) {column : Column} {before : Stored Master}
    (content : Stored Master) (stored : row.column column = some before) :
    entry.selects (row.write column content) = entry.selects row := by
  refine selects_congr entry rfl ?_
  by_cases same : entry.contentColumn = column
  · rw [same, stored, column_write_self]
    rfl
  · rw [column_write_of_ne row content same]

end Row

namespace Database

def record (database : Database Master) (name : TableName) (id : String) : Option (Row Master) :=
  (database.tables name).bind fun table => table.row id

def Names (database : Database Master) (rotationId : String) (entry : Entry) (recordId : String) :
    Prop :=
  { rotationId := rotationId
    tableName := entry.progressKey
    recordId := recordId } ∈ database.progress

/-- The rotation whose progress row names a record, the latest if several do. -/
def lastNaming (database : Database Master) (entry : Entry) (recordId : String) : Option String :=
  (database.progress.find? fun done =>
    done.tableName = entry.progressKey && done.recordId = recordId).map Progress.rotationId

structure Rotated (database : Database Master) (rotationId : String) (entry : Entry)
    (recordId : String) (content : Stored Master) (after : Database Master) : Prop where
  journals : after.journals = database.journals
  progress :
    after.progress =
      { rotationId := rotationId
        tableName := entry.progressKey
        recordId := recordId } :: database.progress
  fresh : ¬ database.Names rotationId entry recordId
  keys : ∀ name, (after.tables name).map Table.keys = (database.tables name).map Table.keys
  record : ∀ name id, after.record name id =
    (database.record name id).map fun row =>
      if name = entry.table ∧ id = recordId then row.write entry.contentColumn content else row

theorem rotated_of_rotateRecord {database after : Database Master} {rotationId : String}
    {entry : Entry} {recordId : String} {content : Stored Master}
    (written : database.rotateRecord rotationId entry recordId content = some after) :
    Rotated database rotationId entry recordId content after := by
  unfold rotateRecord at written
  cases found : database.tables entry.table with
  | none => simp only [found, reduceCtorEq] at written
  | some table =>
    simp only [found, ite_none_right_eq_some, Option.some.injEq] at written
    obtain ⟨⟨_, fresh⟩, rfl⟩ := written
    refine ⟨rfl, rfl, fresh, ?_, ?_⟩
    · intro name
      by_cases same : name = entry.table
      · subst same
        simp only [update_self, found, map_some, Table.adjust]
      · simp only [update_of_ne same]
    · intro name id
      by_cases same : name = entry.table
      · subst same
        simp [Database.record, update_self, found, bind_some, Table.row_adjust, true_and, Row.write]
      · simp [Database.record, same, false_and]

namespace Rotated

variable {database after : Database Master} {rotationId recordId : String} {entry : Entry}
  {content : Stored Master}

variable {id : String} {named : Entry}

section

variable (rotated : Rotated database rotationId entry recordId content after)

include rotated

theorem record_eq_some {name : TableName} {row : Row Master}
    (stored : after.record name id = some row) :
    ∃ before, database.record name id = some before ∧
      row = if name = entry.table ∧ id = recordId then before.write entry.contentColumn content
        else before := by
  rw [rotated.record, map_eq_some_iff] at stored
  obtain ⟨before, found, rfl⟩ := stored
  exact ⟨before, found, rfl⟩

theorem record_of_ne (distinct : id ≠ recordId) (name : TableName) :
    after.record name id = database.record name id := by
  rw [rotated.record]
  simp [distinct, and_false, map_id']

theorem names_iff {other : String} : after.Names other named id ↔
      (other = rotationId ∧ named.progressKey = entry.progressKey ∧ id = recordId) ∨
        database.Names other named id := by
  unfold Names
  rw [rotated.progress, List.mem_cons, Progress.mk.injEq]

theorem names_self :
    after.Names rotationId entry recordId :=
  rotated.names_iff.mpr (.inl ⟨rfl, rfl, rfl⟩)

theorem names_mono {other : String} (before : database.Names other named id) :
    after.Names other named id :=
  rotated.names_iff.mpr (.inr before)

theorem lastNaming_self : after.lastNaming entry recordId = some rotationId := by
  unfold lastNaming
  rw [rotated.progress, List.find?_cons_of_pos (by simp)]
  rfl

theorem lastNaming_of_ne (distinct : ¬ (named.progressKey = entry.progressKey ∧ id = recordId)) :
    after.lastNaming named id = database.lastNaming named id := by
  unfold lastNaming
  rw [rotated.progress, List.find?_cons_of_neg]
  intro same
  simp only [Bool.and_eq_true, decide_eq_true_eq] at same
  exact distinct ⟨same.1.symm, same.2.symm⟩

end

end Rotated

end Database

end Kestrel.Security
