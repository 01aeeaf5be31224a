import Kestrel.Security.RotationRecords

/-!
# What the database keeps through its rotations

The journals own the records one after another. The records that an unfinished journal has named are
under its new master, all others under the master that the data had before it.
-/

namespace Kestrel.Security

variable {Master : Type}

/-- A record that the runtime reads as ciphertext. -/
structure Database.Flagged (database : Database Master) (entry : Entry) (id : String)
    (row : Row Master) : Prop where
  registered : entry ∈ encryptedTables
  stored : database.record entry.table id = some row
  selected : entry.selects row = some true

/-- The column of a record holds a token of the cipher that the row calls for. -/
def Turned (entry : Entry) (master : Master) (row : Row Master) : Prop :=
  ∃ plaintext, row.column entry.contentColumn =
    some (.token (newCipher master (entry.agentOf row)) plaintext)

/-- The rows of the registered tables, with what a rotation may change in them. -/
structure Kept (initial database : Database Master) : Prop where
  keys : ∀ name, (database.tables name).map Table.keys = (initial.tables name).map Table.keys
  rows : ∀ name id row, database.record name id = some row →
    ∃ was, initial.record name id = some was ∧ row.agentId = was.agentId ∧
      row.metadata = was.metadata ∧
      ∀ column, row.column column = was.column column ∨
        (∃ entry, initial.Flagged entry id was ∧ entry.table = name ∧
          entry.contentColumn = column) ∧
        ∃ before after plaintext, was.column column = some (.token before plaintext) ∧
          row.column column = some (.token after plaintext)

/-- The history that the journals and the progress rows tell. -/
structure Recorded (keys : Keys Master) (initial database : Database Master) : Prop where
  kept : Kept initial database
  journals : ∀ id journal, database.journals.row id = some journal →
    (∃ oldKey newKey, journal.oldKeyHash = keys.hash oldKey ∧
      journal.newKeyHash = keys.hash newKey) ∧
    (journal.status = .inProgress ∨ journal.status = .completed ∨ journal.status = .failed)
  known : ∀ done ∈ database.progress, ∃ journal,
    database.journals.row done.rotationId = some journal
  untouched : ∀ entry id row, database.Flagged entry id row →
    database.lastNaming entry id = none →
    ∃ was, initial.record entry.table id = some was ∧
      row.column entry.contentColumn = was.column entry.contentColumn
  latest : ∀ entry id row rotationId journal newKey, database.Flagged entry id row →
    database.lastNaming entry id = some rotationId →
    database.journals.row rotationId = some journal → journal.newKeyHash = keys.hash newKey →
    Turned entry (keys.master newKey) row

/-- The data is under a master, the records that an unfinished journal has named apart. -/
structure Owned (keys : Keys Master) (master : Master) (database : Database Master) : Prop where
  rotated : ∀ rotationId journal newKey entry id row,
    database.journals.row rotationId = some journal → journal.status ≠ .completed →
    journal.newKeyHash = keys.hash newKey → database.Flagged entry id row →
    database.Names rotationId entry id → Turned entry (keys.master newKey) row
  waiting : ∀ entry id row cipher plaintext, database.Flagged entry id row →
    (∀ rotationId journal, database.journals.row rotationId = some journal →
      journal.status ≠ .completed → ¬ database.Names rotationId entry id) →
    row.column entry.contentColumn = some (.token cipher plaintext) →
    cipher ∈ decryptCandidates master (entry.agentOf row)
  owner : ∀ rotationId journal oldKey, database.journals.row rotationId = some journal →
    journal.status ≠ .completed → (∃ done ∈ database.progress, done.rotationId = rotationId) →
    journal.oldKeyHash = keys.hash oldKey → keys.master oldKey = master

/-- No other journal waits to be finished. -/
def Alone (database : Database Master) (id : String) : Prop :=
  ∀ other, database.unresolved other = true → other = id

section Journals

variable {keys : Keys Master} {initial database : Database Master} {master : Master} {id : String}

theorem Recorded.unresolved (recorded : Recorded keys initial database) {journal : Journal}
    (stored : database.journals.row id = some journal) (unfinished : journal.status ≠ .completed)
    (progressed : ∃ done ∈ database.progress, done.rotationId = id) :
    database.unresolved id = true := by
  obtain ⟨done, member, same⟩ := progressed
  have named : (database.progress.any fun done => done.rotationId = id) = true :=
    List.any_eq_true.mpr ⟨done, member, decide_eq_true same⟩
  simp only [Database.unresolved, stored, Option.any_some, named, Bool.and_true, Bool.or_eq_true,
    decide_eq_true_eq]
  obtain running | finished | failed := (recorded.journals id journal stored).2
  · exact .inl running
  · exact absurd finished unfinished
  · exact .inr failed

theorem Recorded.eq_of_alone (recorded : Recorded keys initial database)
    (alone : Alone database id) {other : String} {journal : Journal}
    (stored : database.journals.row other = some journal)
    (unfinished : journal.status ≠ .completed)
    (progressed : ∃ done ∈ database.progress, done.rotationId = other) : other = id :=
  alone other (recorded.unresolved stored unfinished progressed)

variable {rotationId recordId : String} {entry : Entry}

theorem Database.Names.progressed (names : database.Names rotationId entry recordId) :
    ∃ done ∈ database.progress, done.rotationId = rotationId :=
  ⟨_, names, rfl⟩

theorem names_of_lastNaming (last : database.lastNaming entry recordId = some rotationId) :
    database.Names rotationId entry recordId := by
  obtain ⟨done, found, rfl⟩ := Option.map_eq_some_iff.mp last
  have selected := List.find?_some found
  simp only [Bool.and_eq_true, decide_eq_true_eq] at selected
  obtain ⟨rfl, table⟩ := And.intro selected.2 selected.1
  unfold Database.Names
  rw [← table]
  exact List.mem_of_find?_eq_some found

end Journals

section Save

variable {keys : Keys Master} {initial database : Database Master} {master : Master} {id : String}
  {journal : Journal}

theorem saved_row (database : Database Master) (id other : String) (journal : Journal) :
    (database.saveRotation id journal).journals.row other =
      if other = id then some journal else database.journals.row other :=
  database.journals.row_insert id other journal

theorem flagged_saved {entry : Entry} {recordId : String} {row : Row Master} :
    (database.saveRotation id journal).Flagged entry recordId row ↔
      database.Flagged entry recordId row :=
  ⟨fun flagged => ⟨flagged.registered, flagged.stored, flagged.selected⟩,
    fun flagged => ⟨flagged.registered, flagged.stored, flagged.selected⟩⟩

theorem Recorded.save (recorded : Recorded keys initial database)
    (known : ∃ oldKey newKey, journal.oldKeyHash = keys.hash oldKey ∧
      journal.newKeyHash = keys.hash newKey)
    (status : journal.status = .inProgress ∨ journal.status = .completed ∨ journal.status = .failed)
    (same : ∀ before, database.journals.row id = some before →
      before.newKeyHash = journal.newKeyHash) :
    Recorded keys initial (database.saveRotation id journal) where
  kept := ⟨recorded.kept.keys, recorded.kept.rows⟩
  journals := by
    intro other found stored
    rw [saved_row] at stored
    split_ifs at stored with sameId
    · obtain rfl := Option.some.inj stored
      exact ⟨known, status⟩
    · exact recorded.journals other found stored
  known := by
    intro done member
    obtain ⟨found, stored⟩ := recorded.known done member
    rw [saved_row]
    split_ifs
    · exact ⟨journal, rfl⟩
    · exact ⟨found, stored⟩
  untouched := fun entry recordId row flagged =>
    recorded.untouched entry recordId row (flagged_saved.mp flagged)
  latest := by
    intro entry recordId row rotationId found newKey flagged last stored key
    have named := names_of_lastNaming last
    obtain ⟨before, present⟩ := recorded.known _ named
    rw [flagged_saved] at flagged
    rw [saved_row] at stored
    split_ifs at stored with sameId
    · subst sameId
      obtain rfl := Option.some.inj stored
      exact recorded.latest entry recordId row rotationId before newKey flagged last present
        ((same before present).trans key)
    · exact recorded.latest entry recordId row rotationId found newKey flagged last stored key

theorem Owned.save (owned : Owned keys master database) (recorded : Recorded keys initial database)
    (unfinished : journal.status ≠ .completed)
    (same : ∀ before, database.journals.row id = some before → before.status ≠ .completed ∧
      before.oldKeyHash = journal.oldKeyHash ∧ before.newKeyHash = journal.newKeyHash) :
    Owned keys master (database.saveRotation id journal) where
  rotated := by
    intro rotationId found newKey entry recordId row stored open_ key flagged names
    obtain ⟨before, present⟩ := recorded.known _ names
    rw [flagged_saved] at flagged
    rw [saved_row] at stored
    split_ifs at stored with sameId
    · subst sameId
      obtain rfl := Option.some.inj stored
      obtain ⟨still, _, newHash⟩ := same before present
      exact owned.rotated rotationId before newKey entry recordId row present still
        (newHash.trans key) flagged names
    · exact owned.rotated rotationId found newKey entry recordId row stored open_ key flagged names
  waiting := by
    intro entry recordId row cipher plaintext flagged unnamed content
    refine owned.waiting entry recordId row cipher plaintext (flagged_saved.mp flagged) ?_ content
    intro rotationId found stored open_ names
    by_cases sameId : rotationId = id
    · subst sameId
      exact unnamed rotationId journal (by rw [saved_row, if_pos rfl]) unfinished names
    · exact unnamed rotationId found (by rw [saved_row, if_neg sameId, stored]) open_ names
  owner := by
    intro rotationId found oldKey stored open_ progressed key
    obtain ⟨done, member, rfl⟩ := progressed
    obtain ⟨before, present⟩ := recorded.known done member
    rw [saved_row] at stored
    split_ifs at stored with sameId
    · subst sameId
      obtain rfl := Option.some.inj stored
      obtain ⟨still, oldHash, _⟩ := same before present
      exact owned.owner done.rotationId before oldKey present still ⟨done, member, rfl⟩
        (oldHash.trans key)
    · exact owned.owner done.rotationId found oldKey stored open_ ⟨done, member, rfl⟩ key

def Covered (database : Database Master) (rotationId : String) (entry : Entry) : Prop :=
  ∀ id row, database.Flagged entry id row → database.Names rotationId entry id

theorem Owned.complete (owned : Owned keys master database)
    (recorded : Recorded keys initial database) (alone : Alone database id) {before : Journal}
    (stored : database.journals.row id = some before) (unfinished : before.status ≠ .completed)
    {newKey : String} (key : before.newKeyHash = keys.hash newKey)
    (covered : ∀ entry ∈ encryptedTables, Covered database id entry)
    (completed : journal.status = .completed) :
    Owned keys (keys.master newKey) (database.saveRotation id journal) where
  rotated := by
    intro rotationId found _ entry recordId row present open_ _ _ names
    rw [saved_row] at present
    split_ifs at present with sameId
    · obtain rfl := Option.some.inj present
      exact absurd completed open_
    · exact absurd (recorded.eq_of_alone alone present open_ names.progressed) sameId
  waiting := by
    intro entry recordId row cipher plaintext flagged _ content
    rw [flagged_saved] at flagged
    have names := covered entry flagged.registered recordId row flagged
    obtain ⟨inner, turned⟩ :=
      owned.rotated id before newKey entry recordId row stored unfinished key flagged names
    rw [turned, Option.some.injEq, Stored.token.injEq] at content
    rw [← content.1]
    exact newCipher_mem _ _
  owner := by
    intro rotationId found _ present open_ progressed _
    rw [saved_row] at present
    split_ifs at present with sameId
    · obtain rfl := Option.some.inj present
      exact absurd completed open_
    · exact absurd (recorded.eq_of_alone alone present open_ progressed) sameId

theorem Owned.reopen (recorded : Recorded keys initial database) (alone : Alone database id)
    {oldKey newKey : String} (oldHash : journal.oldKeyHash = keys.hash oldKey)
    (newHash : journal.newKeyHash = keys.hash newKey) (unfinished : journal.status ≠ .completed)
    (covered : ∀ entry ∈ encryptedTables, Covered database id entry)
    (turned : ∀ entry recordId row, database.Flagged entry recordId row →
      Turned entry (keys.master newKey) row) :
    Owned keys (keys.master oldKey) (database.saveRotation id journal) where
  rotated := by
    intro rotationId found otherKey entry recordId row present open_ key flagged names
    rw [flagged_saved] at flagged
    rw [saved_row] at present
    split_ifs at present with sameId
    · obtain rfl := Option.some.inj present
      have same : newKey = otherKey := keys.hash_injective (newHash.symm.trans key)
      exact same ▸ turned entry recordId row flagged
    · exact absurd (recorded.eq_of_alone alone present open_ names.progressed) sameId
  waiting := by
    intro entry recordId row cipher plaintext flagged unnamed _
    rw [flagged_saved] at flagged
    have names := covered entry flagged.registered recordId row flagged
    exact absurd names (unnamed id journal (by rw [saved_row, if_pos rfl]) unfinished)
  owner := by
    intro rotationId found otherKey present open_ progressed key
    rw [saved_row] at present
    split_ifs at present with sameId
    · obtain rfl := Option.some.inj present
      exact congrArg keys.master (keys.hash_injective (key.symm.trans oldHash))
    · exact absurd (recorded.eq_of_alone alone present open_ progressed) sameId

end Save

section Rewrite

/-- The transaction of a flagged record under the cipher it was opened with. -/
structure Rewrites (keys : Keys Master) (database : Database Master) (rotationId : String)
    (oldKey newKey : String) (entry : Entry) (recordId : String) (row : Row Master)
    (after : Database Master) (cipher : Cipher Master) (plaintext : String) : Prop where
  flagged : database.Flagged entry recordId row
  opened : row.column entry.contentColumn = some (.token cipher plaintext)
  candidate : cipher ∈ decryptCandidates (keys.master oldKey) (entry.agentOf row)
  rotated : database.Rotated rotationId entry recordId
    (.token (newCipher (keys.master newKey) (entry.agentOf row)) plaintext) after
  journal : ∃ journal, database.journals.row rotationId = some journal ∧
    journal.status ≠ .completed ∧ journal.oldKeyHash = keys.hash oldKey ∧
    journal.newKeyHash = keys.hash newKey

namespace Rewrites

variable {keys : Keys Master} {initial database after : Database Master}
  {rotationId oldKey newKey recordId : String} {entry : Entry} {row : Row Master}
  {cipher : Cipher Master} {plaintext : String} {master : Master}

variable {other : Entry} {id : String}

section

variable
  (rewrites : Rewrites keys database rotationId oldKey newKey entry recordId row after cipher plaintext)

include rewrites

theorem distinct_progress (registered : other ∈ encryptedTables)
    (distinct : ¬ (other = entry ∧ id = recordId)) :
    ¬ (other.progressKey = entry.progressKey ∧ id = recordId) := by
  intro same
  exact distinct ⟨entry_of_progressKey registered rewrites.flagged.registered same.1, same.2⟩

theorem flagged_after {found : Row Master} (flagged : after.Flagged other id found) :
    ∃ before, database.Flagged other id before ∧ other.agentOf found = other.agentOf before ∧
      ((other = entry ∧ id = recordId ∧ before = row ∧ found.column other.contentColumn =
          some (.token (newCipher (keys.master newKey) (entry.agentOf row)) plaintext)) ∨
        ¬ (other = entry ∧ id = recordId) ∧
          found.column other.contentColumn = before.column other.contentColumn) := by
  obtain ⟨before, stored, rfl⟩ := rewrites.rotated.record_eq_some flagged.stored
  have selected := flagged.selected
  by_cases target : other.table = entry.table ∧ id = recordId
  · rw [if_pos target] at selected ⊢
    obtain ⟨table, rfl⟩ := target
    obtain rfl : before = row := by
      have present := rewrites.flagged.stored
      rw [← table, stored] at present
      exact Option.some.inj present
    rw [Row.selects_write other _ rewrites.opened] at selected
    refine ⟨before, ⟨flagged.registered, stored, selected⟩, rfl, ?_⟩
    by_cases column : other.contentColumn = entry.contentColumn
    · have same := entry_of_column flagged.registered rewrites.flagged.registered table column
      subst same
      exact .inl ⟨rfl, rfl, rfl, Row.column_write_self _ _ _⟩
    · refine .inr ⟨?_, Row.column_write_of_ne _ _ column⟩
      intro same
      exact column (congrArg Entry.contentColumn same.1)
  · rw [if_neg target] at selected ⊢
    refine ⟨before, ⟨flagged.registered, stored, selected⟩, rfl, .inr ⟨?_, rfl⟩⟩
    intro same
    exact target ⟨congrArg Entry.table same.1, same.2⟩

theorem flagged_before {before : Row Master} (flagged : database.Flagged other id before)
    (distinct : id ≠ recordId) :
    after.Flagged other id before :=
  ⟨flagged.registered, (rewrites.rotated.record_of_ne distinct _).trans flagged.stored,
    flagged.selected⟩

end

theorem kept (rewrites : Rewrites keys database rotationId oldKey newKey entry recordId row after
    cipher plaintext) (kept : Kept initial database) : Kept initial after where
  keys := fun name => (rewrites.rotated.keys name).trans (kept.keys name)
  rows := by
    intro name id found stored
    obtain ⟨before, present, rfl⟩ := rewrites.rotated.record_eq_some stored
    obtain ⟨was, origin, agent, metadata, columns⟩ := kept.rows name id before present
    split_ifs with target
    · obtain ⟨rfl, rfl⟩ := target
      obtain rfl : before = row := Option.some.inj (present.symm.trans rewrites.flagged.stored)
      refine ⟨was, origin, agent, metadata, ?_⟩
      intro column
      by_cases same : column = entry.contentColumn
      · subst same
        right
        have absent : (before.column entry.contentColumn).isNone =
            (was.column entry.contentColumn).isNone := by
          obtain same | ⟨_, first, second, inner, left, right⟩ := columns entry.contentColumn
          · rw [same]
          · rw [left, right]
            rfl
        have flagged : initial.Flagged entry id was :=
          ⟨rewrites.flagged.registered, origin,
            (Row.selects_congr entry metadata absent).symm.trans rewrites.flagged.selected⟩
        refine ⟨⟨entry, flagged, rfl, rfl⟩, ?_⟩
        obtain same | ⟨_, first, second, inner, left, right⟩ := columns entry.contentColumn
        · exact ⟨cipher, _, plaintext, same.symm.trans rewrites.opened, Row.column_write_self _ _ _⟩
        · have opened := rewrites.opened
          rw [right, Option.some.injEq, Stored.token.injEq] at opened
          rw [← opened.2]
          exact ⟨first, _, inner, left, Row.column_write_self _ _ _⟩
      · rw [Row.column_write_of_ne _ _ same]
        exact columns column
    · exact ⟨was, origin, agent, metadata, columns⟩

section

variable
  (rewrites : Rewrites keys database rotationId oldKey newKey entry recordId row after cipher plaintext)

include rewrites

theorem recorded (recorded : Recorded keys initial database) : Recorded keys initial after where
  kept := rewrites.kept recorded.kept
  journals := by
    rw [rewrites.rotated.journals]
    exact recorded.journals
  known := by
    rw [rewrites.rotated.journals, rewrites.rotated.progress]
    intro done member
    obtain rfl | old := List.mem_cons.mp member
    · obtain ⟨journal, stored, _⟩ := rewrites.journal
      exact ⟨journal, stored⟩
    · exact recorded.known done old
  untouched := by
    intro other id found flagged last
    obtain ⟨before, present, _, ⟨rfl, rfl, _⟩ | ⟨distinct, same⟩⟩ := rewrites.flagged_after flagged
    · rw [rewrites.rotated.lastNaming_self] at last
      exact absurd last (Option.some_ne_none _)
    · rw [rewrites.rotated.lastNaming_of_ne
        (rewrites.distinct_progress flagged.registered distinct)] at last
      rw [same]
      exact recorded.untouched other id before present last
  latest := by
    intro other id found named journal otherKey flagged last stored key
    rw [rewrites.rotated.journals] at stored
    obtain ⟨before, present, agent, ⟨rfl, rfl, rfl, content⟩ | ⟨distinct, same⟩⟩ :=
      rewrites.flagged_after flagged
    · rw [rewrites.rotated.lastNaming_self, Option.some.injEq] at last
      subst last
      obtain ⟨known, present, _, _, hash⟩ := rewrites.journal
      obtain rfl := Option.some.inj (stored.symm.trans present)
      have sameKey : otherKey = newKey := keys.hash_injective (key.symm.trans hash)
      subst sameKey
      exact ⟨plaintext, by rw [content, agent]⟩
    · rw [rewrites.rotated.lastNaming_of_ne
        (rewrites.distinct_progress flagged.registered distinct)] at last
      obtain ⟨inner, turned⟩ :=
        recorded.latest other id before named journal otherKey present last stored key
      exact ⟨inner, by rw [same, agent, turned]⟩

theorem owned (recorded : Recorded keys initial database) (alone : Alone database rotationId)
    (owned : Owned keys master database) : Owned keys master after := by
  obtain ⟨journal, journalStored, unfinished, oldHash, newHash⟩ := rewrites.journal
  have same : keys.master oldKey = master := by
    refine master_of_candidate rewrites.candidate ?_
    refine owned.waiting entry recordId row cipher plaintext rewrites.flagged ?_ rewrites.opened
    intro other found stored open_ names
    obtain rfl := recorded.eq_of_alone alone stored open_ names.progressed
    exact rewrites.rotated.fresh names
  refine ⟨?_, ?_, ?_⟩
  · intro other found otherKey named id current stored open_ key flagged names
    rw [rewrites.rotated.journals] at stored
    obtain ⟨before, present, agent, ⟨rfl, rfl, rfl, content⟩ | ⟨distinct, kept⟩⟩ :=
      rewrites.flagged_after flagged
    · obtain ⟨rfl, _⟩ | old := rewrites.rotated.names_iff.mp names
      · obtain rfl := Option.some.inj (stored.symm.trans journalStored)
        have sameKey : otherKey = newKey := keys.hash_injective (key.symm.trans newHash)
        subst sameKey
        exact ⟨plaintext, by rw [content, agent]⟩
      · obtain rfl := recorded.eq_of_alone alone stored open_ old.progressed
        exact absurd old rewrites.rotated.fresh
    · obtain ⟨_, samePlace⟩ | old := rewrites.rotated.names_iff.mp names
      · exact absurd samePlace (rewrites.distinct_progress flagged.registered distinct)
      · obtain ⟨inner, turned⟩ :=
          owned.rotated other found otherKey named id before stored open_ key present old
        exact ⟨inner, by rw [kept, agent, turned]⟩
  · intro named id current maker inner flagged unnamed content
    obtain ⟨before, present, agent, ⟨rfl, rfl, rfl, _⟩ | ⟨distinct, kept⟩⟩ :=
      rewrites.flagged_after flagged
    · exact absurd rewrites.rotated.names_self
        (unnamed rotationId journal (by rw [rewrites.rotated.journals, journalStored]) unfinished)
    · rw [agent]
      refine owned.waiting named id before maker inner present ?_ (kept.symm.trans content)
      intro other found stored open_ names
      exact unnamed other found (by rw [rewrites.rotated.journals, stored]) open_
        (rewrites.rotated.names_mono names)
  · intro other found otherKey stored open_ progressed key
    rw [rewrites.rotated.journals] at stored
    obtain ⟨done, member, rfl⟩ := progressed
    rw [rewrites.rotated.progress] at member
    obtain rfl | old := List.mem_cons.mp member
    · obtain rfl := Option.some.inj (stored.symm.trans journalStored)
      have sameKey : otherKey = oldKey := keys.hash_injective (key.symm.trans oldHash)
      rw [sameKey, same]
    · exact owned.owner done.rotationId found otherKey stored open_ ⟨done, old, rfl⟩ key

theorem alone (alone : Alone database rotationId) : Alone after rotationId := by
  intro other unresolved
  by_contra distinct
  refine distinct (alone other ?_)
  unfold Database.unresolved at unresolved ⊢
  rw [rewrites.rotated.journals, rewrites.rotated.progress, List.any_cons,
    decide_eq_false (p := rotationId = other) (fun same => distinct same.symm),
    Bool.false_or] at unresolved
  exact unresolved

theorem covered (covered : Covered database rotationId other) :
    Covered after rotationId other := by
  intro id found flagged
  obtain ⟨before, present, _⟩ := rewrites.flagged_after flagged
  exact rewrites.rotated.names_mono (covered id before present)

end

end Rewrites

end Rewrite

end Kestrel.Security
