import Kestrel.Security.RotationRuns

/-!
# Every record stays readable through its rotations

A record opens under the master of the latest journal that named it, or under the master that the
data had at first. While a journal is unfinished, what it has not named opens under its old master.
-/

namespace Kestrel.Security

open Option Service Database

variable {Master : Type}

section Contract

variable [DecidableEq Master]

def Row.opens (row : Row Master) (column : Column) (cipher : Cipher Master) : Option String :=
  (row.column column).bind cipher.decrypt

def OpensUnder (master : Master) (entry : Entry) (row : Row Master) (plaintext : String) : Prop :=
  ∃ cipher ∈ decryptCandidates master (entry.agentOf row),
    row.opens entry.contentColumn cipher = some plaintext

def OpensAnew (master : Master) (entry : Entry) (row : Row Master) (plaintext : String) : Prop :=
  row.opens entry.contentColumn (newCipher master (entry.agentOf row)) = some plaintext

/-- A journal owns the data: it is not completed and has named records. -/
def Database.Unfinished (database : Database Master) (rotationId : String) (journal : Journal) :
    Prop :=
  database.journals.row rotationId = some journal ∧ journal.status ≠ .completed ∧
    ∃ done ∈ database.progress, done.rotationId = rotationId

/-- A record with its original plaintext. -/
structure Readable (keys : Keys Master) (master : Master) (database : Database Master)
    (entry : Entry) (id : String) (row : Row Master) (plaintext : String) : Prop where
  unnamed : database.lastNaming entry id = none → OpensUnder master entry row plaintext
  named : ∀ rotationId, database.lastNaming entry id = some rotationId →
    ∃ journal newKey, database.journals.row rotationId = some journal ∧
      journal.newKeyHash = keys.hash newKey ∧ OpensAnew (keys.master newKey) entry row plaintext
  unfinished : ∀ rotationId journal oldKey newKey, database.Unfinished rotationId journal →
    journal.oldKeyHash = keys.hash oldKey → journal.newKeyHash = keys.hash newKey →
    (database.Names rotationId entry id → OpensAnew (keys.master newKey) entry row plaintext) ∧
      (¬ database.Names rotationId entry id →
        OpensUnder (keys.master oldKey) entry row plaintext) ∧
      (keys.master oldKey ≠ keys.master newKey →
        (OpensAnew (keys.master newKey) entry row plaintext ↔
          database.Names rotationId entry id))

/-- Rows and columns that are not flagged as encrypted are what they were. -/
structure Untouched (initial database : Database Master) : Prop where
  keys : ∀ name, (database.tables name).map Table.keys = (initial.tables name).map Table.keys
  rows : ∀ name id row, database.record name id = some row →
    ∃ was, initial.record name id = some was ∧ row.agentId = was.agentId ∧
      row.metadata = was.metadata ∧
      ∀ column, (¬ ∃ entry, initial.Flagged entry id was ∧ entry.table = name ∧
        entry.contentColumn = column) → row.column column = was.column column

structure Contract (keys : Keys Master) (initial : Database Master) (master : Master)
    (service : Service Master) : Prop where
  untouched : Untouched initial service.database
  readable : ∀ entry id was, initial.Flagged entry id was →
    ∃ row, service.database.Flagged entry id row ∧
      ∀ cipher plaintext, was.column entry.contentColumn = some (.token cipher plaintext) →
        Readable keys master service.database entry id row plaintext
  startBlocked : ∀ rotationId journal, service.database.Unfinished rotationId journal →
    ∀ id newKey dataKey outcome,
      service.apply keys (.start id newKey dataKey outcome) = service
  resumeBlocked : ∀ rotationId journal, service.database.Unfinished rotationId journal →
    ∀ id newKey dataKey outcome,
      service.apply keys (.resume id newKey dataKey outcome) = service ∨
        id = rotationId ∧ ∃ new old, newKey = some new ∧ dataKey = some old ∧
          journal.newKeyHash = keys.hash new ∧ journal.oldKeyHash = keys.hash old
  completed : ∀ command rotationId journal newKey,
    service.database.journals.row rotationId ≠ some journal →
    (service.apply keys command).database.journals.row rotationId = some journal →
    journal.status = .completed → journal.newKeyHash = keys.hash newKey →
    ∀ entry id row, (service.apply keys command).database.Flagged entry id row →
      ∃ plaintext, OpensAnew (keys.master newKey) entry row plaintext

end Contract

section Opening

variable [DecidableEq Master]

variable {row : Row Master} {cipher : Cipher Master} {plaintext : String} {master : Master}
  {entry : Entry}

theorem opens_eq_some_iff {column : Column} : row.opens column cipher = some plaintext ↔
      row.column column = some (.token cipher plaintext) := by
  simp only [Row.opens, bind_eq_some_iff, decrypt_eq_some_iff, exists_eq_right]

theorem opensAnew_iff : OpensAnew master entry row plaintext ↔ row.column entry.contentColumn =
        some (.token (newCipher master (entry.agentOf row)) plaintext) :=
  opens_eq_some_iff

theorem Turned.opensAnew (turned : Turned entry master row)
    : ∃ plaintext, OpensAnew master entry row plaintext := by
  obtain ⟨plaintext, content⟩ := turned
  exact ⟨plaintext, opensAnew_iff.mpr content⟩

theorem Turned.opensAnew_of_token (turned : Turned entry master row)
    (content : row.column entry.contentColumn = some (.token cipher plaintext)) :
    OpensAnew master entry row plaintext := by
  obtain ⟨inner, turned⟩ := turned
  rw [content, Option.some.injEq, Stored.token.injEq] at turned
  rw [opensAnew_iff, content, turned.1]

theorem opensUnder_of_token
    (content : row.column entry.contentColumn = some (.token cipher plaintext))
    (candidate : cipher ∈ decryptCandidates master (entry.agentOf row)) :
    OpensUnder master entry row plaintext :=
  ⟨cipher, candidate, opens_eq_some_iff.mpr content⟩

end Opening

section Records

variable {keys : Keys Master} {initial database : Database Master} {master : Master}

variable {id : String} {was : Row Master}

theorem Kept.stored (kept : Kept initial database) {name : TableName}
    (stored : initial.record name id = some was) :
    ∃ row, database.record name id = some row := by
  obtain ⟨table, found, present⟩ := bind_eq_some_iff.mp stored
  have keys := kept.keys name
  rw [found, map_some, map_eq_some_iff] at keys
  obtain ⟨current, foundNow, same⟩ := keys
  have member : id ∈ current.keys := by
    rw [same]
    exact Table.mem_keys_of_row present
  rw [Table.mem_keys, ne_none_iff_exists'] at member
  obtain ⟨row, presentNow⟩ := member
  exact ⟨row, by rw [record, foundNow, bind_some, presentNow]⟩

theorem Kept.flagged (kept : Kept initial database) {entry : Entry}
    (flagged : initial.Flagged entry id was) :
    ∃ row, database.Flagged entry id row ∧ entry.agentOf row = entry.agentOf was ∧
      ∀ cipher plaintext, was.column entry.contentColumn = some (.token cipher plaintext) →
        ∃ after, row.column entry.contentColumn = some (.token after plaintext) := by
  obtain ⟨row, stored⟩ := kept.stored flagged.stored
  obtain ⟨origin, present, agent, metadata, columns⟩ := kept.rows _ _ _ stored
  obtain rfl := Option.some.inj (present.symm.trans flagged.stored)
  have absent : (row.column entry.contentColumn).isNone =
      (origin.column entry.contentColumn).isNone := by
    obtain same | ⟨_, before, after, plaintext, left, right⟩ := columns entry.contentColumn
    · rw [same]
    · rw [left, right]
      rfl
  refine ⟨row, ⟨flagged.registered, stored,
    (Row.selects_congr entry metadata absent).trans flagged.selected⟩, ?_, ?_⟩
  · rw [Entry.agentOf, Entry.agentOf, agent]
  · intro cipher plaintext content
    obtain same | ⟨_, before, after, inner, left, right⟩ := columns entry.contentColumn
    · exact ⟨cipher, same.trans content⟩
    · rw [content, Option.some.injEq, Stored.token.injEq] at left
      exact ⟨after, by rw [right, left.2]⟩

theorem Recorded.newKey (recorded : Recorded keys initial database) {journal : Journal}
    (stored : database.journals.row id = some journal) :
    ∃ newKey, journal.newKeyHash = keys.hash newKey := by
  obtain ⟨⟨_, newKey, _, same⟩, _⟩ := recorded.journals id journal stored
  exact ⟨newKey, same⟩

variable [DecidableEq Master]

theorem Sound.readable {service : Service Master} (sound : Sound keys initial service)
    (sealed : initial.SealedUnder master) {entry : Entry} {row : Row Master}
    (flagged : service.database.Flagged entry id row) (origin : initial.Flagged entry id was)
    (agent : entry.agentOf row = entry.agentOf was) {before after : Cipher Master}
    {plaintext : String} (first : was.column entry.contentColumn = some (.token before plaintext))
    (content : row.column entry.contentColumn = some (.token after plaintext)) :
    Readable keys master service.database entry id row plaintext where
  unnamed := by
    intro unnamed
    obtain ⟨same, stored, kept⟩ := sound.recorded.untouched entry id row flagged unnamed
    obtain rfl := Option.some.inj (stored.symm.trans origin.stored)
    refine opensUnder_of_token (kept.trans first) ?_
    rw [agent]
    exact sealed.tokens entry id same before plaintext origin first
  named := by
    intro rotationId last
    obtain ⟨journal, stored⟩ := sound.recorded.known _ (names_of_lastNaming last)
    obtain ⟨newKey, hash⟩ := sound.recorded.newKey stored
    have turned :=
      sound.recorded.latest entry id row rotationId journal newKey flagged last stored hash
    exact ⟨journal, newKey, stored, hash, turned.opensAnew_of_token content⟩
  unfinished := by
    rintro rotationId journal oldKey newKey ⟨stored, unfinished, progressed⟩ oldHash newHash
    obtain ⟨owner, owned⟩ := sound.owned
    have unresolved := sound.recorded.unresolved stored unfinished progressed
    have ofNamed : service.database.Names rotationId entry id →
        OpensAnew (keys.master newKey) entry row plaintext := fun names =>
      (owned.rotated rotationId journal newKey entry id row stored unfinished newHash flagged
        names).opensAnew_of_token content
    have ofUnnamed : ¬ service.database.Names rotationId entry id →
        after ∈ decryptCandidates (keys.master oldKey) (entry.agentOf row) := by
      intro unnamed
      rw [owned.owner rotationId journal oldKey stored unfinished progressed oldHash]
      refine owned.waiting entry id row after plaintext flagged ?_ content
      intro other found present open_ names
      have same := sound.single other rotationId
        (sound.recorded.unresolved present open_ names.progressed) unresolved
      exact unnamed (same ▸ names)
    refine ⟨ofNamed, fun unnamed => opensUnder_of_token content (ofUnnamed unnamed), ?_⟩
    intro distinct
    refine ⟨?_, ofNamed⟩
    intro opens
    by_contra unnamed
    rw [opensAnew_iff, content, Option.some.injEq, Stored.token.injEq] at opens
    have candidate := ofUnnamed unnamed
    rw [opens.1] at candidate
    exact distinct (master_of_candidate candidate (newCipher_mem _ _))

omit [DecidableEq Master] in
theorem Kept.untouched (kept : Kept initial database) : Untouched initial database where
  keys := kept.keys
  rows := by
    intro name id row stored
    obtain ⟨was, origin, agent, metadata, columns⟩ := kept.rows name id row stored
    refine ⟨was, origin, agent, metadata, ?_⟩
    intro column unflagged
    obtain same | ⟨flagged, _⟩ := columns column
    · exact same
    · exact absurd flagged unflagged

end Records

section Blocking

variable {keys : Keys Master} {initial : Database Master} {service : Service Master}

variable {rotationId : String}

theorem Service.not_admits (resumeId : Option String)
    (unresolved : service.database.unresolved rotationId = true)
    (other : resumeId ≠ some rotationId) : ¬ service.admits resumeId = true := by
  intro admitted
  rw [admits, Bool.and_eq_true, Bool.not_eq_true'] at admitted
  have stored : rotationId ∈ service.database.journals.keys := by
    rw [Table.mem_keys]
    intro absent
    simp only [Database.unresolved, absent, any_none, Bool.false_eq_true] at unresolved
  refine List.any_eq_false.mp admitted.2 rotationId stored ?_
  simp only [unresolved, Bool.true_and, bne_iff_ne, ne_eq, other, not_false_eq_true]

theorem Service.given_eq_some {key : Option String} {value : String}
    (given : given key = some value) : key = some value :=
  (filter_eq_some_iff.mp given).1

variable [DecidableEq Master]

theorem Sound.startBlocked (sound : Sound keys initial service) {journal : Journal}
    (unfinished : service.database.Unfinished rotationId journal) (id : String)
    (newKey dataKey : Option String) (outcome : Write) :
    service.apply keys (.start id newKey dataKey outcome) = service := by
  have refused := not_admits none
    (sound.recorded.unresolved unfinished.1 unfinished.2.1 unfinished.2.2) (by simp)
  simp only [Service.apply, Service.startRotation]
  split
  · exact if_neg fun admitted => refused admitted.1
  · rfl

theorem Sound.resumeBlocked (sound : Sound keys initial service) {journal : Journal}
    (unfinished : service.database.Unfinished rotationId journal) (id : String)
    (newKey dataKey : Option String) (outcome : Write) :
    service.apply keys (.resume id newKey dataKey outcome) = service ∨
      id = rotationId ∧ ∃ new old, newKey = some new ∧ dataKey = some old ∧
        journal.newKeyHash = keys.hash new ∧ journal.oldKeyHash = keys.hash old := by
  simp only [Service.apply, Service.resumeRotation]
  split
  · rename_i found new old stored givenNew givenOld
    split_ifs with admitted
    · right
      obtain ⟨admits, _, newHash, oldHash⟩ := admitted
      have same : id = rotationId := by
        by_contra distinct
        exact not_admits (some id)
          (sound.recorded.unresolved unfinished.1 unfinished.2.1 unfinished.2.2)
          (fun same => distinct (Option.some.inj same)) admits
      subst same
      obtain rfl := Option.some.inj (stored.symm.trans unfinished.1)
      exact ⟨rfl, new, old, given_eq_some givenNew, given_eq_some givenOld,
        newHash.symm, oldHash.symm⟩
    · exact .inl rfl
  · exact .inl rfl

end Blocking

section Completion

variable {keys : Keys Master} {initial database : Database Master} {service : Service Master}

theorem Database.attempt_database (database : Database Master) (written : Option (Database Master))
    (next onError : Option (Task Master)) (outcome : Write) :
    (database.attempt written next onError outcome).database = database ∨
      written = some (database.attempt written next onError outcome).database := by
  let holds : Service Master → Prop := fun service =>
    service.database = database ∨ written = some service.database
  exact @attempt_keeps _ holds database written next onError (fun _ kept => kept)
    (.inl rfl) (fun after same => ⟨.inr same, .inr same⟩) outcome

variable {id rotationId : String} {journal : Journal}

variable {outcome : Write} {entry : Entry} {row : Row Master}

theorem journal_of_save {saved : Journal} {next onError : Option (Task Master)}
    (changed : database.journals.row rotationId ≠ some journal)
    (stored : (database.attempt (some (database.saveRotation id saved)) next onError
      outcome).database.journals.row rotationId = some journal) :
    rotationId = id ∧ journal = saved ∧
      (database.attempt (some (database.saveRotation id saved)) next onError outcome).database =
        database.saveRotation id saved := by
  obtain same | same :=
    database.attempt_database (some (database.saveRotation id saved)) next onError outcome
  · rw [same] at stored
    exact absurd stored changed
  · have same := (Option.some.inj same).symm
    rw [same, saved_row] at stored
    split_ifs at stored with sameId
    · exact ⟨sameId, (Option.some.inj stored).symm, same⟩
    · exact absurd stored changed

variable [DecidableEq Master]

theorem rotateRow_journals (task : Task Master) (entry : Entry) (already : List String)
    (selected : Selected Master) (rows : List (Selected Master)) (rest : List Entry)
    (outcome : Write) :
    (task.rotateRow database entry already selected rows rest outcome).database.journals =
      database.journals := by
  unfold Task.rotateRow
  split_ifs
  · rfl
  · split
    · rfl
    · rename_i content _
      obtain same | written := database.attempt_database
        (database.rotateRecord task.rotation.id entry selected.recordId content)
        (some (task.goTo (.rows entry already rows rest))) (some (task.goTo .failing)) outcome
      · rw [same]
      · exact (rotated_of_rotateRecord written).journals

omit [DecidableEq Master] in
theorem loadEntry_database (task : Task Master) (entry : Entry) (rest : List Entry)
    (outcome : Write) : (task.loadEntry database entry rest outcome).database = database := by
  unfold Task.loadEntry
  split
  · obtain same | written :=
      database.attempt_database none none (some (task.goTo .failing)) outcome
    · exact same
    · exact absurd written.symm (some_ne_none _)
  · rename_i rows _
    obtain same | written := database.attempt_database (some database)
      (some (task.goTo (.rows entry (database.alreadyRotated task.rotation.id entry) rows rest)))
      (some (task.goTo .failing)) outcome
    · exact same
    · exact (Option.some.inj written).symm

omit [DecidableEq Master] in
theorem launch_not_completed {id newKey oldKey rotationId : String} {journal : Journal}
    {outcome : Write} (changed : service.database.journals.row rotationId ≠ some journal)
    (stored : (service.launch keys id newKey oldKey outcome).database.journals.row rotationId =
      some journal) : journal.status ≠ .completed := by
  obtain ⟨_, rfl, _⟩ := journal_of_save changed stored
  simp [Task.journal]

/-- A journal becomes completed where every flagged record was named by it. -/
theorem Sound.advance_completed {task : Task Master}
    (sound : Sound keys initial { database := database, task := some task }) {newKey : String}
    (changed : database.journals.row rotationId ≠ some journal)
    (stored : (task.advance database outcome).database.journals.row rotationId = some journal)
    (completed : journal.status = .completed) (hash : journal.newKeyHash = keys.hash newKey)
    (flagged : (task.advance database outcome).database.Flagged entry id row) :
    ∃ plaintext, OpensAnew (keys.master newKey) entry row plaintext := by
  have working := sound.working task rfl
  have covered := working.progressed
  unfold Task.advance at stored flagged
  cases phase : task.phase with
  | tables rest =>
    simp only [phase] at stored
    cases rest with
    | nil => exact absurd stored changed
    | cons first rest =>
      rw [loadEntry_database] at stored
      exact absurd stored changed
  | rows first already rows rest =>
    simp only [phase] at stored
    cases rows with
    | nil => exact absurd stored changed
    | cons selected rows =>
      rw [rotateRow_journals] at stored
      exact absurd stored changed
  | failing =>
    simp only [phase] at stored
    obtain ⟨_, rfl, _⟩ := journal_of_save changed stored
    simp [Task.journal] at completed
  | completing =>
    simp only [phase] at stored flagged
    rw [phase] at covered
    obtain ⟨rfl, rfl, same⟩ := journal_of_save changed stored
    rw [same, flagged_saved] at flagged
    obtain ⟨master, owned⟩ := sound.owned
    exact (owned.rotated _ _ newKey entry id row (working.running (by simp [phase]))
      (by simp [Task.journal]) hash flagged
      (covered entry flagged.registered id row flagged)).opensAnew

theorem Sound.completed (sound : Sound keys initial service) {command : Command} {newKey : String}
    (changed : service.database.journals.row rotationId ≠ some journal)
    (stored : (service.apply keys command).database.journals.row rotationId = some journal)
    (completed : journal.status = .completed) (hash : journal.newKeyHash = keys.hash newKey)
    (flagged : (service.apply keys command).database.Flagged entry id row) :
    ∃ plaintext, OpensAnew (keys.master newKey) entry row plaintext := by
  cases command with
  | start newId given dataKey outcome =>
    simp only [Service.apply, Service.startRotation] at stored
    split at stored
    · split_ifs at stored
      · exact absurd completed (launch_not_completed changed stored)
      · exact absurd stored changed
    · exact absurd stored changed
  | resume newId given dataKey outcome =>
    simp only [Service.apply, Service.resumeRotation] at stored
    split at stored
    · split_ifs at stored
      · exact absurd completed (launch_not_completed changed stored)
      · exact absurd stored changed
    · exact absurd stored changed
  | advance outcome =>
    obtain ⟨database, task⟩ := service
    cases task with
    | none => exact absurd stored changed
    | some task => exact sound.advance_completed changed stored completed hash flagged
  | stop => exact absurd stored changed

end Completion

section Runs

variable [DecidableEq Master]

/-- Whatever is started, resumed, interrupted or failing, the records stay readable, the data has
one owner, and a completed rotation has turned every record. -/
theorem rotation_keeps_records_readable (keys : Keys Master) (initial : Database Master)
    (master : Master) (sealed : initial.SealedUnder master) (commands : List Command)
    (service : Service Master)
    (run : Transition.Run (Transition.ofFunction (Service.apply keys))
      { database := initial, task := none } commands service) :
    Contract keys initial master service := by
  have sound := Sound.run sealed run
  refine ⟨sound.recorded.kept.untouched, ?_, ?_, ?_, ?_⟩
  · intro entry id was origin
    obtain ⟨row, flagged, agent, tokens⟩ := sound.recorded.kept.flagged origin
    refine ⟨row, flagged, ?_⟩
    intro cipher plaintext first
    obtain ⟨after, content⟩ := tokens cipher plaintext first
    exact sound.readable sealed flagged origin agent first content
  · exact fun rotationId journal unfinished => sound.startBlocked unfinished
  · exact fun rotationId journal unfinished => sound.resumeBlocked unfinished
  · intro command rotationId journal newKey changed stored completed hash entry id row flagged
    exact sound.completed changed stored completed hash flagged

end Runs

section Samples

/-- Keys that are their own masters and fingerprints. -/
def Keys.plain : Keys String where
  valid := fun _ => true
  master := id
  hash := id
  hash_injective := Function.injective_id

/-- One message of an agent under the key `old`. -/
def Database.oneMessage : Database String where
  tables
    | .conversationHistory =>
      some (Table.empty.insert "1"
        { agentId := some "agent"
          metadata := .object true
          column := fun
            | .content => some (.token (.agent "old" "agent") "hello")
            | _ => none })
    | .files => some .empty
    | _ => none
  journals := .empty
  progress := []

theorem Database.oneMessage_sealed : oneMessage.SealedUnder "old" where
  journals := rfl
  progress := rfl
  tokens := by
    rintro entry id row cipher plaintext ⟨registered, stored, _⟩ content
    simp only [encryptedTables, List.mem_cons, List.not_mem_nil, or_false] at registered
    obtain rfl | rfl | rfl | rfl | rfl := registered <;>
      simp [record, oneMessage, Table.row_insert] at stored <;>
      obtain ⟨_, rfl⟩ := stored <;> simp_all [decryptCandidates, Entry.agentOf, filter_some]

/-- A rotation of one message to the key `new` that is interrupted after its row and resumed. -/
def Command.interrupted : List Command :=
  [.start "r" (some "new") (some "old") .done, .advance .done, .advance (.stopped true),
    .resume "r" (some "new") (some "old") .done, .advance .done, .advance .done, .advance .done,
    .advance .done, .advance .done, .advance .done, .advance .done, .advance .done, .advance .done,
    .advance .done, .advance .done, .advance .done, .advance .done]

theorem rotation_keeps_records_readable_interrupted : Contract Keys.plain Database.oneMessage "old"
        (Command.interrupted.foldl (Service.apply Keys.plain)
          { database := oneMessage, task := none }) ∧
      ((Command.interrupted.foldl (apply Keys.plain)
        { database := oneMessage, task := none }).database.journals.row "r").map
          Journal.status = some .completed :=
  ⟨rotation_keeps_records_readable Keys.plain oneMessage "old"
    oneMessage_sealed Command.interrupted _ (Transition.Run.replay _ _ _),
    by decide +kernel⟩

/-- A record opens under the new master of a journal exactly where the journal names it. -/
def OpensWhereNamed (keys : Keys String) (database : Database String) : Prop :=
  ∀ rotationId journal newKey entry id row cipher plaintext,
    database.journals.row rotationId = some journal → journal.newKeyHash = keys.hash newKey →
    database.Flagged entry id row →
    row.column entry.contentColumn = some (.token cipher plaintext) →
    (OpensAnew (keys.master newKey) entry row plaintext ↔ database.Names rotationId entry id)

/-- A rotation under one key, as the upgrade of the token format runs it, finds records that open
under its new master before it names them. -/
theorem same_key_opens_unnamed : ¬ ∀ commands service,
      Transition.Run (Transition.ofFunction (Service.apply Keys.plain))
        { database := oneMessage, task := none } commands service →
      OpensWhereNamed Keys.plain service.database := by
  intro claim
  have started := claim [.start "r" (some "old") (some "old") .done] _ (Transition.Run.replay _ _ _)
  have opens := started "r" ⟨"old", "old", .inProgress⟩ "old"
    { table := .conversationHistory
      contentColumn := .content
      agentIdColumn := true } "1"
    { agentId := some "agent"
      metadata := .object true
      column := fun
        | .content => some (.token (.agent "old" "agent") "hello")
        | _ => none }
    (.agent "old" "agent") "hello" (by decide +kernel) rfl ⟨by decide, rfl, rfl⟩ rfl
  exact absurd (opens.mp rfl) List.not_mem_nil

end Samples

end Kestrel.Security
