import Kestrel.Base.Rows
import Kestrel.Base.Run
import Kestrel.Security.RotationInvariant

/-!
# Runs of the rotation service

A pass knows which flagged records it has still to visit. The service keeps the history and the
master of the data over every operation, however it ends.
-/

namespace Kestrel.Security

open List Option Database Entry Service Table

variable {Master : Type}

/-- The rows that a pass has still to visit, as it read them. -/
structure Pending (database : Database Master) (rotationId : String) (entry : Entry)
    (already : List String) (rows : List (Selected Master)) : Prop where
  nodup : (rows.map Selected.recordId).Nodup
  rest : ∀ id row, database.Flagged entry id row →
    database.Names rotationId entry id ∨ id ∈ rows.map Selected.recordId
  current : ∀ selected ∈ rows, ∃ row, database.Flagged entry selected.recordId row ∧
    selected.content = row.column entry.contentColumn ∧ selected.agentId = entry.agentOf row
  named : ∀ selected ∈ rows, selected.recordId ∈ already →
    database.Names rotationId entry selected.recordId

def Progressed (database : Database Master) (rotationId : String) : Phase Master → Prop
  | .tables rest => ∃ done, encryptedTables = done ++ rest ∧
      ∀ entry ∈ done, Covered database rotationId entry
  | .rows entry already rows rest => ∃ done, encryptedTables = done ++ entry :: rest ∧
      (∀ entry ∈ done, Covered database rotationId entry) ∧
      Pending database rotationId entry already rows
  | .completing => ∀ entry ∈ encryptedTables, Covered database rotationId entry
  | .failing => True

/-- The journal of a task is in progress, unless its completion was saved and reported as failed. -/
def Journaled (database : Database Master) (task : Task Master) : Prop :=
  database.journals.row task.rotation.id = some (task.journal .inProgress) ∨
    task.phase = .failing ∧
      database.journals.row task.rotation.id = some (task.journal .completed) ∧
      (∀ entry ∈ encryptedTables, Covered database task.rotation.id entry) ∧
      ∀ entry id row, database.Flagged entry id row → Turned entry task.rotation.newMaster row

structure Working (keys : Keys Master) (database : Database Master) (task : Task Master) : Prop where
  journaled : Journaled database task
  keyed : ∃ oldKey newKey, task.rotation.oldKeyHash = keys.hash oldKey ∧
    task.rotation.oldMaster = keys.master oldKey ∧ task.rotation.newKeyHash = keys.hash newKey ∧
    task.rotation.newMaster = keys.master newKey
  alone : Alone database task.rotation.id
  progressed : Progressed database task.rotation.id task.phase

/-- The service with its database, between two operations. -/
structure Sound (keys : Keys Master) (initial : Database Master) (service : Service Master) :
    Prop where
  recorded : Recorded keys initial service.database
  owned : ∃ master, Owned keys master service.database
  single : ∀ first second, service.database.unresolved first = true →
    service.database.unresolved second = true → first = second
  working : ∀ task, service.task = some task → Working keys service.database task

section Attempt

/-- A predicate kept by the loss of the task is kept by an operation, if it holds where the
operation is not applied and where it is. -/
theorem Database.attempt_keeps {holds : Service Master → Prop} {database : Database Master}
    {written : Option (Database Master)} {next onError : Option (Task Master)}
    (dropped : ∀ service, holds service → holds { service with task := none })
    (refused : holds { database := database, task := onError })
    (applied : ∀ after, written = some after →
      holds { database := after, task := next } ∧ holds { database := after, task := onError })
    (outcome : Write) : holds (database.attempt written next onError outcome) := by
  have either : ∀ done : Bool,
      holds { database := if done then written.getD database else database, task := onError } := by
    intro done
    cases done with
    | false => exact refused
    | true =>
      cases wrote : written with
      | none => exact refused
      | some after => exact (applied after wrote).2
  cases outcome with
  | done =>
    cases wrote : written with
    | none => exact refused
    | some after => exact (applied after wrote).1
  | raised done => exact either done
  | stopped done => exact dropped _ (either done)

theorem Sound.dropped {keys : Keys Master} {initial : Database Master} {service : Service Master}
    (sound : Sound keys initial service) : Sound keys initial { service with task := none } where
  recorded := sound.recorded
  owned := sound.owned
  single := sound.single
  working := fun _ running => nomatch running

end Attempt

section Load

variable {entry : Entry} {table : Table String (Row Master)} {rows : List (Selected Master)}
  {database : Database Master}

theorem Entry.encryptedRows_eq_some (loaded : entry.encryptedRows table = some rows) :
    rows = table.keys.filterMap fun id => (table.row id).bind (entry.select id) := by
  unfold encryptedRows at loaded
  dsimp only at loaded
  split_ifs at loaded
  obtain rfl := Option.some.inj loaded
  unfold rows
  rw [filterMap_filterMap]
  congr 1
  funext id
  cases table.row id <;> rfl

variable {id : String} {row : Row Master} {selected : Selected Master}

theorem Entry.select_eq_some (chosen : entry.select id row = some selected) :
    entry.selects row = some true ∧ selected.recordId = id ∧
      selected.content = row.column entry.contentColumn ∧ selected.agentId = entry.agentOf row := by
  unfold select at chosen
  split_ifs at chosen with flagged
  obtain rfl := Option.some.inj chosen
  exact ⟨flagged, rfl, rfl, rfl⟩

theorem flagged_of_mem_encryptedRows (registered : entry ∈ encryptedTables)
    (found : database.tables entry.table = some table)
    (loaded : entry.encryptedRows table = some rows) (member : selected ∈ rows) :
    ∃ row, database.Flagged entry selected.recordId row ∧
      selected.content = row.column entry.contentColumn ∧ selected.agentId = entry.agentOf row := by
  rw [encryptedRows_eq_some loaded, mem_filterMap] at member
  obtain ⟨id, _, chosen⟩ := member
  obtain ⟨row, stored, chosen⟩ := bind_eq_some_iff.mp chosen
  obtain ⟨flagged, rfl, content, agent⟩ := select_eq_some chosen
  refine ⟨row, ⟨registered, ?_, flagged⟩, content, agent⟩
  rw [record, found, bind_some, stored]

theorem mem_encryptedRows_of_flagged (found : database.tables entry.table = some table)
    (loaded : entry.encryptedRows table = some rows) (flagged : database.Flagged entry id row) :
    id ∈ rows.map Selected.recordId := by
  have stored := flagged.stored
  rw [record, found, bind_some] at stored
  let selected : Selected Master := ⟨id, row.column entry.contentColumn, entry.agentOf row⟩
  have chosen : (table.row id).bind (entry.select id) = some selected := by
    rw [stored, bind_some, select, if_pos flagged.selected]
  refine mem_map.mpr ⟨selected, ?_, rfl⟩
  rw [encryptedRows_eq_some loaded]
  exact mem_filterMap.mpr ⟨id, mem_keys_of_row stored, chosen⟩

/-- A pass starts with every record that is not named. -/
theorem pending_of_entryRows (registered : entry ∈ encryptedTables)
    (loaded : database.entryRows entry = some rows) (rotationId : String) :
    Pending database rotationId entry (database.alreadyRotated rotationId entry) rows := by
  have named : ∀ selected ∈ rows, selected.recordId ∈ database.alreadyRotated rotationId entry →
      database.Names rotationId entry selected.recordId := by
    intro selected _ already
    obtain ⟨done, chosen, same⟩ := mem_map.mp already
    obtain ⟨member, test⟩ := mem_filter.mp chosen
    simp only [Bool.and_eq_true, decide_eq_true_eq] at test
    unfold Names
    rw [← same, ← test.1, ← test.2]
    exact member
  unfold entryRows at loaded
  cases found : database.tables entry.table with
  | none =>
    simp only [found, ite_none_right_eq_some, Option.some.injEq] at loaded
    obtain ⟨_, rfl⟩ := loaded
    refine ⟨nodup_nil, ?_, fun _ member => absurd member not_mem_nil, named⟩
    intro id row flagged
    have stored := flagged.stored
    rw [record, found] at stored
    exact absurd stored.symm (some_ne_none row)
  | some table =>
    simp only [found] at loaded
    refine ⟨?_, ?_, ?_, named⟩
    · rw [encryptedRows_eq_some loaded]
      refine (Rows.map_filterMap_sublist ?_ table.keys).nodup table.nodup
      intro id selected chosen
      obtain ⟨row, _, chosen⟩ := bind_eq_some_iff.mp chosen
      exact (select_eq_some chosen).2.1
    · exact fun id row flagged => .inr (mem_encryptedRows_of_flagged found loaded flagged)
    · exact fun selected member => flagged_of_mem_encryptedRows registered found loaded member

end Load

section Tasks

variable {keys : Keys Master} {initial database : Database Master} {task : Task Master}

variable {rest : List Entry} {entry : Entry} {id : String} {already : List String}
  {selected : Selected Master} {rows : List (Selected Master)}

theorem registered_of_split {done : List Entry} (split : encryptedTables = done ++ entry :: rest)
    : entry ∈ encryptedTables := by
  rw [split]
  exact mem_append_right _ mem_cons_self

theorem Working.running (working : Working keys database task) (going : task.phase ≠ .failing) :
    database.journals.row task.rotation.id = some (task.journal .inProgress) := by
  obtain running | ⟨failing, _⟩ := working.journaled
  · exact running
  · exact absurd failing going

theorem Working.goTo (working : Working keys database task) (going : task.phase ≠ .failing)
    {phase : Phase Master} (progressed : Progressed database task.rotation.id phase) :
    Working keys database (task.goTo phase) where
  journaled := .inl (working.running going)
  keyed := working.keyed
  alone := working.alone
  progressed := progressed

theorem Sound.goTo (sound : Sound keys initial { database := database, task := some task })
    (going : task.phase ≠ .failing) (phase : Phase Master)
    (progressed : Progressed database task.rotation.id phase) :
    Sound keys initial { database := database, task := some (task.goTo phase) } where
  recorded := sound.recorded
  owned := sound.owned
  single := sound.single
  working := by
    intro other running
    obtain rfl := Option.some.inj running
    exact (sound.working task rfl).goTo going progressed

theorem single_of_alone (alone : Alone database id) (first second : String)
    (left : database.unresolved first = true) (right : database.unresolved second = true) :
    first = second :=
  (alone first left).trans (alone second right).symm

theorem Alone.saved (alone : Alone database id) (journal : Journal) :
    Alone (database.saveRotation id journal) id := by
  intro other unresolved
  by_contra distinct
  refine distinct (alone other ?_)
  unfold Database.unresolved at unresolved ⊢
  rw [saved_row, if_neg distinct] at unresolved
  exact unresolved

theorem covered_saved {rotationId : String} {journal : Journal} :
    Covered (database.saveRotation id journal) rotationId entry ↔
      Covered database rotationId entry :=
  ⟨fun covered recordId row flagged => covered recordId row (flagged_saved.mpr flagged),
    fun covered recordId row flagged => covered recordId row (flagged_saved.mp flagged)⟩

theorem Sound.loadEntry (sound : Sound keys initial { database := database, task := some task })
    (phase : task.phase = .tables (entry :: rest)) (outcome : Write)
    : Sound keys initial (task.loadEntry database entry rest outcome) := by
  have going : task.phase ≠ .failing := by simp [phase]
  have progressed := (sound.working task rfl).progressed
  rw [phase] at progressed
  obtain ⟨done, split, covered⟩ := progressed
  have failing := sound.goTo going .failing trivial
  unfold Task.loadEntry
  cases loaded : database.entryRows entry with
  | none =>
    refine attempt_keeps (fun _ => Sound.dropped) failing ?_ outcome
    exact fun after impossible => absurd impossible.symm (some_ne_none after)
  | some rows =>
    refine attempt_keeps (fun _ => Sound.dropped) failing ?_ outcome
    intro after same
    obtain rfl := Option.some.inj same
    refine ⟨sound.goTo going _ ⟨done, split, covered, ?_⟩, failing⟩
    exact pending_of_entryRows (registered_of_split split) loaded task.rotation.id

theorem Working.rewrites [DecidableEq Master] (working : Working keys database task)
    (phase : task.phase = .rows entry already (selected :: rows) rest) {content : Stored Master}
    {after : Database Master}
    (rewritten : selected.reencrypt task.rotation.oldMaster task.rotation.newMaster = some content)
    (written : database.rotateRecord task.rotation.id entry selected.recordId content =
      some after) :
    ∃ oldKey newKey row cipher plaintext,
      Rewrites keys database task.rotation.id oldKey newKey entry selected.recordId row after cipher
        plaintext := by
  have running := working.running (by simp [phase])
  have progressed := working.progressed
  rw [phase] at progressed
  obtain ⟨_, _, _, pending⟩ := progressed
  obtain ⟨row, flagged, stored, agent⟩ := pending.current selected mem_cons_self
  obtain ⟨cipher, candidate, plaintext, opened, rfl⟩ := Selected.reencrypt_eq_some rewritten
  obtain ⟨oldKey, newKey, oldHash, oldMaster, newHash, newMaster⟩ := working.keyed
  rw [oldMaster, agent] at candidate
  rw [newMaster, agent] at written
  exact ⟨oldKey, newKey, row, cipher, plaintext,
    { flagged := flagged
      opened := stored.symm.trans opened
      candidate := candidate
      rotated := rotated_of_rotateRecord written
      journal := ⟨_, running, by simp [Task.journal], oldHash, newHash⟩ }⟩

theorem Pending.rotated {rotationId oldKey newKey : String} {row : Row Master}
    {after : Database Master} {cipher : Cipher Master} {plaintext : String}
    (pending : Pending database rotationId entry already (selected :: rows))
    (rewrites : Rewrites keys database rotationId oldKey newKey entry selected.recordId row after
      cipher plaintext) :
    Pending after rotationId entry already rows where
  nodup := (nodup_cons.mp pending.nodup).2
  rest := by
    intro id found flagged
    obtain ⟨before, present, _⟩ := rewrites.flagged_after flagged
    obtain named | waiting := pending.rest id before present
    · exact .inl (rewrites.rotated.names_mono named)
    · obtain rfl | later := mem_cons.mp waiting
      · exact .inl rewrites.rotated.names_self
      · exact .inr later
  current := by
    intro other member
    obtain ⟨found, flagged, content, agent⟩ :=
      pending.current other (mem_cons_of_mem _ member)
    have distinct : other.recordId ≠ selected.recordId := by
      intro same
      exact (nodup_cons.mp pending.nodup).1
        (same ▸ mem_map_of_mem (f := Selected.recordId) member)
    exact ⟨found, rewrites.flagged_before flagged distinct, content, agent⟩
  named := fun other member was =>
    rewrites.rotated.names_mono (pending.named other (mem_cons_of_mem _ member) was)

section

variable (sound : Sound keys initial { database := database, task := some task })

include sound

theorem Sound.rotateRow [DecidableEq Master]
    (phase : task.phase = .rows entry already (selected :: rows) rest) (outcome : Write) :
    Sound keys initial (task.rotateRow database entry already selected rows rest outcome) := by
  have going : task.phase ≠ .failing := by simp [phase]
  have working := sound.working task rfl
  have progressed := working.progressed
  rw [phase] at progressed
  obtain ⟨done, split, covered, pending⟩ := progressed
  have failing := sound.goTo going .failing trivial
  have skipped : database.Names task.rotation.id entry selected.recordId →
      Pending database task.rotation.id entry already rows := by
    intro named
    refine ⟨(nodup_cons.mp pending.nodup).2, ?_,
      fun other member => pending.current other (mem_cons_of_mem _ member),
      fun other member => pending.named other (mem_cons_of_mem _ member)⟩
    intro id row flagged
    obtain done | waiting := pending.rest id row flagged
    · exact .inl done
    · obtain rfl | later := mem_cons.mp waiting
      · exact .inl named
      · exact .inr later
  unfold Task.rotateRow
  split_ifs with named
  · have next := sound.goTo going (.rows entry already rows rest)
      ⟨done, split, covered, skipped (pending.named selected mem_cons_self named)⟩
    dsimp only
    split_ifs
    · exact failing
    · exact next
  · cases rewritten : selected.reencrypt task.rotation.oldMaster task.rotation.newMaster with
    | none => exact failing
    | some content =>
      refine attempt_keeps (fun _ => Sound.dropped) failing ?_ outcome
      intro after written
      obtain ⟨oldKey, newKey, row, cipher, plaintext, rewrites⟩ :=
        working.rewrites phase rewritten written
      obtain ⟨master, owned⟩ := sound.owned
      have alone := rewrites.alone working.alone
      have moved : ∀ phase, Progressed after task.rotation.id phase →
          Sound keys initial { database := after, task := some (task.goTo phase) } := by
        intro phase progressed
        refine ⟨rewrites.recorded sound.recorded,
          ⟨master, rewrites.owned sound.recorded working.alone owned⟩, single_of_alone alone, ?_⟩
        intro other running
        obtain rfl := Option.some.inj running
        refine ⟨.inl ?_, working.keyed, alone, progressed⟩
        rw [rewrites.rotated.journals]
        exact working.running going
      refine ⟨moved _ ⟨done, split, ?_, pending.rotated rewrites⟩, moved .failing trivial⟩
      exact fun entry member => rewrites.covered (covered entry member)

theorem Sound.complete (phase : task.phase = .completing) (outcome : Write) : Sound keys initial
      (database.attempt (some (database.saveRotation task.rotation.id (task.journal .completed)))
        none (some (task.goTo .failing)) outcome) := by
  have going : task.phase ≠ .failing := by simp [phase]
  have working := sound.working task rfl
  have running := working.running going
  have covered := working.progressed
  rw [phase] at covered
  obtain ⟨oldKey, newKey, oldHash, oldMaster, newHash, newMaster⟩ := working.keyed
  obtain ⟨master, owned⟩ := sound.owned
  have unfinished : (task.journal .inProgress).status ≠ .completed := by simp [Task.journal]
  refine attempt_keeps (fun _ => Sound.dropped) (sound.goTo going .failing trivial) ?_ outcome
  intro after same
  obtain rfl := Option.some.inj same
  have alone := working.alone.saved (task.journal .completed)
  have recorded : Recorded keys initial
      (database.saveRotation task.rotation.id (task.journal .completed)) := by
    refine sound.recorded.save ⟨oldKey, newKey, oldHash, newHash⟩ (.inr (.inl rfl)) ?_
    intro before stored
    rw [running, Option.some.injEq] at stored
    rw [← stored]
    rfl
  have failing : Sound keys initial
      { database := database.saveRotation task.rotation.id (task.journal .completed)
        task := some (task.goTo .failing) } := by
    refine ⟨recorded, ⟨_, owned.complete sound.recorded working.alone running unfinished newHash
      covered rfl⟩, single_of_alone alone, ?_⟩
    intro other found
    obtain rfl := Option.some.inj found
    refine ⟨.inr ⟨rfl, ?_, ?_, ?_⟩, working.keyed, alone, trivial⟩
    · exact (saved_row _ _ _ _).trans (if_pos rfl)
    · exact fun entry member => covered_saved.mpr (covered entry member)
    · intro entry id row flagged
      rw [flagged_saved] at flagged
      change Turned entry task.rotation.newMaster row
      rw [newMaster]
      exact owned.rotated _ _ newKey entry id row running unfinished newHash flagged
        (covered entry flagged.registered id row flagged)
  exact ⟨failing.dropped, failing⟩

theorem Sound.fail (outcome : Write) : Sound keys initial
      (database.attempt (some (database.saveRotation task.rotation.id (task.journal .failed)))
        none none outcome) := by
  have working := sound.working task rfl
  obtain ⟨oldKey, newKey, oldHash, oldMaster, newHash, newMaster⟩ := working.keyed
  have unfinished : (task.journal .failed).status ≠ .completed := by simp [Task.journal]
  refine attempt_keeps (fun _ => Sound.dropped) sound.dropped ?_ outcome
  intro after same
  obtain rfl := Option.some.inj same
  have recorded : Recorded keys initial
      (database.saveRotation task.rotation.id (task.journal .failed)) := by
    refine sound.recorded.save ⟨oldKey, newKey, oldHash, newHash⟩ (.inr (.inr rfl)) ?_
    intro before stored
    obtain running | ⟨_, completed, _⟩ := working.journaled
    · rw [running, Option.some.injEq] at stored
      rw [← stored]
      rfl
    · rw [completed, Option.some.injEq] at stored
      rw [← stored]
      rfl
  have owned : ∃ master, Owned keys master
      (database.saveRotation task.rotation.id (task.journal .failed)) := by
    obtain running | ⟨_, completed, covered, turned⟩ := working.journaled
    · obtain ⟨master, owned⟩ := sound.owned
      refine ⟨master, owned.save sound.recorded unfinished ?_⟩
      intro before stored
      rw [running, Option.some.injEq] at stored
      rw [← stored]
      exact ⟨by simp [Task.journal], rfl, rfl⟩
    · rw [newMaster] at turned
      exact ⟨_, Owned.reopen sound.recorded working.alone oldHash newHash unfinished covered turned⟩
  have stopped : Sound keys initial
      { database := database.saveRotation task.rotation.id (task.journal .failed), task := none } :=
    ⟨recorded, owned, single_of_alone (working.alone.saved _), fun _ running => nomatch running⟩
  exact ⟨stopped, stopped⟩

theorem Sound.advance [DecidableEq Master] (outcome : Write)
    : Sound keys initial (task.advance database outcome) := by
  have progressed := (sound.working task rfl).progressed
  unfold Task.advance
  cases phase : task.phase with
  | tables rest =>
    have going : task.phase ≠ .failing := by simp [phase]
    cases rest with
    | nil =>
      rw [phase] at progressed
      obtain ⟨done, split, covered⟩ := progressed
      rw [append_nil] at split
      exact sound.goTo going .completing (fun entry member => covered entry (split ▸ member))
    | cons entry rest => exact sound.loadEntry phase outcome
  | rows entry already rows rest =>
    have going : task.phase ≠ .failing := by simp [phase]
    cases rows with
    | nil =>
      rw [phase] at progressed
      obtain ⟨done, split, covered, pending⟩ := progressed
      refine sound.goTo going (.tables rest) ⟨done ++ [entry], by rw [split, append_cons], ?_⟩
      intro other member
      obtain old | last := mem_append.mp member
      · exact covered other old
      · obtain rfl := mem_singleton.mp last
        intro id row flagged
        exact (pending.rest id row flagged).resolve_right not_mem_nil
    | cons selected rows => exact sound.rotateRow phase outcome
  | completing => exact sound.complete phase outcome
  | failing => exact sound.fail outcome

end

end Tasks

section Service

variable {keys : Keys Master} {initial : Database Master} {service : Service Master}

variable {id : String} {database : Database Master} {master : Master}

theorem Service.alone_of_admits (admitted : service.admits (some id) = true) :
    Alone service.database id := by
  intro other unresolved
  by_contra distinct
  rw [Service.admits, Bool.and_eq_true, Bool.not_eq_true'] at admitted
  have stored : other ∈ service.database.journals.keys := by
    rw [Table.mem_keys]
    intro absent
    simp only [Database.unresolved, absent, any_none, Bool.false_eq_true] at unresolved
  have refused := any_eq_false.mp admitted.2 other stored
  simp only [unresolved, Bool.true_and, bne_iff_ne, ne_eq, Option.some.injEq, not_not] at refused
  exact distinct refused.symm

theorem Service.admits_of_admits_none (admitted : service.admits none = true) (id : String) :
    service.admits (some id) = true := by
  rw [admits, Bool.and_eq_true, Bool.not_eq_true'] at admitted ⊢
  refine ⟨admitted.1, any_eq_false.mpr ?_⟩
  intro other stored unresolved
  refine any_eq_false.mp admitted.2 other stored ?_
  rw [Bool.and_eq_true] at unresolved ⊢
  exact ⟨unresolved.1, rfl⟩

theorem Sound.launch (sound : Sound keys initial service) {newKey oldKey : String}
    (alone : Alone service.database id)
    (same : ∀ before, service.database.journals.row id = some before →
      before.status ≠ .completed ∧ before.oldKeyHash = keys.hash oldKey ∧
        before.newKeyHash = keys.hash newKey) (outcome : Write) :
    Sound keys initial (service.launch keys id newKey oldKey outcome) := by
  unfold Service.launch
  refine attempt_keeps (fun _ => Sound.dropped) sound.dropped ?_ outcome
  intro after applied
  obtain rfl := Option.some.inj applied
  obtain ⟨master, owned⟩ := sound.owned
  have started : Sound keys initial
      { database := service.database.saveRotation id
          ((Task.opening keys id newKey oldKey).journal .inProgress)
        task := some (Task.opening keys id newKey oldKey) } := by
    refine ⟨?_, ⟨master, ?_⟩, single_of_alone (alone.saved _), ?_⟩
    · exact sound.recorded.save ⟨oldKey, newKey, rfl, rfl⟩ (.inl rfl)
        fun before stored => (same before stored).2.2
    · exact owned.save sound.recorded (by simp [Task.journal]) same
    · intro task running
      obtain rfl := Option.some.inj running
      refine ⟨.inl ?_, ⟨oldKey, newKey, rfl, rfl, rfl, rfl⟩, alone.saved _, [], rfl, ?_⟩
      · exact (saved_row _ _ _ _).trans (if_pos rfl)
      · exact fun entry member => absurd member not_mem_nil
  exact ⟨started, started.dropped⟩

theorem Sound.apply [DecidableEq Master] (sound : Sound keys initial service) (command : Command) :
    Sound keys initial (service.apply keys command) := by
  cases command with
  | start id newKey dataKey outcome =>
    simp only [Service.apply, Service.startRotation]
    split
    · split_ifs with admitted
      · refine sound.launch
          (alone_of_admits (admits_of_admits_none admitted.1 id)) ?_ outcome
        intro before stored
        exact absurd (mem_keys_of_row stored) admitted.2.2.1
      · exact sound
    · exact sound
  | resume id newKey dataKey outcome =>
    simp only [Service.apply, Service.resumeRotation]
    split
    · rename_i journal given old stored _ _
      split_ifs with admitted
      · obtain ⟨admits, status, newHash, oldHash⟩ := admitted
        refine sound.launch (alone_of_admits admits) ?_ outcome
        intro before found
        obtain rfl := Option.some.inj (found.symm.trans stored)
        refine ⟨?_, oldHash.symm, newHash.symm⟩
        obtain running | failed := status
        · simp [running]
        · simp [failed]
      · exact sound
    · exact sound
  | advance outcome =>
    obtain ⟨database, task⟩ := service
    cases task with
    | none => exact sound
    | some task => exact sound.advance outcome
  | stop => exact sound.dropped

/-- The database before the first rotation: every flagged record is NULL, damaged or under one
master. -/
structure Database.SealedUnder (database : Database Master) (master : Master) : Prop where
  journals : database.journals = .empty
  progress : database.progress = []
  tokens : ∀ entry id row cipher plaintext, database.Flagged entry id row →
    row.column entry.contentColumn = some (.token cipher plaintext) →
    cipher ∈ decryptCandidates master (entry.agentOf row)

theorem Sound.unrotated (sealed : database.SealedUnder master) :
    Sound keys database { database := database, task := none } where
  recorded := by
    refine ⟨⟨fun _ => rfl, ?_⟩, ?_, ?_, ?_, ?_⟩
    · exact fun name id row stored => ⟨row, stored, rfl, rfl, fun column => .inl rfl⟩
    · intro id journal stored
      rw [sealed.journals, row_empty] at stored
      exact nomatch stored
    · rw [sealed.progress]
      exact fun done member => absurd member not_mem_nil
    · exact fun entry id row flagged _ => ⟨row, flagged.stored, rfl⟩
    · intro entry id row rotationId journal newKey _ _ stored
      rw [sealed.journals, row_empty] at stored
      exact nomatch stored
  owned := by
    refine ⟨master, ?_, ?_, ?_⟩
    · intro rotationId journal newKey entry id row stored
      rw [sealed.journals, row_empty] at stored
      exact nomatch stored
    · exact fun entry id row cipher plaintext flagged _ =>
        sealed.tokens entry id row cipher plaintext flagged
    · intro rotationId journal oldKey stored
      rw [sealed.journals, Table.row_empty] at stored
      exact nomatch stored
  single := by
    intro first _ unresolved
    simp only [Database.unresolved, sealed.journals, Table.row_empty, any_none,
      Bool.false_eq_true] at unresolved
  working := fun _ running => nomatch running

theorem Sound.run [DecidableEq Master] (sealed : database.SealedUnder master)
    {commands : List Command} (run : Transition.Run (Transition.ofFunction (Service.apply keys))
      { database := database, task := none } commands service) :
    Sound keys database service := by
  refine run.invariant ?_ (Sound.unrotated sealed)
  intro source command target sound step
  rw [step]
  exact sound.apply command

end Service

end Kestrel.Security
