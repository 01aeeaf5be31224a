import Kestrel.Strategy.CommitHistories

/-!
# What commits keep

Over every history of commits and of edits between them, a commit writes its change over what the
file holds, and nothing where it cannot tell what that is.
-/

namespace Kestrel.Strategy

open List Option FileLedger Nat

section Histories

variable {Result : Type}

/-- The file as it was last seen, the rows that it was read as, and the changes that failed writes
have left in memory since. -/
structure History (Result : Type) where
  seen : Option (List UInt8)
  base : Live
  held : List (Change Result)

namespace History

/-- The rows with the changes that are held. -/
def current (history : History Result) : Live :=
  history.held.foldl (fun live change => (change live).1) history.base

/-- What a commit may apply its change to: the rows in memory while the file is as it was last seen,
and else the file. -/
def start (history : History Result) (disk : Disk) (file : Option (List UInt8)) : Live :=
  if file = history.seen then history.current else disk.view file

def opened (disk : Disk) (path : Option String) (file : Option (List UInt8))
    (failure : Option String) : History Result :=
  match path, failure, file.map disk.parseLedger with
  | some _, none, some (.ok _) => ⟨file, disk.view file, []⟩
  | _, _, _ => ⟨none, ⟨.initial, 0⟩, []⟩

def next (history : History Result) (disk : Disk) (file : Option (List UInt8))
    (change : Change Result) (outcome : LedgerCommit Result) (after : Option (List UInt8)) :
    History Result :=
  if outcome.refused then history
  else if outcome.error.isNone then
    ⟨after, ⟨(change (history.start disk file)).1.data, 0⟩, []⟩
  else if outcome.reloaded then ⟨file, disk.view file, [change]⟩
  else { history with held := history.held ++ [change] }

end History

/-- A ledger with its file, its history and all files that there have been. -/
structure Moment (Result : Type) where
  ledger : FileLedger
  world : World
  history : History Result
  past : List (Option (List UInt8))

/-- An edit from outside, with the states that other ledgers persist meanwhile, or a commit. -/
inductive LedgerEvent (Result : Type) where
  | edit (file : Option (List UInt8)) (persisted : ℕ)
  | commit (change : Change Result) (admits : Option Result → Bool) (failures : Failures)

namespace Moment

/-- The ledger after it was created and loaded. -/
def opened (disk : Disk) (path : Option String) (world : World) (failure : Option String) :
    Moment Result :=
  let (ledger, after) := (FileLedger.create path).load disk world failure
  ⟨ledger, after, .opened disk path world.file failure, [world.file]⟩

def step (disk : Disk) (moment : Moment Result) : LedgerEvent Result → Moment Result
  | .edit file persisted =>
    { moment with
      world := ⟨file, moment.world.sequence + persisted⟩
      past := moment.past ++ [file] }
  | .commit change admits failures =>
    let (outcome, ledger, world) :=
      moment.ledger.commit disk moment.world change admits failures
    { ledger
      world
      history := moment.history.next disk moment.world.file change outcome world.file
      past := moment.past ++ [world.file] }

end Moment

/-- The rows of a snapshot are those of a file. -/
def Disk.Held (disk : Disk) (past : List (Option (List UInt8))) (snapshot : LedgerSnapshot) : Prop :=
  ∃ content parsed, some content ∈ past ∧ disk.parseLedger content = .ok parsed ∧
    ∀ kind, snapshot.data.items kind = (parsed.getD .initial).items kind

/-- What is known of a ledger at every moment. -/
structure Tracked (disk : Disk) (moment : Moment Result) : Prop where
  memory : moment.ledger.live = moment.history.current
  digest : moment.ledger.diskDigest = disk.fileDigest moment.history.seen
  shown : disk.Shows moment.history.seen moment.history.base
  present : moment.world.file ∈ moment.past
  confirmed : ∀ snapshot ∈ moment.ledger.persistedSnapshot,
    ∀ place ∈ snapshot.persistedSequence,
      place < moment.world.sequence ∧ disk.Held moment.past snapshot

end Histories

section Loading

variable {Result : Type} {disk : Disk}

theorem assignFrom_of_minted (minter : Row → String) (taken : List String) (items : List Item)
    (none : (assignFrom minter taken items).2 = 0) : (assignFrom minter taken items).1 = items := by
  induction items generalizing taken with
  | nil => rfl
  | cons item items ih =>
    cases item with
    | value value => exact congrArg (.value value :: ·) (ih taken none)
    | row row =>
      unfold assignFrom at none ⊢
      by_cases blank : Text.isBlank row.idText = true
      · rw [if_pos blank] at none
        exact absurd none (succ_ne_zero _)
      · rw [if_neg blank] at none ⊢
        exact congrArg (.row row :: ·) (ih taken none)

theorem items_loaded {host : Host} {data : Data} (none : (Live.loaded host (some data)).unsaved = 0)
    (kind : Kind) : (Live.loaded host (some data)).data.items kind = data.items kind := by
  unfold Live.loaded Data.normalize at none ⊢
  simp only [getD_some, Nat.add_eq_zero_iff] at none ⊢
  cases kind with
  | patterns =>
    rw [Data.items_setItems_of_ne _ _ (by decide), Data.items_setItems_self]
    exact assignFrom_of_minted _ _ _ none.1
  | blockers =>
    rw [Data.items_setItems_self]
    exact assignFrom_of_minted _ _ _ none.2

theorem loaded_none (host : Host) : Live.loaded host none = ⟨.initial, 0⟩ := by
  have sections : Function.update (Function.update (fun _ : Kind => some ([] : List Item)) .patterns
      (some [])) .blockers (some []) = fun _ => some [] := by
    funext kind
    cases kind <;> rfl
  exact congrArg (fun sections => Live.mk ⟨sections, Data.initial.others⟩ 0) sections

theorem readFile_opened (disk : Disk) (path : Option String) (world : World)
    (failure : Option String) :
    let ledger := (create path).readFile disk world failure
    let history : History Result := .opened disk path world.file failure
    ledger.path = path ∧ ledger.live = history.current ∧
      ledger.diskDigest = disk.fileDigest history.seen ∧ disk.Shows history.seen history.base ∧
      (ledger.loadError = none → path.isSome → ∀ content, world.file = some content →
        ledger.live.unsaved = 0 → ∃ parsed, disk.parseLedger content = .ok parsed ∧
          ∀ kind, ledger.live.data.items kind = (parsed.getD .initial).items kind) := by
  dsimp only
  cases path with
  | none => exact ⟨rfl, rfl, rfl, rfl, nofun⟩
  | some path =>
    cases failure with
    | some error => exact ⟨rfl, rfl, rfl, rfl, nofun⟩
    | none =>
      obtain ⟨file, sequence⟩ := world
      cases file with
      | none => exact ⟨rfl, rfl, rfl, rfl, nofun⟩
      | some raw =>
        unfold readFile History.opened Disk.Shows Disk.view
        simp only [create, map_some]
        cases readable : disk.parseLedger raw with
        | error error => exact ⟨rfl, rfl, rfl, rfl, nofun⟩
        | ok parsed =>
          cases parsed with
          | none =>
            refine ⟨rfl, (loaded_none _).symm, rfl, ⟨none, readable, .inl rfl⟩, ?_⟩
            intro _ _ content same _
            cases same
            exact ⟨none, readable, fun _ => rfl⟩
          | some data =>
            refine ⟨rfl, rfl, rfl, ⟨some data, readable, .inl rfl⟩, ?_⟩
            intro _ _ content same minted
            cases same
            exact ⟨some data, readable, items_loaded minted⟩

theorem tracked_opened (disk : Disk) (path : Option String) (world : World)
    (failure : Option String) :
    Tracked disk (.opened disk path world failure : Moment Result) := by
  obtain ⟨known, memory, digest, shown, clean⟩ :=
    @readFile_opened Result disk path world failure
  refine ⟨memory, digest, shown, mem_singleton.mpr rfl, ?_⟩
  unfold Moment.opened load captureSnapshot
  intro snapshot same place confirmed
  cases same
  split_ifs at confirmed with clear
  · cases confirmed
    simp only [Bool.and_eq_true, isNone_iff_eq_none, decide_eq_true_eq] at clear
    obtain ⟨⟨readable, hasPath, hasFile⟩, minted⟩ := clear
    obtain ⟨content, file⟩ := isSome_iff_exists.mp hasFile
    rw [known] at hasPath
    obtain ⟨parsed, read, same⟩ := clean readable hasPath content file minted
    refine ⟨?_, content, parsed, mem_singleton.mpr file.symm, read, same⟩
    simp [readable, hasPath, hasFile, minted, known]
  · exact nomatch confirmed

end Loading

section Steps

variable {Result : Type} {disk : Disk} {moment : Moment Result}

theorem Disk.Shows.readable {file : Option (List UInt8)} {live : Live} {raw : List UInt8}
    (shown : disk.Shows file live) (same : file = some raw) :
    ∃ parsed, disk.parseLedger raw = .ok parsed := by
  subst same
  obtain ⟨parsed, read, _⟩ := shown
  exact ⟨parsed, read⟩

theorem Tracked.start_eq (tracked : Tracked disk moment) {start : Live}
    (starts : disk.fileDigest moment.world.file = moment.ledger.diskDigest ∧
        start = moment.ledger.live ∨
      disk.fileDigest moment.world.file ≠ moment.ledger.diskDigest ∧
        ∃ raw parsed, moment.world.file = some raw ∧ disk.parseLedger raw = .ok parsed ∧
          start = .loaded disk.toHost parsed) :
    start = moment.history.start disk moment.world.file := by
  unfold History.start
  obtain ⟨same, rfl⟩ | ⟨changed, raw, parsed, file, read, rfl⟩ := starts
  · rw [tracked.digest] at same
    rw [if_pos (disk.fileDigest_injective same), tracked.memory]
  · rw [tracked.digest] at changed
    rw [if_neg fun same => changed (congrArg disk.fileDigest same), file, Disk.view, map_some, read]

theorem Tracked.edit (tracked : Tracked disk moment) (file : Option (List UInt8)) (persisted : ℕ) :
    Tracked disk (moment.step disk (.edit file persisted)) where
  memory := tracked.memory
  digest := tracked.digest
  shown := tracked.shown
  present := mem_append_right _ (mem_singleton_self _)
  confirmed snapshot known place confirmed := by
    obtain ⟨before, content, parsed, held, read⟩ := tracked.confirmed snapshot known place confirmed
    exact ⟨Nat.lt_add_right persisted before, content, parsed, mem_append_left _ held, read⟩

theorem Tracked.committed (tracked : Tracked disk moment) {change : Change Result}
    {admits : Option Result → Bool} {failures : Failures} {outcome : LedgerCommit Result}
    {ledger : FileLedger} {world : World}
    (committed : Committed disk moment.ledger moment.world change admits failures outcome ledger
      world) :
    Tracked disk ⟨ledger, world,
      moment.history.next disk moment.world.file change outcome world.file,
      moment.past ++ [world.file]⟩ := by
  have before := tracked.confirmed
  have later : ∀ snapshot ∈ moment.ledger.persistedSnapshot,
      ∀ place ∈ snapshot.persistedSequence, place < moment.world.sequence ∧
        disk.Held (moment.past ++ [world.file]) snapshot := by
    intro snapshot known place confirmed
    obtain ⟨earlier, content, parsed, held, read⟩ := before snapshot known place confirmed
    exact ⟨earlier, content, parsed, mem_append_left _ held, read⟩
  cases committed with
  | refused refused failed =>
    have next : moment.history.next disk moment.world.file change outcome moment.world.file =
        moment.history := if_pos refused
    exact ⟨tracked.memory.trans (congrArg History.current next.symm),
      tracked.digest.trans (congrArg (fun history => disk.fileDigest history.seen) next.symm),
      next.symm ▸ tracked.shown, mem_append_right _ (mem_singleton_self _), later⟩
  | @held live value holds changed taken failed kept =>
    have next : moment.history.next disk moment.world.file change outcome moment.world.file =
        { moment.history with held := moment.history.held ++ [change] } := by
      unfold History.next
      rw [taken, kept, if_neg Bool.false_ne_true, if_neg (by simp [isSome_iff_ne_none.mp failed]),
        if_neg Bool.false_ne_true]
    refine ⟨?_, ?_, ?_, mem_append_right _ (mem_singleton_self _), later⟩
    · rw [next, History.current, foldl_append]
      change live = (change moment.history.current).1
      rw [← tracked.memory, changed]
    · rw [next]
      exact tracked.digest
    · rw [next]
      exact tracked.shown
  | @replaced live value raw parsed file readable changed taken failed reloaded =>
    have next : moment.history.next disk moment.world.file change outcome moment.world.file =
        ⟨moment.world.file, disk.view moment.world.file, [change]⟩ := by
      unfold History.next
      rw [taken, reloaded, if_neg Bool.false_ne_true, if_neg (by simp [isSome_iff_ne_none.mp failed]),
        if_pos rfl]
    have view : disk.view moment.world.file = .loaded disk.toHost parsed := by
      rw [file, Disk.view, map_some, readable]
    refine ⟨?_, ?_, ?_, mem_append_right _ (mem_singleton_self _), later⟩
    · rw [next]
      change live = (change (disk.view moment.world.file)).1
      rw [view, changed]
    · rw [next]
    · rw [next, view, file]
      exact ⟨parsed, readable, .inl rfl⟩
  | @written start live value content starts changed admitted dumped yaml clean read taken done =>
    have next : moment.history.next disk moment.world.file change outcome (some content) =
        ⟨some content, ⟨live.data, 0⟩, []⟩ := by
      unfold History.next
      rw [taken, if_neg Bool.false_ne_true, if_pos (by rw [done]; rfl),
        ← tracked.start_eq starts, changed]
    have read := disk.parseLedger_dump yaml dumped
    refine ⟨?_, ?_, ?_, mem_append_right _ (mem_singleton_self _), ?_⟩
    · rw [next]
      rfl
    · rw [next]
      rfl
    · rw [next]
      exact ⟨some live.data, read, .inr rfl⟩
    · intro snapshot known place confirmed
      cases known
      cases confirmed
      refine ⟨lt_succ_self _, content, some live.data, ?_, read, fun _ => rfl⟩
      exact mem_append_right _ (mem_singleton_self _)

theorem Tracked.commit (tracked : Tracked disk moment) (change : Change Result)
    (admits : Option Result → Bool) (failures : Failures) :
    Tracked disk (moment.step disk (.commit change admits failures)) :=
  tracked.committed commit_committed

theorem tracked_of_run (disk : Disk) (path : Option String) (world : World)
    (failure : Option String) (events : List (LedgerEvent Result)) :
    Tracked disk (events.foldl (Moment.step disk) (.opened disk path world failure)) := by
  have kept : ∀ (events : List (LedgerEvent Result)) (moment : Moment Result),
      Tracked disk moment → Tracked disk (events.foldl (Moment.step disk) moment) := by
    intro events
    induction events with
    | nil => exact fun _ tracked => tracked
    | cons event events ih =>
      intro moment tracked
      refine ih _ ?_
      cases event with
      | edit file persisted => exact tracked.edit file persisted
      | commit change admits failures => exact tracked.commit change admits failures
  exact kept events _ (tracked_opened disk path world failure)

end Steps

section Contract

variable {Result : Type}

/-- What a commit promises. One without an error writes its change over what the file held, with the
changes that are still held if the file is as it was last seen. A refused one leaves the file, the
rows and the count of unsaved ids as they were. A file that is gone or that cannot be read as a
ledger stays as it is. -/
structure CommitPromise (disk : Disk) (moment : Moment Result) (change : Change Result)
    (admits : Option Result → Bool) (failures : Failures) (outcome : LedgerCommit Result)
    (ledger : FileLedger) (after : Option (List UInt8)) : Prop where
  written : outcome.error = none →
    (moment.world.file = moment.history.seen ∨ ∃ raw parsed, moment.world.file = some raw ∧
      disk.parseLedger raw = .ok parsed) ∧
    ∃ live value content,
      change (moment.history.start disk moment.world.file) = (live, .ok value) ∧
      admits value = true ∧ after = some content ∧
      disk.parseLedger content = .ok (some live.data)
  refused : outcome.refused = true → after = moment.world.file ∧ ledger.live = moment.ledger.live
  failed : outcome.error.isSome → after = moment.world.file
  removed : moment.history.seen.isSome → moment.world.file = none → after = none
  unreadable : ∀ raw error, moment.world.file = some raw → disk.parseLedger raw = .error error →
    after = some raw
  unread : failures.check.isSome → failures.reload.isSome → after = moment.world.file

theorem commitPromise {disk : Disk} {moment : Moment Result} (tracked : Tracked disk moment)
    {change : Change Result} {admits : Option Result → Bool} {failures : Failures}
    {outcome : LedgerCommit Result} {ledger : FileLedger} {world : World}
    (committed : Committed disk moment.ledger moment.world change admits failures outcome ledger
      world) :
    CommitPromise disk moment change admits failures outcome ledger world.file := by
  have unwritten : ∀ {ledger}, outcome.error.isSome →
      (outcome.refused = true → ledger.live = moment.ledger.live) →
      CommitPromise disk moment change admits failures outcome ledger moment.world.file := by
    intro ledger failed kept
    refine ⟨fun done => ?_, fun refused => ⟨rfl, kept refused⟩, fun _ => rfl, fun _ gone => gone,
      fun _ _ file _ => file, fun _ _ => rfl⟩
    rw [done] at failed
    cases failed
  cases committed with
  | refused refused failed => exact unwritten failed fun _ => rfl
  | held changed taken failed kept | replaced file readable changed taken failed reloaded =>
    exact unwritten failed fun refused => by cases taken.symm.trans refused
  | @written start live value content starts changed admitted dumped yaml clean read taken done =>
    have origin : moment.world.file = moment.history.seen ∨ ∃ raw parsed,
        moment.world.file = some raw ∧ disk.parseLedger raw = .ok parsed := by
      obtain ⟨same, _⟩ | ⟨_, raw, parsed, file, readable, _⟩ := starts
      · rw [tracked.digest] at same
        exact .inl (disk.fileDigest_injective same)
      · exact .inr ⟨raw, parsed, file, readable⟩
    refine ⟨fun _ => ⟨origin, live, value, content, ?_, admitted, rfl,
        disk.parseLedger_dump yaml dumped⟩, fun refused => (by cases taken.symm.trans refused),
      fun failed => ?_, fun seen gone => ?_, fun raw error file broken => ?_,
      fun check reload => ?_⟩
    · rw [← tracked.start_eq starts, changed]
    · rw [done] at failed
      cases failed
    · obtain same | ⟨raw, parsed, file, _⟩ := origin
      · rw [← same, gone] at seen
        cases seen
      · cases gone.symm.trans file
    · obtain ⟨parsed, readable⟩ : ∃ parsed, disk.parseLedger raw = .ok parsed := by
        obtain same | ⟨raw', parsed, file', readable⟩ := origin
        · exact tracked.shown.readable (same.symm.trans file)
        · cases file.symm.trans file'
          exact ⟨parsed, readable⟩
      cases broken.symm.trans readable
    · obtain none | none := read
      · rw [none] at check
        cases check
      · rw [none] at reload
        cases reload

/-- A later moment has the same snapshot or one that was persisted since. -/
def Later (earlier later : Moment Result) : Prop :=
  earlier.world.sequence ≤ later.world.sequence ∧
    (later.ledger.persistedSnapshot = earlier.ledger.persistedSnapshot ∨
      ∃ snapshot place, later.ledger.persistedSnapshot = some snapshot ∧
        snapshot.persistedSequence = some place ∧ earlier.world.sequence ≤ place)

theorem later_step (disk : Disk) (moment : Moment Result) (event : LedgerEvent Result) :
    Later moment (moment.step disk event) := by
  cases event with
  | edit file persisted => exact ⟨le_add_right _ _, .inl rfl⟩
  | commit change admits failures =>
    have committed := @commit_committed Result disk moment.ledger moment.world change admits failures
    have stays : ∀ {outcome ledger world}, Committed disk moment.ledger moment.world change admits
        failures outcome ledger world → ∀ history past,
        Later moment ⟨ledger, world, history, past⟩ := by
      intro outcome ledger world committed history past
      cases committed with
      | refused | held | replaced => exact ⟨le_refl _, .inl rfl⟩
      | written =>
        exact ⟨le_succ _, .inr ⟨_, moment.world.sequence, rfl, rfl, le_refl _⟩⟩
    exact stays committed _ _

theorem later_run (disk : Disk) (moment : Moment Result) (events : List (LedgerEvent Result)) :
    Later moment (events.foldl (Moment.step disk) moment) := by
  induction events generalizing moment with
  | nil => exact ⟨le_refl _, .inl rfl⟩
  | cons event events ih =>
    obtain ⟨before, first⟩ := later_step disk moment event
    obtain ⟨after, second⟩ := ih (moment.step disk event)
    refine ⟨le_trans before after, ?_⟩
    obtain same | ⟨snapshot, place, known, confirmed, persisted⟩ := second
    · obtain same' | ⟨snapshot, place, known, confirmed, persisted⟩ := first
      · exact .inl (same.trans same')
      · exact .inr ⟨snapshot, place, same.trans known, confirmed, persisted⟩
    · exact .inr ⟨snapshot, place, known, confirmed, le_trans before persisted⟩

structure LedgerPromise (disk : Disk) (moment : Moment Result) : Prop where
  memory : moment.ledger.live = moment.history.current
  shown : disk.Shows moment.history.seen moment.history.base
  commits : ∀ change admits failures,
    let result := moment.ledger.commit disk moment.world change admits failures
    CommitPromise disk moment change admits failures result.1 result.2.1 result.2.2.file
  snapshot : ∀ snapshot ∈ moment.ledger.persistedSnapshot,
    snapshot.persistedSequence.isSome → disk.Held moment.past snapshot
  order : ∀ events : List (LedgerEvent Result), ∀ earlier ∈ moment.ledger.persistedSnapshot,
    ∀ place ∈ earlier.persistedSequence,
    ∀ later ∈ (events.foldl (Moment.step disk) moment).ledger.persistedSnapshot,
    ∀ place' ∈ later.persistedSequence, later = earlier ∨ place < place'

end Contract

end Kestrel.Strategy
