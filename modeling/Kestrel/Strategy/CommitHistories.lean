import Kestrel.Strategy.LedgerFile
import Mathlib.Tactic.Cases
import Mathlib.Tactic.SplitIfs

/-!
# Histories of commits

The ledger in memory is the file as it was last seen, with the changes that failed writes left
behind. A commit writes its change over these only while the file is as it was last seen.
-/

namespace Kestrel.Strategy

open FileLedger

section Reading

variable {disk : Disk}

theorem Disk.fileDigest_injective (disk : Disk) : Function.Injective disk.fileDigest :=
  Option.map_injective disk.digest_injective

theorem Disk.parseLedger_dump (yaml : disk.hasYaml = true) {data : Data} {content : List UInt8}
    (dumped : disk.dump data = .ok content) : disk.parseLedger content = .ok (some data) := by
  have listed : ∀ kind, Disk.listed (fun kind => (data.sections kind).map Node.items) kind =
      .ok (data.sections kind) := by
    intro kind
    unfold Disk.listed
    dsimp only
    cases data.sections kind <;> rfl
  have picked : Kind.pick (data.sections .patterns) (data.sections .blockers) = data.sections := by
    funext kind
    cases kind <;> rfl
  unfold Disk.parseLedger
  rw [if_pos yaml, disk.safeLoad_dump data content dumped]
  dsimp only [Loaded.ofData]
  rw [listed, listed]
  exact congrArg (fun sections => Except.ok (some (Data.mk sections data.others))) picked

/-- The rows that a file holds, as they stand there or with ids for those that have none. -/
def Disk.Shows (disk : Disk) (file : Option (List UInt8)) (live : Live) : Prop :=
  match file with
  | none => live = ⟨.initial, 0⟩
  | some raw => ∃ parsed, disk.parseLedger raw = .ok parsed ∧
      (live = .loaded disk.toHost parsed ∨ live = ⟨parsed.getD .initial, 0⟩)

/-- The ledger that a file is loaded as. -/
def Disk.view (disk : Disk) (file : Option (List UInt8)) : Live :=
  match file.map disk.parseLedger with
  | some (.ok parsed) => .loaded disk.toHost parsed
  | some (.error _) | none => ⟨.initial, 0⟩

end Reading

section Calls

variable {Result : Type} {disk : Disk} {ledger : FileLedger} {world : World}

def FileLedger.written (disk : Disk) (ledger : FileLedger) (world : World) (data : Data)
    (content : List UInt8) : FileLedger where
  path := ledger.path
  live := ⟨data, 0⟩
  loadError := ledger.loadError
  persistedSnapshot := some ⟨data, ledger.loadError.isNone, ledger.path.isSome, some world.sequence⟩
  diskDigest := disk.fileDigest (some content)
  writeRefusal := none
  holdsUnwrittenChange := false

theorem write_cases (disk : Disk) (ledger : FileLedger) (world : World) (path : String)
    (data : Data) (expected : Option String) (check replace : Option String) :
    let result := ledger.write disk world path data expected check replace
    (∃ error refusal, result = (some error, { ledger with writeRefusal := some refusal }, world)) ∨
    (∃ error, result = (some error,
      { ledger with writeRefusal := none, holdsUnwrittenChange := true }, world)) ∨
    ∃ content, disk.dump data = .ok content ∧ disk.fileDigest world.file = expected ∧
      check = none ∧ result = (none, ledger.written disk world data content,
        ⟨some content, world.sequence + 1⟩) := by
  dsimp only
  unfold write
  cases check with
  | some error => exact .inl ⟨_, _, rfl⟩
  | none =>
    dsimp only
    by_cases same : disk.fileDigest world.file = expected
    · rw [if_neg (not_not.mpr same)]
      refine .inr ?_
      cases dumped : disk.dump data with
      | error error => exact .inl ⟨_, rfl⟩
      | ok content =>
        cases replace with
        | some error => exact .inl ⟨_, rfl⟩
        | none =>
          refine .inr ⟨content, rfl, same, rfl, ?_⟩
          simp [captureSnapshot, written]
    · rw [if_pos same]
      exact .inl ⟨_, _, rfl⟩

theorem save_cases (disk : Disk) (ledger : FileLedger) (world : World)
    (check replace : Option String) :
    let result := ledger.save disk world check replace
    (∃ error refusal, result = (some error, { ledger with writeRefusal := some refusal }, world)) ∨
    (∃ error holds, result = (some error,
      { ledger with writeRefusal := none, holdsUnwrittenChange := holds }, world)) ∨
    ∃ content, disk.hasYaml = true ∧ ledger.loadError = none ∧
      disk.dump ledger.live.data = .ok content ∧
      disk.fileDigest world.file = ledger.diskDigest ∧ check = none ∧
      result = (none, ledger.written disk world ledger.live.data content,
        ⟨some content, world.sequence + 1⟩) := by
  dsimp only
  unfold save
  dsimp only
  split
  next => exact .inr (.inl ⟨_, _, rfl⟩)
  next => exact .inr (.inl ⟨_, _, rfl⟩)
  next path _ clean =>
    by_cases yaml : disk.hasYaml = true
    · rw [if_pos yaml]
      obtain refused | ⟨error, failed⟩ | ⟨content, dumped, same, read, written⟩ :=
        write_cases disk { ledger with writeRefusal := none } world path ledger.live.data
          ledger.diskDigest check replace
      · exact .inl refused
      · exact .inr (.inl ⟨error, true, failed⟩)
      · exact .inr (.inr ⟨content, yaml, clean, dumped, same, read, written⟩)
    · rw [if_neg yaml]
      exact .inr (.inl ⟨_, _, rfl⟩)

inductive Committed (disk : Disk) (ledger : FileLedger) (world : World) (change : Change Result)
    (admits : Option Result → Bool) (failures : Failures) :
    LedgerCommit Result → FileLedger → World → Prop where
  /-- Nothing is written, and the rows in memory are as they were. -/
  | refused {outcome : LedgerCommit Result} {refusal : Option String}
      (refused : outcome.refused = true) (failed : outcome.error.isSome) :
      Committed disk ledger world change admits failures outcome
        { ledger with writeRefusal := refusal } world
  /-- The write fails, and the change is held in memory. -/
  | held {outcome : LedgerCommit Result} {live : Live} {value : Option Result} {holds : Bool}
      (changed : change ledger.live = (live, .ok value)) (taken : outcome.refused = false)
      (failed : outcome.error.isSome) (kept : outcome.reloaded = false) :
      Committed disk ledger world change admits failures outcome
        { ledger with live, writeRefusal := none, holdsUnwrittenChange := holds } world
  /-- The file has changed and the write fails: the file with the change is held in memory. -/
  | replaced {outcome : LedgerCommit Result} {live : Live} {value : Option Result}
      {raw : List UInt8} {parsed : Option Data} (file : world.file = some raw)
      (readable : disk.parseLedger raw = .ok parsed)
      (changed : change (.loaded disk.toHost parsed) = (live, .ok value))
      (taken : outcome.refused = false) (failed : outcome.error.isSome)
      (reloaded : outcome.reloaded = true) :
      Committed disk ledger world change admits failures outcome
        { ledger with
          live, diskDigest := disk.fileDigest world.file, writeRefusal := none
          holdsUnwrittenChange := true } world
  /-- The change on the ledger in memory, or on the changed file, is written. -/
  | written {outcome : LedgerCommit Result} {start live : Live} {value : Option Result}
      {content : List UInt8}
      (starts : disk.fileDigest world.file = ledger.diskDigest ∧ start = ledger.live ∨
        disk.fileDigest world.file ≠ ledger.diskDigest ∧ ∃ raw parsed, world.file = some raw ∧
          disk.parseLedger raw = .ok parsed ∧ start = .loaded disk.toHost parsed)
      (changed : change start = (live, .ok value)) (admitted : admits value = true)
      (dumped : disk.dump live.data = .ok content) (yaml : disk.hasYaml = true)
      (clean : ledger.loadError = none) (read : failures.check = none ∨ failures.reload = none)
      (taken : outcome.refused = false) (done : outcome.error = none) :
      Committed disk ledger world change admits failures outcome
        (ledger.written disk world live.data content) ⟨some content, world.sequence + 1⟩

variable {change : Change Result} {admits : Option Result → Bool} {failures : Failures}

theorem reapply_committed {path : String} {reloaded : Bool} {fresh : Live}
    (yaml : disk.hasYaml = true) (clean : ledger.loadError = none) (read : failures.reload = none)
    (starts : reloaded = false ∧ disk.fileDigest world.file = ledger.diskDigest ∧
        fresh = ledger.live ∨
      reloaded = true ∧ disk.fileDigest world.file ≠ ledger.diskDigest ∧
        ∃ raw parsed, world.file = some raw ∧ disk.parseLedger raw = .ok parsed ∧
          fresh = .loaded disk.toHost parsed) :
    let result := ledger.reapply disk world path change admits reloaded fresh failures.recheck
      failures.rewrite
    Committed disk ledger world change admits failures result.1 result.2.1 result.2.2 := by
  dsimp only
  unfold reapply
  cases changed : change fresh with
  | mk live outcome =>
    cases outcome with
    | error conflict => exact .refused rfl rfl
    | ok value =>
      dsimp only
      cases admitted : admits value with
      | false => exact .refused rfl rfl
      | true =>
        obtain ⟨error, refusal, written⟩ | ⟨error, written⟩ | ⟨content, dumped, _, _, written⟩ :=
          write_cases disk ledger world path live.data (disk.fileDigest world.file)
            failures.recheck failures.rewrite
        · simp only [Bool.not_true, Bool.false_eq_true, if_false, written]
          exact .refused rfl rfl
        · simp only [Bool.not_true, Bool.false_eq_true, if_false, written]
          obtain ⟨rfl, same, rfl⟩ | ⟨rfl, _, raw, parsed, file, readable, rfl⟩ := starts
          · rw [same]
            exact .held changed rfl rfl rfl
          · exact .replaced file readable changed rfl rfl rfl
        · simp only [Bool.not_true, Bool.false_eq_true, if_false, written]
          refine .written ?_ changed admitted dumped yaml clean (.inr read) rfl rfl
          exact starts.imp And.right And.right

/-- A second pass writes its change over the file as it is, or nothing. -/
theorem reloadAndReapply_committed {path : String} (yaml : disk.hasYaml = true)
    (clean : ledger.loadError = none) :
    let result := ledger.reloadAndReapply disk world path change admits failures
    Committed disk ledger world change admits failures result.1 result.2.1 result.2.2 := by
  dsimp only
  unfold reloadAndReapply
  cases read : failures.reload with
  | some error => exact .refused rfl rfl
  | none =>
    by_cases same : disk.fileDigest world.file = ledger.diskDigest
    · simp only [same, ne_eq, not_true_eq_false, decide_false, Bool.not_false, if_true]
      exact reapply_committed yaml clean read (.inl ⟨rfl, same, rfl⟩)
    · simp only [same, ne_eq, not_false_eq_true, decide_true, Bool.not_true, Bool.false_eq_true,
        if_false]
      cases file : world.file with
      | none => exact .refused rfl rfl
      | some raw =>
        dsimp only
        cases readable : disk.parseLedger raw with
        | error error => exact .refused rfl rfl
        | ok parsed =>
          exact reapply_committed yaml clean read
            (.inr ⟨rfl, same, raw, parsed, file, readable, rfl⟩)

variable {outcome : LedgerCommit Result}

theorem Committed.withValue {after : FileLedger} {next : World}
    (committed : Committed disk ledger world change admits failures outcome after next)
    (value : Option Result) :
    Committed disk ledger world change admits failures { outcome with value } after next := by
  cases committed with
  | refused refused failed => exact .refused refused failed
  | held changed taken failed kept => exact .held changed taken failed kept
  | replaced file readable changed taken failed reloaded =>
    exact .replaced file readable changed taken failed reloaded
  | written starts changed admitted dumped yaml clean read taken done =>
    exact .written starts changed admitted dumped yaml clean read taken done

theorem Committed.ofRefusal {after : FileLedger} {next : World} {refusal : Option String}
    (committed : Committed disk { ledger with writeRefusal := refusal } world change admits failures
      outcome after next) :
    Committed disk ledger world change admits failures outcome after next := by
  cases committed with
  | refused refused failed => exact .refused refused failed
  | held changed taken failed kept => exact .held changed taken failed kept
  | replaced file readable changed taken failed reloaded =>
    exact .replaced file readable changed taken failed reloaded
  | written starts changed admitted dumped yaml clean read taken done =>
    exact .written starts changed admitted dumped yaml clean read taken done

theorem recommit_committed (value : Option Result) (conflict : Option String) :
    let result := ledger.recommit disk world change admits failures value conflict
    Committed disk ledger world change admits failures result.1 result.2.1 result.2.2 := by
  dsimp only
  unfold recommit
  split
  next path _ clean yaml =>
    have committed := @reloadAndReapply_committed Result disk ledger world change admits failures
      path yaml clean
    dsimp only at committed ⊢
    split_ifs
    · exact committed.withValue value
    · exact committed
  next => exact .refused rfl rfl

theorem commit_committed :
    let result := ledger.commit disk world change admits failures
    Committed disk ledger world change admits failures result.1 result.2.1 result.2.2 := by
  dsimp only
  unfold commit
  cases changed : change ledger.live with
  | mk live outcome =>
    cases outcome with
    | error conflict => exact recommit_committed none (some conflict)
    | ok value =>
      dsimp only
      cases admitted : admits value with
      | false => exact recommit_committed value _
      | true =>
        obtain ⟨error, refusal, saved⟩ | ⟨error, holds, saved⟩ |
          ⟨content, yaml, clean, dumped, same, read, saved⟩ :=
            save_cases disk { ledger with live } world failures.check failures.write
        · simp only [saved, Option.isNone_some, Bool.false_eq_true, if_false]
          exact (@recommit_committed Result disk { ledger with writeRefusal := some refusal }
            world change admits failures value none).ofRefusal
        · simp only [saved, Option.isNone_none, if_true]
          exact .held changed rfl rfl rfl
        · simp only [saved]
          exact .written (.inl ⟨same, rfl⟩) changed admitted dumped yaml clean (.inl read) rfl rfl

end Calls

end Kestrel.Strategy
