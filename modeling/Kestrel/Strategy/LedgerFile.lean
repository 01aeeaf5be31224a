import Kestrel.Strategy.Ledger

/-!
# The ledger's file

The ledger is read once and written over the bytes that it last read or wrote. A commit whose file
has changed applies its change to the file as it is now. Log messages are left out.
-/

namespace Kestrel.Strategy

/-- What the YAML loader makes of a text. -/
inductive Loaded where
  | null
  | mapping (sections : Kind → Option Node) (others : Row)
  | other

def Loaded.ofData (data : Data) : Loaded :=
  .mapping (fun kind => (data.sections kind).map .items) data.others

/-- The YAML module, which reads back what it has written, and the digests of files. -/
structure Disk extends Host where
  hasYaml : Bool
  safeLoad : List UInt8 → Except String Loaded
  dump : Data → Except String (List UInt8)
  safeLoad_dump : ∀ data content, dump data = .ok content → safeLoad content = .ok (.ofData data)
  digest : List UInt8 → String
  digest_injective : Function.Injective digest

namespace Disk

variable (disk : Disk)

def fileDigest (file : Option (List UInt8)) : Option String := file.map disk.digest

def listed (sections : Kind → Option Node) (kind : Kind) : Except String (Option (List Item)) :=
  match sections kind with
  | none => .ok none
  | some (.items items) => .ok (some items)
  | some (.value _) => .error ("section '" ++ kind.key ++ "' is not a list")

/-- `_parse_ledger`. An empty file is an empty ledger. -/
def parseLedger (raw : List UInt8) : Except String (Option Data) :=
  if disk.hasYaml then
    match disk.safeLoad raw with
    | .error error => .error ("could not be parsed as YAML: " ++ error)
    | .ok .null => .ok none
    | .ok .other => .error "is not a YAML mapping"
    | .ok (.mapping sections others) => do
      let patterns ← listed sections .patterns
      let blockers ← listed sections .blockers
      .ok (some ⟨Kind.pick patterns blockers, others⟩)
  else .error "PyYAML is not installed, so it cannot be parsed"

end Disk

/-- The rows in memory with the number of their ids that no file holds. -/
structure Live where
  data : Data
  unsaved : ℕ

/-- What a commit does to a ledger: it returns a value or raises `LedgerChangeConflict`. -/
abbrev Change (Result : Type) := Live → Live × Except String (Option Result)

/-- `LedgerSnapshot`. A confirmed one has a place in the order of persisted states. -/
structure LedgerSnapshot where
  data : Data
  readable : Bool
  hasCanonicalFile : Bool
  persistedSequence : Option ℕ

/-- `StrategyLedger`. -/
structure FileLedger where
  path : Option String
  live : Live
  loadError : Option String
  persistedSnapshot : Option LedgerSnapshot
  diskDigest : Option String
  writeRefusal : Option String
  holdsUnwrittenChange : Bool

/-- The file and the order of persisted states. -/
structure World where
  file : Option (List UInt8)
  sequence : ℕ

/-- The system calls of a commit that fail. -/
structure Failures where
  check : Option String
  write : Option String
  reload : Option String
  recheck : Option String
  rewrite : Option String

structure LedgerCommit (Result : Type) where
  value : Option Result
  error : Option String
  refused : Bool
  reloaded : Bool
  unadmitted : Bool

def ledgerFilename : String := "STRATEGY_LEDGER.yaml"

def refusal (reason : String) : String :=
  "Refusing to write " ++ ledgerFilename ++ ": " ++ reason ++ ". The file was left untouched."

/-- The ledger that a file without an error is loaded as. -/
def Live.loaded (host : Host) (parsed : Option Data) : Live :=
  let (data, minted) := (parsed.getD .initial).normalize host
  ⟨data, minted⟩

namespace FileLedger

variable (disk : Disk) (ledger : FileLedger) (world : World)

/-- `StrategyLedger(path)`. -/
def create (path : Option String) : FileLedger where
  path := path
  live := ⟨.initial, 0⟩
  loadError := none
  persistedSnapshot := none
  diskDigest := none
  writeRefusal := none
  holdsUnwrittenChange := false

def captureSnapshot (confirmed : Bool) : FileLedger × World :=
  let snapshot : LedgerSnapshot :=
    { data := ledger.live.data
      readable := ledger.loadError.isNone
      hasCanonicalFile := ledger.path.isSome && world.file.isSome
      persistedSequence := if confirmed then some world.sequence else none }
  ({ ledger with persistedSnapshot := some snapshot },
    { world with sequence := if confirmed then world.sequence + 1 else world.sequence })

/-- `_load`. -/
def readFile (failure : Option String) : FileLedger :=
  let ledger := { ledger with
    loadError := none, diskDigest := none, live := { ledger.live with unsaved := 0 } }
  match ledger.path, failure with
  | none, _ => ledger
  | some path, some error => { ledger with loadError := some (path ++ " could not be read: " ++ error) }
  | some path, none =>
    match world.file with
    | none => ledger
    | some raw =>
      match disk.parseLedger raw with
      | .error error => { ledger with loadError := some (path ++ " " ++ error) }
      | .ok none => { ledger with diskDigest := disk.fileDigest (some raw) }
      | .ok (some data) =>
        { ledger with
          diskDigest := disk.fileDigest (some raw)
          live := .loaded disk.toHost (some data) }

def load (failure : Option String) : FileLedger × World :=
  let ledger := ledger.readFile disk world failure
  ledger.captureSnapshot world (ledger.loadError.isNone && (ledger.path.isSome && world.file.isSome) &&
    ledger.live.unsaved = 0)

/-- `_write`: the reason if nothing was written. -/
def write (path : String) (data : Data) (expected : Option String) (check replace : Option String) :
    Option String × FileLedger × World :=
  let ledger := { ledger with writeRefusal := none }
  let refuse (reason : String) : Option String × FileLedger × World :=
    (some (refusal reason), { ledger with writeRefusal := some reason }, world)
  match check with
  | some error => refuse ("could not read " ++ path ++ " to check it for external edits: " ++ error)
  | none =>
    if disk.fileDigest world.file ≠ expected then
      refuse (path ++ " changed on disk since it was last read or written, and writing over it " ++
        "would erase that change")
    else
      match disk.dump data, replace with
      | .ok content, none =>
        let ledger := { ledger with
          live := ⟨data, 0⟩
          diskDigest := disk.fileDigest (some content)
          holdsUnwrittenChange := false }
        (none, ledger.captureSnapshot { world with file := some content } true)
      | .error error, _ | .ok _, some error =>
        (some ("Failed to save " ++ ledgerFilename ++ ": " ++ error),
          { ledger with holdsUnwrittenChange := true }, world)

def save (check replace : Option String) : Option String × FileLedger × World :=
  let ledger := { ledger with writeRefusal := none }
  match ledger.path, ledger.loadError with
  | none, _ =>
    (some ("No ledger path configured -- strategic memory is not active, " ++
      "so nothing was persisted."), ledger, world)
  | some _, some error =>
    (some ("Refusing to write " ++ ledgerFilename ++ ": " ++ error ++ ". The existing file was " ++
      "left untouched -- repair or move it, then restart."), ledger, world)
  | some path, none =>
    if disk.hasYaml then
      ledger.write disk world path ledger.live.data ledger.diskDigest check replace
    else (some ("PyYAML not installed -- cannot save " ++ ledgerFilename ++ "."), ledger, world)

section Commits

variable {Result : Type}

def refusedCommit (reason : String) : LedgerCommit Result × FileLedger × World :=
  (⟨none, some (refusal reason), true, false, false⟩, ledger, world)

/-- `_reload_and_reapply` after the re-read: the change on a ledger, which is written. -/
def reapply (path : String) (change : Change Result) (admits : Option Result → Bool)
    (reloaded : Bool) (fresh : Live) (recheck rewrite : Option String) :
    LedgerCommit Result × FileLedger × World :=
  let digest := disk.fileDigest world.file
  match change fresh with
  | (_, .error conflict) =>
    ledger.refusedCommit world
      ("this change does not apply to " ++ path ++ " as it now stands: " ++ conflict)
  | (fresh, .ok value) =>
    if !admits value then
      (⟨value, some (refusal "the value this change writes has not been admitted"), true, reloaded,
        true⟩, ledger, world)
    else
      match ledger.write disk world path fresh.data digest recheck rewrite with
      | (none, ledger, world) => (⟨value, none, false, reloaded, false⟩, ledger, world)
      | (some error, ledger, world) =>
        if ledger.writeRefusal.isSome then
          (⟨value, some error, true, reloaded, false⟩, ledger, world)
        else
          (⟨value, some error, false, reloaded, false⟩,
            { ledger with live := fresh, diskDigest := digest }, world)

def reloadAndReapply (path : String) (change : Change Result) (admits : Option Result → Bool)
    (failures : Failures) : LedgerCommit Result × FileLedger × World :=
  match failures.reload with
  | some error => ledger.refusedCommit world ("could not read " ++ path ++ ": " ++ error)
  | none =>
    let reloaded : Bool := disk.fileDigest world.file ≠ ledger.diskDigest
    if !reloaded then
      ledger.reapply disk world path change admits reloaded ledger.live failures.recheck
        failures.rewrite
    else
      match world.file with
      | none => ledger.refusedCommit world
          (path ++ " was removed after it was loaded, and recreating it from the in-memory copy " ++
            "would undo that")
      | some raw =>
        match disk.parseLedger raw with
        | .error error => ledger.refusedCommit world (path ++ " " ++ error)
        | .ok parsed =>
          ledger.reapply disk world path change admits reloaded (.loaded disk.toHost parsed)
            failures.recheck failures.rewrite

/-- `commit` after the rows in memory are as they were. -/
def recommit (change : Change Result) (admits : Option Result → Bool) (failures : Failures)
    (value : Option Result) (conflict : Option String) :
    LedgerCommit Result × FileLedger × World :=
  match ledger.path, ledger.loadError, disk.hasYaml with
  | some path, none, true =>
    let (outcome, ledger, world) :=
      ledger.reloadAndReapply disk world path change admits failures
    (if outcome.value.isNone then { outcome with value } else outcome, ledger, world)
  | _, _, _ =>
    (⟨value, some (refusal ("this change does not apply: " ++ conflict.getD "None")), true, false,
      false⟩, ledger, world)

def commit (change : Change Result) (admits : Option Result → Bool) (failures : Failures) :
    LedgerCommit Result × FileLedger × World :=
  match change ledger.live with
  | (_, .error conflict) => ledger.recommit disk world change admits failures none (some conflict)
  | (live, .ok value) =>
    if !admits value then
      ledger.recommit disk world change admits failures value
        (some "its value has not been admitted")
    else
      match ({ ledger with live } : FileLedger).save disk world failures.check failures.write with
      | (none, ledger, world) => (⟨value, none, false, false, false⟩, ledger, world)
      | (some error, saved, world) =>
        if saved.writeRefusal.isNone then
          (⟨value, some error, false, false, false⟩, saved, world)
        else
          ({ saved with live := ledger.live } : FileLedger).recommit disk world change admits
            failures value none

end Commits

end FileLedger

end Kestrel.Strategy
