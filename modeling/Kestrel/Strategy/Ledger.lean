import Kestrel.Base.Dictionary
import Kestrel.Base.Sha1
import Kestrel.Base.Text
import Mathlib.Logic.Function.Basic

/-!
# The strategy ledger

Patterns and blockers as rows with ids. A row that has no id gets one from its content, and rows of
another file are copied in under such ids. Dates are texts.
-/

namespace Kestrel.Strategy

/-- A YAML value inside a row. One that is no text counts by its `str` and its truth. -/
inductive Value where
  | text (value : String)
  | other (shown : String) (truthy : Bool)
  deriving DecidableEq

/-- `str(value or "")`. -/
def textOf : Option Value → String
  | some (.text value) => value
  | some (.other shown true) => shown
  | some (.other _ false) | none => ""

/-- A mapping with its keys in order. -/
abbrev Row := Dictionary (Prod.fst : String × Value → String)

namespace Row

/-- `row.get(key)`. -/
def value (row : Row) (key : String) : Option Value := (row.get key).map Prod.snd

/-- `row[key] = value`. -/
def set (row : Row) (key : String) (value : Value) : Row := row.put (key, value)

/-- The mapping of a literal. -/
def ofList (entries : List (String × Value)) : Row :=
  entries.foldl (fun row entry => row.put entry) .empty

/-- `str(row.get("id") or "")`. -/
def idText (row : Row) : String := textOf (row.value "id")

@[simp] theorem value_set_self (row : Row) (key : String) (value : Value) :
    (row.set key value).value key = some value := by
  have found : Dictionary.get (row.put (key, value)) key = some (key, value) :=
    row.get_put_self
  rw [Row.value, Row.set, found, Option.map_some]

theorem value_set_of_ne (row : Row) {key other : String} (value : Value)
    (different : other ≠ key) : (row.set key value).value other = row.value other := by
  rw [Row.value, Row.set, Dictionary.get_put_of_ne different, ← Row.value]

@[simp] theorem idText_set_id (row : Row) (id : String) :
    (row.set "id" (.text id)).idText = id := by
  rw [idText, value_set_self]
  rfl

theorem idText_set_of_ne (row : Row) {key : String} (value : Value) (different : key ≠ "id") :
    (row.set key value).idText = row.idText := by
  rw [idText, value_set_of_ne row value different.symm, ← idText]

end Row

/-- A member of a section: a row, or what is no mapping. -/
inductive Item where
  | row (row : Row)
  | value (value : Value)

namespace Item

def row? : Item → Option Row
  | .row mapping => some mapping
  | .value _ => none

def change (edit : Row → Row) : Item → Item
  | .row mapping => .row (edit mapping)
  | .value other => .value other

end Item

/-- The sections of the ledger. -/
inductive Kind where
  | patterns
  | blockers
  deriving DecidableEq

/-- `PATTERNS_KEY` and `BLOCKERS_KEY`. -/
def Kind.key : Kind → String
  | .patterns => "patterns_learned"
  | .blockers => "blockers"

def Kind.pick {Thing : Type} (patterns blockers : Thing) : Kind → Thing
  | .patterns => patterns
  | .blockers => blockers

/-- The functions that the ledger calls on texts. -/
structure Host where
  lower : String → String
  sha1 : Sha1

section Ids

variable (host : Host)

def digest (parts : List (Option Value)) : String :=
  let joined := "\x00".intercalate (parts.map fun part => host.lower (Text.strip (textOf part)))
  String.ofList ((host.sha1.hexdigest (Bytes.utf8 joined)).toList.take 12)

def patternRowId (entry : Row) : String := "pat_" ++ digest host [entry.value "pattern"]

def blockerRowId (entry : Row) : String :=
  "blk_" ++ digest host [entry.value "issue", entry.value "title"]

/-- The minter of a section. -/
def Kind.rowId : Kind → Row → String
  | .patterns => patternRowId host
  | .blockers => blockerRowId host

/-- The address of a later row of the same content. -/
def suffixed (candidate : String) (suffix : ℕ) : String :=
  candidate ++ "-" ++ String.ofList (Nat.toDigits 10 suffix)

/-- `_unique_id`. Among one suffix more than there are ids, one is free. -/
def uniqueId (candidate : String) (taken : List String) : String :=
  if candidate ∉ taken then candidate
  else
    match (List.range (taken.length + 1)).find? fun index =>
      suffixed candidate (index + 2) ∉ taken with
    | some index => suffixed candidate (index + 2)
    | none => candidate

def ids (items : List Item) : List String :=
  ((items.filterMap Item.row?).map Row.idText).filter fun id => !Text.isBlank id

/-- The loop of `assign_row_ids`, with the number of ids that were minted. -/
def assignFrom (minter : Row → String) : List String → List Item → List Item × ℕ
  | _, [] => ([], 0)
  | taken, .value value :: items =>
    let (rest, minted) := assignFrom minter taken items
    (.value value :: rest, minted)
  | taken, .row row :: items =>
    if Text.isBlank row.idText then
      let rowId := uniqueId (minter row) taken
      let (rest, minted) := assignFrom minter (rowId :: taken) items
      (.row (row.set "id" (.text rowId)) :: rest, minted + 1)
    else
      let (rest, minted) := assignFrom minter taken items
      (.row row :: rest, minted)

def assignRowIds (minter : Row → String) (items : List Item) : List Item × ℕ :=
  assignFrom minter (ids items) items

end Ids

/-- What a ledger holds. A section that is there is a list. -/
structure Data where
  sections : Kind → Option (List Item)
  others : Row

namespace Data

/-- The ledger of no file. -/
def initial : Data where
  sections _ := some []
  others := Row.ofList [("version", .other "1" true)]

/-- A section, where it is there. -/
def items (data : Data) (kind : Kind) : List Item := (data.sections kind).getD []

/-- `_rows(self.data, key)`. -/
def rows (data : Data) (kind : Kind) : List Row := (data.items kind).filterMap Item.row?

def setItems (data : Data) (kind : Kind) (items : List Item) : Data :=
  { data with sections := Function.update data.sections kind (some items) }

@[simp] theorem items_setItems_self (data : Data) (kind : Kind) (items : List Item) :
    (data.setItems kind items).items kind = items := by
  unfold Data.items setItems
  dsimp only
  rw [Function.update_self, Option.getD_some]

theorem items_setItems_of_ne (data : Data) {kind other : Kind} (items : List Item)
    (different : other ≠ kind) : (data.setItems kind items).items other = data.items other := by
  unfold Data.items setItems
  dsimp only
  rw [Function.update_of_ne different]

variable (host : Host)

/-- `normalize`, with the number of ids that were minted. -/
def normalize (data : Data) : Data × ℕ :=
  let others := if (data.others.get "version").isSome then data.others
    else data.others.set "version" (.other "1" true)
  let (patterns, mintedPatterns) := assignRowIds (patternRowId host) (data.items .patterns)
  let (blockers, mintedBlockers) := assignRowIds (blockerRowId host) (data.items .blockers)
  (({ data with others } : Data).setItems .patterns patterns |>.setItems .blockers blockers,
    mintedPatterns + mintedBlockers)

def append (data : Data) (kind : Kind) (content : List (String × Value))
    (details : List (String × Value)) : Data :=
  let id := uniqueId (kind.rowId host (Row.ofList content)) ((data.rows kind).map Row.idText)
  data.setItems kind (data.items kind ++ [.row (Row.ofList (("id", .text id) :: details))])

def addPattern (data : Data) (pattern source implication today : String) : Data :=
  data.append host .patterns [("pattern", .text pattern)]
    [("pattern", .text pattern), ("source", .text source), ("implication", .text implication),
      ("recorded_at", .text today)]

def addBlocker (data : Data) (issue title severity owner notes repo today : String) : Data :=
  data.append host .blockers [("issue", .text issue), ("title", .text title)]
    [("issue", .text issue), ("title", .text title), ("severity", .text severity),
      ("owner", .text owner), ("repo", .text repo), ("blocked_since", .text today),
      ("notes", .text notes)]

def edit (data : Data) (kind : Kind) (position : ℕ) (change : Row → Row) : Data :=
  data.setItems kind ((data.items kind).modify position (Item.change change))

end Data

def resolveBlocker (resolution today : String) (row : Row) : Row :=
  let row := row.set "resolved_at" (.text today)
  if resolution ≠ "" then row.set "resolution" (.text resolution) else row

def supersedePattern (reason supersededBy today : String) (row : Row) : Row :=
  let row := row.set "superseded_at" (.text today)
  let row := if reason ≠ "" then row.set "superseded_reason" (.text reason) else row
  if supersededBy ≠ "" then row.set "superseded_by" (.text supersededBy) else row

/-- What `STRATEGY.yaml` has under a key. -/
inductive Node where
  | items (items : List Item)
  | value (value : Value)

/-- `STRATEGY.yaml` after it was loaded. -/
abbrev Mapping := String → Option Node

namespace Mapping

/-- `_rows(strategy_data, key)`. -/
def rows (mapping : Mapping) (key : String) : List Row :=
  match mapping key with
  | some (.items items) => items.filterMap Item.row?
  | some (.value _) | none => []

/-- The rows that a section of the ledger takes over. -/
def incoming (mapping : Mapping) : Kind → List Row
  | .patterns => mapping.rows "patterns_learned" ++ mapping.rows "patterns"
  | .blockers => mapping.rows "blockers"

/-- `strip_ledger_sections`. -/
def strip (mapping : Mapping) : Mapping × Bool :=
  let keys := ["patterns_learned", "blockers", "patterns"]
  let changed := keys.any fun key => (mapping key).isSome
  let rest : Mapping := fun key => if key ∈ keys then none else mapping key
  let points := match rest "ledger_file" with
    | some (.value value) => value == .text "STRATEGY_LEDGER.yaml"
    | some (.items _) | none => false
  if changed && !points then
    (Function.update rest "ledger_file" (some (.value (.text "STRATEGY_LEDGER.yaml"))), changed)
  else (rest, changed)

end Mapping

/-- The variables of the loop of `_absorb_rows`. -/
structure Absorbing where
  target : List Item
  taken : List String
  occurrences : String → ℕ
  absorbed : ℕ

namespace Absorbing

/-- `str(copied.get("id") or "").strip()`. -/
def declared (row : Row) : String := Text.strip row.idText

def start (target : List Item) : Absorbing where
  target := target
  taken := ids target
  occurrences _ := 0
  absorbed := 0

/-- The address of an occurrence of a content. -/
def occurrenceId (base : String) (seen : ℕ) : String :=
  if seen = 1 then base else suffixed base seen

def copy (state : Absorbing) (row : Row) (rowId : String) : Absorbing :=
  if rowId ∈ state.taken then state
  else
    { state with
      target := state.target ++ [.row (row.set "id" (.text rowId))]
      taken := rowId :: state.taken
      absorbed := state.absorbed + 1 }

/-- The body of the loop of `_absorb_rows`. -/
def step (minter : Row → String) (state : Absorbing) (row : Row) : Absorbing :=
  if declared row ≠ "" then state.copy row (declared row)
  else
    let base := minter row
    let seen := state.occurrences base + 1
    { state with occurrences := Function.update state.occurrences base seen }.copy row
      (occurrenceId base seen)

end Absorbing

def absorbRows (minter : Row → String) (target : List Item) (incoming : List Row) : Absorbing :=
  incoming.foldl (Absorbing.step minter) (.start target)

/-- A section with the rows that it takes over. -/
def Data.absorbSection (host : Host) (mapping : Mapping) (data : Data) (kind : Kind) : Data × ℕ :=
  let absorbing := absorbRows (kind.rowId host) (data.items kind) (mapping.incoming kind)
  (data.setItems kind absorbing.target, absorbing.absorbed)

/-- `StrategyLedger`, without its file. -/
structure StrategyLedger where
  data : Data
  loadError : Option String

/-- What `absorb` reports. -/
structure AbsorbReport where
  patterns : ℕ
  blockers : ℕ
  error : Option String
  deriving DecidableEq

namespace StrategyLedger

def absorb (host : Host) (ledger : StrategyLedger) (mapping : Mapping) :
    AbsorbReport × StrategyLedger :=
  match ledger.loadError with
  | some error => (⟨0, 0, some error⟩, ledger)
  | none =>
    let (data, patterns) := ledger.data.absorbSection host mapping .patterns
    let (data, blockers) := data.absorbSection host mapping .blockers
    (⟨patterns, blockers, none⟩, { ledger with data })

end StrategyLedger

end Kestrel.Strategy
