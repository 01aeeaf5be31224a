import Kestrel.Strategy.Absorption

/-!
# What a migration keeps

The rows of `STRATEGY.yaml` leave it once the ledger has them. Every change that the ledger makes on
its own keeps the ids that it has, each of them once.
-/

namespace Kestrel.Strategy

open List Data StrategyLedger

section Changes

variable {host : Host} {kind : Kind} {items : List Item}

/-- Every section names its rows once. -/
def Data.Unique (data : Data) : Prop := ∀ kind, (ids (data.items kind)).Nodup

/-- A change that keeps the ids of a section, each of them once. -/
def Keeps (before after : List Item) : Prop :=
  ids before ⊆ ids after ∧ ((ids before).Nodup → (ids after).Nodup)

theorem Keeps.refl (items : List Item) : Keeps items items := ⟨Subset.refl _, id⟩

theorem uniqueId_notMem (candidate : String) (taken : List String) :
    uniqueId candidate taken ∉ taken := by
  unfold uniqueId
  split_ifs with used
  · split
    next index found => simpa using find?_some found
    next missing =>
      rw [find?_eq_none] at missing
      have all : (range (taken.length + 1)).map (fun index => suffixed candidate (index + 2)) ⊆
          taken := by
        intro id listed
        obtain ⟨index, small, rfl⟩ := mem_map.mp listed
        simpa using missing index small
      have distinct : ((range (taken.length + 1)).map fun index =>
          suffixed candidate (index + 2)).Nodup := by
        refine Nodup.map ?_ nodup_range
        intro first second same
        exact Nat.add_right_cancel (suffixed_injective candidate same)
      have count := (subperm_of_subset distinct all).length_le
      rw [length_map, length_range] at count
      omega
  · exact used

theorem ids_row (row : Row) (items : List Item) :
    ids (.row row :: items) = if Text.isBlank row.idText then ids items else row.idText :: ids items := by
  cases visible : Text.isBlank row.idText <;> simp [ids, Item.row?, visible]

theorem ids_append (first second : List Item) : ids (first ++ second) = ids first ++ ids second := by
  simp [ids]

theorem keeps_append (row : Row) (absent : row.idText ∉ ids items) :
    Keeps items (items ++ [.row row]) := by
  unfold Keeps
  rw [ids_append, ids_row]
  refine ⟨subset_append_left _ _, fun unique => ?_⟩
  split_ifs
  · exact (append_nil (ids items)).symm ▸ unique
  · refine nodup_append.mpr ⟨unique, nodup_singleton _, ?_⟩
    intro id listed other last same
    rw [mem_singleton.mp last] at same
    rw [same] at listed
    exact absent listed

theorem idText_ofList (id : String) (details : List (String × Value))
    (others : ∀ entry ∈ details, entry.1 ≠ "id") :
    (Row.ofList (("id", .text id) :: details)).idText = id := by
  have kept : ∀ (details : List (String × Value)) (row : Row), (∀ entry ∈ details, entry.1 ≠ "id") →
      (details.foldl (fun row entry => row.put entry) row).idText = row.idText := by
    intro details
    induction details with
    | nil => exact fun _ _ => rfl
    | cons entry details ih =>
      intro row others
      rw [foldl_cons, ih _ fun other listed => others other (.tail _ listed)]
      exact row.idText_set_of_ne entry.2 (others entry (.head _))
  unfold Row.ofList
  rw [foldl_cons, kept details _ others]
  exact Row.idText_set_id .empty id

end Changes

section Sections

variable {host : Host} {data : Data}

theorem keeps_setItems {kind : Kind} {items : List Item} (kept : Keeps (data.items kind) items)
    (other : Kind) : Keeps (data.items other) ((data.setItems kind items).items other) := by
  by_cases same : other = kind
  · subst same
    rw [items_setItems_self]
    exact kept
  · rw [items_setItems_of_ne data items same]
    exact .refl _

theorem keeps_dataAppend {kind : Kind} {content details : List (String × Value)}
    (others : ∀ entry ∈ details, entry.1 ≠ "id") (other : Kind) :
    Keeps (data.items other) ((data.append host kind content details).items other) := by
  unfold append
  refine keeps_setItems (keeps_append _ ?_) other
  rw [idText_ofList _ _ others]
  intro listed
  refine uniqueId_notMem _ _ ((filter_sublist).subset listed)

theorem keeps_addPattern (pattern source implication today : String) (kind : Kind) :
    Keeps (data.items kind) ((data.addPattern host pattern source implication today).items kind) :=
  keeps_dataAppend (by simp) kind

end Sections

section Absorb

variable {host : Host} {mapping : Mapping} {ledger : StrategyLedger}

theorem items_absorb (readable : ledger.loadError = none) (kind : Kind) :
    (ledger.absorb host mapping).2.data.items kind =
      (absorbRows (kind.rowId host) (ledger.data.items kind) (mapping.incoming kind)).target := by
  unfold absorb absorbSection
  rw [readable]
  cases kind with
  | patterns => rw [items_setItems_of_ne _ _ (by decide), items_setItems_self]
  | blockers =>
    rw [items_setItems_self, items_setItems_of_ne _ _ (by decide)]

theorem others_absorb : (ledger.absorb host mapping).2.data.others = ledger.data.others := by
  unfold absorb absorbSection
  split <;> rfl

theorem loadError_absorb : (ledger.absorb host mapping).2.loadError = ledger.loadError := by
  unfold absorb
  split
  next error unreadable => rfl
  next readable => rfl

theorem keeps_absorb (readable : ledger.loadError = none) (kind : Kind) :
    Keeps (ledger.data.items kind) ((ledger.absorb host mapping).2.data.items kind) := by
  rw [items_absorb readable]
  have after := @ids_target host kind (ledger.data.items kind) (mapping.incoming kind)
  refine ⟨fun id listed => ?_, after.2⟩
  rw [after.1, mem_taken]
  exact .inl listed

theorem address_mem_absorb (readable : ledger.loadError = none) {kind : Kind}
    {earlier later : List Row} {row : Row}
    (split : mapping.incoming kind = earlier ++ row :: later) :
    address host kind earlier row ∈ ids ((ledger.absorb host mapping).2.data.items kind) := by
  rw [items_absorb readable, (ids_target _ _).1, mem_taken]
  exact .inr ⟨earlier, row, later, split, rfl⟩

theorem absorb_of_taken (readable : ledger.loadError = none)
    (there : ∀ kind, (ledger.data.sections kind).isSome)
    (taken : ∀ kind earlier row later, mapping.incoming kind = earlier ++ row :: later →
      address host kind earlier row ∈ ids (ledger.data.items kind)) :
    ledger.absorb host mapping = (⟨0, 0, none⟩, ledger) := by
  have same : ∀ kind, ledger.data.absorbSection host mapping kind = (ledger.data, 0) := by
    intro kind
    obtain ⟨rows, none⟩ := absorbRows_of_taken (taken kind)
    unfold absorbSection
    dsimp only
    rw [rows, none]
    obtain ⟨items, known⟩ := Option.isSome_iff_exists.mp (there kind)
    have written : some (ledger.data.items kind) = ledger.data.sections kind := by
      rw [Data.items, known, Option.getD_some]
    rw [setItems, written, Function.update_eq_self]
  unfold absorb
  simp only [readable, same]
  rw [← readable]

end Absorb

section Contract

/-- The positions whose rows a migration takes over. -/
def copiedPositions (host : Host) (mapping : Mapping) (data : Data) (kind : Kind) : List ℕ :=
  let absorbed (count : ℕ) := (absorbRows (kind.rowId host) (data.items kind)
    ((mapping.incoming kind).take count)).absorbed
  (List.range (mapping.incoming kind).length).filter fun position =>
    absorbed position ≠ absorbed (position + 1)

/-- The histories of a ledger with the positions that earlier migrations of one mapping have taken
over. Other changes keep the ids of the rows that were taken over. -/
inductive Migrated (host : Host) (mapping : Mapping) :
    StrategyLedger → (Kind → List ℕ) → Prop where
  | fresh {ledger : StrategyLedger} (readable : ledger.loadError = none)
      (unique : ledger.data.Unique) : Migrated host mapping ledger fun _ => []
  | changed {before after : StrategyLedger} {migrated : Kind → List ℕ}
      (history : Migrated host mapping before migrated) (readable : after.loadError = none)
      (unique : after.data.Unique)
      (kept : ∀ kind earlier row later, mapping.incoming kind = earlier ++ row :: later →
        earlier.length ∈ migrated kind →
        address host kind earlier row ∈ ids (before.data.items kind) →
        address host kind earlier row ∈ ids (after.data.items kind)) :
      Migrated host mapping after migrated
  | absorbed {before : StrategyLedger} {migrated : Kind → List ℕ}
      (history : Migrated host mapping before migrated) :
      Migrated host mapping (before.absorb host mapping).2 fun kind =>
        migrated kind ++ copiedPositions host mapping before.data kind

/-- What a migration promises: every row that was not taken over before gets a row of its own, the
rows that were there stay as they are, every id is unique, and a second migration adds nothing. -/
structure Preserved (host : Host) (mapping : Mapping) (ledger : StrategyLedger)
    (migrated : Kind → List ℕ) : Prop where
  rows : ∀ kind, ∃ added,
    (ledger.absorb host mapping).2.data.items kind =
      ledger.data.items kind ++ added.map .row ∧
    List.Forall₂ Copies (unmigrated (migrated kind) (mapping.incoming kind)) added
  others : (ledger.absorb host mapping).2.data.others = ledger.data.others
  unique : (ledger.absorb host mapping).2.data.Unique
  again : (ledger.absorb host mapping).2.absorb host mapping =
    (⟨0, 0, none⟩, (ledger.absorb host mapping).2)

variable {host : Host} {mapping : Mapping} {ledger : StrategyLedger} {migrated : Kind → List ℕ}

theorem Migrated.sound (history : Migrated host mapping ledger migrated) :
    ledger.loadError = none ∧ ledger.data.Unique ∧
      ∀ kind earlier row later, mapping.incoming kind = earlier ++ row :: later →
        earlier.length ∈ migrated kind →
        address host kind earlier row ∈ ids (ledger.data.items kind) := by
  induction history with
  | fresh readable unique => exact ⟨readable, unique, fun _ _ _ _ _ => nofun⟩
  | changed history readable unique kept ih =>
    refine ⟨readable, unique, fun kind earlier row later split before => ?_⟩
    exact kept kind earlier row later split before (ih.2.2 kind earlier row later split before)
  | absorbed history ih =>
    obtain ⟨readable, unique, _⟩ := ih
    refine ⟨loadError_absorb.trans readable, ?_, ?_⟩
    · exact fun kind => (keeps_absorb readable kind).2 (unique kind)
    · exact fun kind earlier row later split _ => address_mem_absorb readable split

/-- A migration keeps its promise exactly if, in every section, the address of each row that was not
taken over before is neither in the ledger nor the address of an earlier row, where one of the two
declares its id. -/
theorem absorb_preserves_iff (history : Migrated host mapping ledger migrated) :
    Preserved host mapping ledger migrated ↔
      ∀ kind, Clear host kind (ids (ledger.data.items kind)) (migrated kind)
        (mapping.incoming kind) := by
  obtain ⟨readable, unique, done⟩ := history.sound
  constructor
  · intro preserved kind
    obtain ⟨added, rows, fewer, _, clear⟩ := absorbRows_added (mapping.incoming kind) (done kind)
    obtain ⟨copied, same, copies⟩ := preserved.rows kind
    rw [items_absorb readable, rows] at same
    have counts := congrArg List.length (append_cancel_left same)
    rw [length_map, length_map] at counts
    exact clear (counts.trans copies.length_eq.symm)
  · intro clear
    refine ⟨fun kind => ?_, others_absorb, ?_, ?_⟩
    · obtain ⟨added, rows, _, copies, _⟩ := absorbRows_added (mapping.incoming kind) (done kind)
      exact ⟨added, (items_absorb readable kind).trans rows, copies (clear kind)⟩
    · exact fun kind => (keeps_absorb readable kind).2 (unique kind)
    · refine absorb_of_taken (loadError_absorb.trans readable) ?_ ?_
      · intro kind
        unfold absorb absorbSection setItems
        rw [readable]
        cases kind <;> simp
      · exact fun kind earlier row later split => address_mem_absorb readable split

private def sampleHost : Host where
  lower text := String.ofList (text.toList.map Char.toLower)
  sha1 := .standard

private def sampleMapping : Mapping := fun key =>
  if key = "patterns_learned" then
    some (.items [.row (.ofList [("pattern", .text "Deploys fail on Fridays"),
      ("source", .text "incident 12")])])
  else none

private def recorded : StrategyLedger where
  data := Data.initial.addPattern sampleHost "deploys fail on fridays" "retrospective" ""
    "2026-01-05"
  loadError := none

/-- The mapping's pattern is recorded in the ledger as well, and the migration leaves its row
out. -/
theorem absorb_drops_recorded : Migrated sampleHost sampleMapping recorded (fun _ => []) ∧
      ¬ Preserved sampleHost sampleMapping recorded fun _ => [] := by
  refine ⟨.fresh rfl fun kind => ?_, fun preserved => ?_⟩
  · refine (keeps_addPattern _ _ _ _ kind).2 ?_
    exact nodup_nil
  · obtain ⟨added, rows, copies⟩ := preserved.rows .patterns
    have counts := congrArg List.length rows
    rw [length_append, length_map, ← copies.length_eq] at counts
    exact absurd counts (by decide +kernel)

/-- A new ledger takes over every row of a mapping whose rows have no ids. -/
theorem absorb_preserves_new :
    Preserved sampleHost sampleMapping ⟨Data.initial, none⟩ fun _ => [] := by
  have history : Migrated sampleHost sampleMapping ⟨initial, none⟩ fun _ => [] :=
    .fresh rfl fun _ => nodup_nil
  refine (absorb_preserves_iff history).mpr fun kind earlier row later split _ => ⟨nofun, ?_⟩
  intro first other between split' _ same
  have long := congrArg List.length split
  have few : (sampleMapping.incoming kind).length ≤ 1 := by cases kind <;> decide
  rw [split'] at long
  simp at long
  omega

end Contract

end Kestrel.Strategy
