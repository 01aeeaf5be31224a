import Kestrel.Base.Json
import Kestrel.Strategy.Ledger
import Mathlib.Data.List.Forall2
import Mathlib.Data.List.Induction
import Mathlib.Data.List.TakeWhile

/-!
# Taking rows over into the ledger

A row that is taken over keeps its id, or gets its content's id and the number of its occurrence. It
is left out where its id is taken, and the ledger cannot tell a row of an earlier migration from
another row.
-/

namespace Kestrel.Strategy

open List Text Absorbing

open Absorbing (declared occurrenceId)

section Splits

variable {Member : Type*}

theorem concat_eq_split {members earlier later : List Member} {last member : Member} :
    members ++ [last] = earlier ++ member :: later ↔
      (earlier = members ∧ member = last ∧ later = []) ∨
        ∃ between, members = earlier ++ member :: between ∧ later = between ++ [last] := by
  constructor
  · intro split
    rcases eq_nil_or_concat later with rfl | ⟨between, final, rfl⟩
    · obtain ⟨front, back⟩ := append_inj' split rfl
      cases back
      exact .inl ⟨front.symm, rfl, rfl⟩
    · have split : members ++ [last] = (earlier ++ member :: between) ++ [final] := by
        rw [split]
        simp
      obtain ⟨front, back⟩ := append_inj' split rfl
      cases back
      exact .inr ⟨between, front, concat_eq_append⟩
  · rintro (⟨rfl, rfl, rfl⟩ | ⟨between, rfl, rfl⟩)
    · rfl
    · simp

end Splits

section Addresses

variable (host : Host) (kind : Kind)

/-- The id under which a row that follows others is taken over. -/
def address (earlier : List Row) (row : Row) : String :=
  if declared row ≠ "" then declared row
  else
    occurrenceId (kind.rowId host row) ((earlier.countP fun other =>
      declared other = "" ∧ kind.rowId host other = kind.rowId host row) + 1)

variable {host kind}

theorem length_digest (parts : List (Option Value)) : (digest host parts).toList.length = 12 := by
  unfold digest
  rw [String.toList_ofList, length_take, String.length_toList, host.sha1.length_hexdigest]
  rfl

theorem length_rowId (row : Row) : (kind.rowId host row).toList.length = 16 := by
  cases kind with
  | patterns =>
    rw [Kind.rowId, patternRowId, String.toList_append, length_append, length_digest]
    rfl
  | blockers =>
    rw [Kind.rowId, blockerRowId, String.toList_append, length_append, length_digest]
    rfl

theorem rowId_begins (row : Row) : ∃ letter rest, (kind.rowId host row).toList = letter :: rest ∧
      isSpace letter = false := by
  cases kind with
  | patterns => exact ⟨'p', _, String.toList_append, by decide⟩
  | blockers => exact ⟨'b', _, String.toList_append, by decide⟩

theorem toList_suffixed (candidate : String) (suffix : ℕ) :
    (suffixed candidate suffix).toList = candidate.toList ++ '-' :: Nat.toDigits 10 suffix := by
  unfold suffixed
  rw [String.toList_append, String.toList_append, String.toList_ofList]
  simp

theorem suffixed_injective (candidate : String) : Function.Injective (suffixed candidate) := by
  intro suffix suffix' same
  have letters := congrArg String.toList same
  rw [toList_suffixed, toList_suffixed] at letters
  have digits := append_cancel_left letters
  exact Json.toDigits_injective (cons.inj digits).2

theorem take_occurrenceId (row : Row) (seen : ℕ) :
    (occurrenceId (kind.rowId host row) seen).toList.take 16 = (kind.rowId host row).toList := by
  unfold occurrenceId
  split_ifs
  · exact take_of_length_le (Nat.le_of_eq (length_rowId row))
  · rw [toList_suffixed, take_left' (length_rowId row)]

theorem occurrenceId_inj {base : String} {seen seen' : ℕ}
    (same : occurrenceId base seen = occurrenceId base seen') : seen = seen' := by
  have bare : ∀ seen, base ≠ suffixed base seen := by
    intro seen same
    have lengths := congrArg (fun id : String => id.toList.length) same
    rw [toList_suffixed, length_append, length_cons] at lengths
    omega
  unfold occurrenceId at same
  split_ifs at same with first second second
  · rw [first, second]
  · exact absurd same (bare seen')
  · exact absurd same.symm (bare seen)
  · exact suffixed_injective base same

theorem address_ne_of_undeclared {first between : List Row} {other row : Row}
    (undeclared : declared other = "") (undeclared' : declared row = "") :
    address host kind first other ≠ address host kind (first ++ other :: between) row := by
  intro same
  rw [address, address, if_neg (not_not.mpr undeclared), if_neg (not_not.mpr undeclared')] at same
  have content : kind.rowId host other = kind.rowId host row := by
    apply String.toList_injective
    have letters := congrArg (fun id : String => id.toList.take 16) same
    simpa only [take_occurrenceId] using letters
  rw [content] at same
  have numbers := occurrenceId_inj same
  rw [countP_append, countP_cons, if_pos (by simp [undeclared, content])] at numbers
  omega

theorem not_isBlank_of_begins {text : String} {letter : Char} {rest : List Char}
    (begins : text.toList = letter :: rest) (visible : isSpace letter = false) :
    isBlank text = false := by
  rw [isBlank, begins, all_cons, visible, Bool.false_and]

theorem not_isBlank_suffixed {candidate : String} {letter : Char} {rest : List Char}
    (begins : candidate.toList = letter :: rest) (visible : isSpace letter = false)
    (suffix : ℕ) : isBlank (suffixed candidate suffix) = false := by
  have starts : (suffixed candidate suffix).toList =
      letter :: (rest ++ '-' :: Nat.toDigits 10 suffix) := by
    rw [toList_suffixed, begins, cons_append]
  exact not_isBlank_of_begins starts visible

theorem not_isBlank_declared {row : Row} (declares : declared row ≠ "") :
    isBlank (declared row) = false := by
  rw [declared, isBlank_strip]
  by_contra blank
  rw [Bool.not_eq_false] at blank
  refine declares (String.toList_injective ?_)
  have spaces : row.idText.toList.dropWhile isSpace = [] := by
    rw [dropWhile_eq_nil_iff]
    exact all_eq_true.mp blank
  rw [declared, toList_strip, spaces]
  rfl

theorem not_isBlank_address (earlier : List Row) (row : Row) :
    isBlank (address host kind earlier row) = false := by
  obtain ⟨letter, rest, begins, visible⟩ := @rowId_begins host kind row
  unfold address
  split_ifs with declares
  · exact not_isBlank_declared declares
  · unfold occurrenceId
    split_ifs
    · exact not_isBlank_of_begins begins visible
    · exact not_isBlank_suffixed begins visible _

end Addresses

section Loop

variable {host : Host} {kind : Kind} {target : List Item} {incoming earlier : List Row} {row : Row}

theorem absorbRows_concat (minter : Row → String) (target : List Item) (earlier : List Row)
    (row : Row) :
    absorbRows minter target (earlier ++ [row]) =
      (absorbRows minter target earlier).step minter row :=
  foldl_concat _ _ _ _

theorem occurrences_absorbRows (minter : Row → String) (target : List Item) (incoming : List Row)
    (base : String) :
    (absorbRows minter target incoming).occurrences base =
      incoming.countP fun other => declared other = "" ∧ minter other = base := by
  induction incoming using reverseRecOn with
  | nil => rfl
  | append_singleton incoming row ih =>
    have copied : ∀ (state : Absorbing) rowId, (state.copy row rowId).occurrences =
        state.occurrences := by
      intro state rowId
      unfold copy
      split_ifs <;> rfl
    rw [absorbRows_concat, step, countP_append, ← ih]
    split_ifs with declares
    · rw [copied]
      simp [declares]
    · dsimp only
      rw [copied]
      by_cases same : minter row = base
      · subst same
        simp [declares]
      · simp [Function.update_of_ne (Ne.symm same), same]

theorem target_concat (target : List Item) (earlier : List Row) (row : Row) :
    let state := absorbRows (kind.rowId host) target earlier
    let next := absorbRows (kind.rowId host) target (earlier ++ [row])
    let rowId := address host kind earlier row
    if rowId ∈ state.taken then next.target = state.target ∧ next.taken = state.taken ∧
      next.absorbed = state.absorbed
    else next.target = state.target ++ [.row (row.set "id" (.text rowId))] ∧
      next.taken = rowId :: state.taken ∧ next.absorbed = state.absorbed + 1 := by
  dsimp only
  rw [absorbRows_concat, step]
  dsimp only
  rw [occurrences_absorbRows]
  unfold address copy
  split_ifs <;> simp_all

theorem mem_taken {id : String} :
    id ∈ (absorbRows (kind.rowId host) target incoming).taken ↔ id ∈ ids target ∨
      ∃ earlier row later, incoming = earlier ++ row :: later ∧
        address host kind earlier row = id := by
  induction incoming using reverseRecOn generalizing id with
  | nil =>
    refine (or_iff_left ?_).symm
    rintro ⟨earlier, row, later, split, _⟩
    simp at split
  | append_singleton incoming row ih =>
    have next := @target_concat host kind target incoming row
    dsimp only at next
    simp only [concat_eq_split]
    split_ifs at next with taken
    · rw [next.2.1, ih]
      constructor
      · rintro (old | ⟨earlier, other, later, split, known⟩)
        · exact .inl old
        · exact .inr ⟨earlier, other, later ++ [row], .inr ⟨later, split, rfl⟩, known⟩
      · rintro (old | ⟨earlier, other, later, ⟨rfl, rfl, rfl⟩ | ⟨between, split, rfl⟩, known⟩)
        · exact .inl old
        · rw [← known]
          exact ih.mp taken
        · exact .inr ⟨earlier, other, between, split, known⟩
    · rw [next.2.1, mem_cons, ih]
      constructor
      · rintro (rfl | old | ⟨earlier, other, later, split, known⟩)
        · exact .inr ⟨incoming, row, [], .inl ⟨rfl, rfl, rfl⟩, rfl⟩
        · exact .inl old
        · exact .inr ⟨earlier, other, later ++ [row], .inr ⟨later, split, rfl⟩, known⟩
      · rintro (old | ⟨earlier, other, later, ⟨rfl, rfl, rfl⟩ | ⟨between, split, rfl⟩, known⟩)
        · exact .inr (.inl old)
        · exact .inl known.symm
        · exact .inr (.inr ⟨earlier, other, between, split, known⟩)

theorem ids_concat (items : List Item) (row : Row) {id : String}
    (visible : isBlank id = false) :
    ids (items ++ [.row (row.set "id" (.text id))]) = ids items ++ [id] := by
  simp [ids, Item.row?, visible]

theorem ids_target (target : List Item) (incoming : List Row) :
    (∀ id, id ∈ ids (absorbRows (kind.rowId host) target incoming).target ↔
      id ∈ (absorbRows (kind.rowId host) target incoming).taken) ∧
    ((ids target).Nodup → (ids (absorbRows (kind.rowId host) target incoming).target).Nodup) := by
  induction incoming using reverseRecOn with
  | nil => exact ⟨fun _ => Iff.rfl, id⟩
  | append_singleton incoming row ih =>
    have next := @target_concat host kind target incoming row
    dsimp only at next
    split_ifs at next with taken
    · rw [next.1, next.2.1]
      exact ih
    · rw [next.1, next.2.1, ids_concat _ _ (not_isBlank_address _ _)]
      refine ⟨fun id => ?_, fun unique => ?_⟩
      · rw [mem_append, ih.1, mem_singleton, mem_cons, or_comm]
      · refine nodup_append.mpr ⟨ih.2 unique, nodup_singleton _, ?_⟩
        intro id listed other last same
        rw [mem_singleton.mp last] at same
        rw [same] at listed
        exact taken ((ih.1 _).mp listed)

theorem absorbRows_of_taken (taken : ∀ earlier row later, incoming = earlier ++ row :: later →
      address host kind earlier row ∈ ids target) :
    (absorbRows (kind.rowId host) target incoming).target = target ∧
      (absorbRows (kind.rowId host) target incoming).absorbed = 0 := by
  induction incoming using reverseRecOn with
  | nil => exact ⟨rfl, rfl⟩
  | append_singleton incoming row ih =>
    have next := @target_concat host kind target incoming row
    have listed := taken incoming row [] rfl
    rw [if_pos (mem_taken.mpr (.inl listed))] at next
    rw [next.1, next.2.2]
    refine ih fun earlier other later split => taken earlier other (later ++ [row]) ?_
    rw [split]
    simp

end Loop

section Migration

variable {host : Host} {kind : Kind} {target : List Item} {incoming : List Row}
  {migrated : List ℕ}

/-- The rows at the positions that no earlier migration has taken over. -/
def unmigrated (migrated : List ℕ) (incoming : List Row) : List Row :=
  (incoming.zipIdx.filter fun entry => entry.2 ∉ migrated).map Prod.fst

/-- A row with an id of its own. -/
def Copies (row copied : Row) : Prop := ∃ id, copied = row.set "id" (.text id)

/-- The address of a row that no earlier migration has taken over is neither in the section nor the
address of a row before it, where one of the two declares its id. -/
def Clear (host : Host) (kind : Kind) (taken : List String) (migrated : List ℕ)
    (incoming : List Row) : Prop :=
  ∀ earlier row later, incoming = earlier ++ row :: later → earlier.length ∉ migrated →
    address host kind earlier row ∉ taken ∧
    ∀ first other between, earlier = first ++ other :: between →
      (declared other ≠ "" ∨ declared row ≠ "") →
      address host kind first other ≠ address host kind earlier row

theorem unmigrated_concat (migrated : List ℕ) (incoming : List Row) (row : Row) :
    unmigrated migrated (incoming ++ [row]) =
      unmigrated migrated incoming ++ if incoming.length ∈ migrated then [] else [row] := by
  unfold unmigrated
  rw [zipIdx_append, filter_append, map_append]
  split_ifs with done <;> simp [done]

theorem clear_concat {taken : List String} {row : Row} :
    Clear host kind taken migrated (incoming ++ [row]) ↔ Clear host kind taken migrated incoming ∧
        (incoming.length ∉ migrated → address host kind incoming row ∉ taken ∧
          ∀ first other between, incoming = first ++ other :: between →
            (declared other ≠ "" ∨ declared row ≠ "") →
            address host kind first other ≠ address host kind incoming row) := by
  unfold Clear
  simp only [concat_eq_split]
  constructor
  · intro clear
    refine ⟨fun earlier other later split => ?_, clear incoming row [] (.inl ⟨rfl, rfl, rfl⟩)⟩
    exact clear earlier other (later ++ [row]) (.inr ⟨later, split, rfl⟩)
  · rintro ⟨clear, last⟩ earlier other later (⟨rfl, rfl, rfl⟩ | ⟨between, split, rfl⟩)
    · exact last
    · exact clear earlier other between split

theorem address_notMem_taken {row : Row} :
    address host kind incoming row ∉ (absorbRows (kind.rowId host) target incoming).taken ↔
      address host kind incoming row ∉ ids target ∧
        ∀ first other between, incoming = first ++ other :: between →
          (declared other ≠ "" ∨ declared row ≠ "") →
          address host kind first other ≠ address host kind incoming row := by
  rw [mem_taken, not_or]
  refine and_congr_right fun _ => ?_
  constructor
  · intro free first other between split _ same
    exact free ⟨first, other, between, split, same⟩
  · rintro free ⟨first, other, between, rfl, same⟩
    by_cases declares : declared other ≠ "" ∨ declared row ≠ ""
    · exact free first other between rfl declares same
    · rw [not_or, not_not, not_not] at declares
      exact address_ne_of_undeclared declares.1 declares.2 same

/-- What a section takes over: never more rows than were not migrated before, and a copy of each of
them exactly if their addresses are clear. -/
theorem absorbRows_added (incoming : List Row)
    (done : ∀ earlier row later, incoming = earlier ++ row :: later → earlier.length ∈ migrated →
      address host kind earlier row ∈ ids target) :
    ∃ added, (absorbRows (kind.rowId host) target incoming).target = target ++ added.map .row ∧
      added.length ≤ (unmigrated migrated incoming).length ∧
      (Clear host kind (ids target) migrated incoming →
        Forall₂ Copies (unmigrated migrated incoming) added) ∧
      (added.length = (unmigrated migrated incoming).length →
        Clear host kind (ids target) migrated incoming) := by
  induction incoming using reverseRecOn with
  | nil =>
    refine ⟨[], (append_nil _).symm, Nat.le_refl _, fun _ => .nil, fun _ => ?_⟩
    intro earlier row later split
    simp at split
  | append_singleton incoming row ih =>
    obtain ⟨added, rows, fewer, copies, clear⟩ := ih fun earlier other later split =>
      done earlier other (later ++ [row]) (by rw [split]; simp)
    have next := @target_concat host kind target incoming row
    rw [clear_concat, ← @address_notMem_taken host kind target, unmigrated_concat]
    by_cases migrated' : incoming.length ∈ migrated
    · have taken : address host kind incoming row ∈
          (absorbRows (kind.rowId host) target incoming).taken :=
        mem_taken.mpr (.inl (done incoming row [] rfl migrated'))
      rw [if_pos taken] at next
      rw [if_pos migrated', append_nil]
      refine ⟨added, next.1.trans rows, fewer, fun both => copies both.1, fun all => ?_⟩
      exact ⟨clear all, fun fresh => absurd migrated' fresh⟩
    · rw [if_neg migrated', length_append, length_singleton]
      by_cases taken : address host kind incoming row ∈
          (absorbRows (kind.rowId host) target incoming).taken
      · rw [if_pos taken] at next
        refine ⟨added, next.1.trans rows, by omega, ?_, by omega⟩
        rintro ⟨_, free⟩
        exact absurd taken (free migrated')
      · rw [if_neg taken] at next
        refine ⟨added ++ [row.set "id" (.text (address host kind incoming row))], ?_, ?_, ?_, ?_⟩
        · rw [next.1, rows, map_append, append_assoc]
          rfl
        · rw [length_append, length_singleton]
          omega
        · rintro ⟨before, _⟩
          exact rel_append (copies before) (.cons ⟨_, rfl⟩ .nil)
        · rw [length_append, length_singleton]
          intro all
          exact ⟨clear (by omega), fun _ => taken⟩

end Migration

end Kestrel.Strategy
