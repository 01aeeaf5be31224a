import Kestrel.Base.Keyset
import Kestrel.Sessions.Grouping
import Mathlib.Algebra.BigOperators.Group.List.Basic
import Mathlib.Algebra.GroupWithZero.Nat
import Mathlib.Data.String.Basic

/-!
# Listed sessions

Summaries with the same id are merged into one, and the list of merged sessions is read by pages.
-/

namespace Kestrel.Sessions

open List Session Bool

section Definitions

/-- What a further summary adds to the one that is listed for its id. -/
def Session.absorb (existing session : Session) : Session :=
  let counted :=
    { existing with
      messageCount := existing.messageCount + session.messageCount
      userMessageCount := existing.userMessageCount + session.userMessageCount
      messages := existing.messages ++ session.messages
      startedAt := if session.startedAt < existing.startedAt then session.startedAt
        else existing.startedAt
      lastMessageAt := if existing.lastMessageAt < session.lastMessageAt then
        session.lastMessageAt else existing.lastMessageAt
      previewWakeSource := existing.previewWakeSource.or session.previewWakeSource }
  if existing.previewContent = none ∧ session.previewContent ≠ none then
    { counted with
      previewContent := session.previewContent
      previewMetadata := session.previewMetadata }
  else counted

/-- One summary taken into the list, which is in the order of first appearance. -/
def mergeSession : List Session → Session → List Session
  | [], session => [session]
  | existing :: merged, session =>
    if existing.sessionId = session.sessionId then existing.absorb session :: merged
    else existing :: mergeSession merged session

def coalesceSessionsBySessionId (sessions : List Session) : List Session :=
  sessions.foldl mergeSession []

/-- The columns that order sessions. -/
inductive Column where
  | lastMessageAt
  | sessionId
  deriving DecidableEq, Repr

/-- `SESSION_ORDER`: newest activity first, and ids break ties. The flag is `descending`. -/
def sessionOrder : List (Column × Bool) := [(.lastMessageAt, true), (.sessionId, false)]

/-- A column's value in its comparable spelling. Instants are stored in texts that compare as the
instants do. -/
inductive Key where
  | instant (value : ℕ)
  | text (value : String)
  deriving DecidableEq, Repr

/-- Keys of one column compare as their values. -/
def Key.less : Key → Key → Bool
  | .instant left, .instant right => left < right
  | .text left, .text right => left < right
  | _, _ => false

/-- `session_order_value` of a session. -/
def Session.key (session : Session) : Column → Key
  | .lastMessageAt => .instant session.lastMessageAt
  | .sessionId => .text session.sessionId

/-- `session_cursor_values`. -/
def Session.cursorValues (session : Session) : List Key :=
  sessionOrder.map fun (column, _) => session.key column

inductive Operator where
  | equal
  | less
  | greater
  | lessOrEqual
  | greaterOrEqual
  deriving DecidableEq, Repr

/-- A comparison of a column with a parameter. -/
structure Comparison where
  column : Column
  operator : Operator
  parameter : Key
  deriving DecidableEq, Repr

/-- A comparison, and a disjunction of conjunctions of comparisons. -/
structure Clause where
  lead : Comparison
  terms : List (List Comparison)
  deriving DecidableEq, Repr

def Comparison.holds (comparison : Comparison) (session : Session) : Bool :=
  let value := session.key comparison.column
  match comparison.operator with
  | .equal => value = comparison.parameter
  | .less => value.less comparison.parameter
  | .greater => comparison.parameter.less value
  | .lessOrEqual => value.less comparison.parameter ∨ value = comparison.parameter
  | .greaterOrEqual => comparison.parameter.less value ∨ value = comparison.parameter

def Clause.holds (clause : Clause) (session : Session) : Bool :=
  clause.lead.holds session ∧ clause.terms.any (·.all (·.holds session))

/-- `session_cursor_clause`: equal to the cursor on every earlier key and past it on this one. The
leading comparison lets an index seek. -/
def sessionCursorClause (after : List Key) : Except String Clause :=
  match sessionOrder, after with
  | (leadColumn, leadDescending) :: _, lead :: _ =>
    if after.length ≠ sessionOrder.length then
      .error s!"session cursor needs {sessionOrder.length} values, got {after.length}"
    else
      .ok
        { lead := ⟨leadColumn, if leadDescending then .lessOrEqual else .greaterOrEqual, lead⟩
          terms := (sessionOrder.zip after).zipIdx.map fun (((column, descending), value), index) =>
            (((sessionOrder.zip after).take index).map fun ((earlier, _), equalTo) =>
              ⟨earlier, .equal, equalTo⟩) ++
            [⟨column, if descending then .less else .greater, value⟩] }
  | _, _ => .error s!"session cursor needs {sessionOrder.length} values, got {after.length}"

/-- The order of one column, in one direction. -/
def Session.atMost (column : Column) (descending : Bool) (left right : Session) : Bool :=
  if descending then ¬ (left.key column).less (right.key column)
  else ¬ (right.key column).less (left.key column)

/-- `sort_sessions`: stable sorts, by the least significant key first. -/
def sortSessions (sessions : List Session) : List Session :=
  sessionOrder.foldr (fun (column, descending) sorted =>
    sorted.mergeSort (Session.atMost column descending)) sessions

/-- Whether a session comes after another one in the list, as the clause decides. -/
def Session.precedes (cursor session : Session) : Bool :=
  match sessionCursorClause cursor.cursorValues with
  | .ok clause => clause.holds session
  | .error _ => false

/-- `page` of the stored sessions. -/
def pageSessions (sessions : List Session) (limit : ℕ) (after : Option Session) : List Session :=
  Keyset.query Session.precedes (sortSessions sessions) (max 1 limit) after

end Definitions

section Merging

variable {session existing listed : Session} {merged sessions : List Session}

@[simp] theorem Session.absorb_sessionId :
    (existing.absorb session).sessionId = existing.sessionId := by
  unfold absorb
  dsimp only
  split
  · rfl
  · rfl

theorem Session.absorb_fields :
    (existing.absorb session).messageCount = existing.messageCount + session.messageCount ∧
      (existing.absorb session).userMessageCount =
        existing.userMessageCount + session.userMessageCount ∧
      (existing.absorb session).messages = existing.messages ++ session.messages ∧
      (existing.absorb session).startedAt = min existing.startedAt session.startedAt ∧
      (existing.absorb session).lastMessageAt =
        max existing.lastMessageAt session.lastMessageAt := by
  have start : (if session.startedAt < existing.startedAt then session.startedAt
      else existing.startedAt) = min existing.startedAt session.startedAt := by
    by_cases earlier : session.startedAt < existing.startedAt
    · rw [if_pos earlier, Nat.min_eq_right (Nat.le_of_lt earlier)]
    · rw [if_neg earlier, Nat.min_eq_left (Nat.le_of_not_lt earlier)]
  have last : (if existing.lastMessageAt < session.lastMessageAt then session.lastMessageAt
      else existing.lastMessageAt) = max existing.lastMessageAt session.lastMessageAt := by
    by_cases later : existing.lastMessageAt < session.lastMessageAt
    · rw [if_pos later, Nat.max_eq_right (Nat.le_of_lt later)]
    · rw [if_neg later, Nat.max_eq_left (Nat.le_of_not_lt later)]
  unfold absorb
  dsimp only
  split
  all_goals exact ⟨rfl, rfl, rfl, start, last⟩

theorem map_sessionId_mergeSession : (mergeSession merged session).map (·.sessionId) =
      if session.sessionId ∈ merged.map (·.sessionId) then merged.map (·.sessionId)
      else merged.map (·.sessionId) ++ [session.sessionId] := by
  induction merged with
  | nil => rfl
  | cons existing merged ih =>
    unfold mergeSession
    by_cases same : existing.sessionId = session.sessionId
    · rw [if_pos same, map_cons, map_cons, absorb_sessionId, if_pos (same ▸ mem_cons_self)]
    · rw [if_neg same, map_cons, map_cons, ih]
      by_cases present : session.sessionId ∈ merged.map (·.sessionId)
      · rw [if_pos present, if_pos (mem_cons_of_mem _ present)]
      · have absent : session.sessionId ∉ existing.sessionId :: merged.map (·.sessionId) :=
          not_mem_cons_of_ne_of_not_mem (Ne.symm same) present
        rw [if_neg present, if_neg absent]
        rfl

theorem nodup_mergeSession (nodup : (merged.map (·.sessionId)).Nodup) :
    ((mergeSession merged session).map (·.sessionId)).Nodup := by
  rw [map_sessionId_mergeSession]
  split
  · exact nodup
  · rename_i absent
    exact nodup_append.mpr ⟨nodup, nodup_singleton _, fun key present other only same =>
      absent (mem_singleton.mp only ▸ same ▸ present)⟩

theorem mem_mergeSession (nodup : (merged.map (·.sessionId)).Nodup)
    (member : listed ∈ mergeSession merged session) :
    (listed ∈ merged ∧ listed.sessionId ≠ session.sessionId) ∨
      (∃ existing ∈ merged, existing.sessionId = session.sessionId ∧
        listed = existing.absorb session) ∨
      (listed = session ∧ session.sessionId ∉ merged.map (·.sessionId)) := by
  induction merged with
  | nil =>
    rw [mergeSession, mem_singleton] at member
    exact .inr (.inr ⟨member, not_mem_nil⟩)
  | cons existing merged ih =>
    rw [map_cons, nodup_cons] at nodup
    unfold mergeSession at member
    by_cases same : existing.sessionId = session.sessionId
    · rw [if_pos same] at member
      rcases mem_cons.mp member with rfl | later
      · exact .inr (.inl ⟨existing, mem_cons_self, same, rfl⟩)
      · refine .inl ⟨mem_cons_of_mem _ later, fun collision => nodup.1 ?_⟩
        rw [same, ← collision]
        exact mem_map_of_mem later
    · rw [if_neg same] at member
      rcases mem_cons.mp member with rfl | later
      · exact .inl ⟨mem_cons_self, same⟩
      · rcases ih nodup.2 later with ⟨kept, other⟩ | ⟨found, present, equal, rfl⟩ | ⟨rfl, absent⟩
        · exact .inl ⟨mem_cons_of_mem _ kept, other⟩
        · exact .inr (.inl ⟨found, mem_cons_of_mem _ present, equal, rfl⟩)
        · refine .inr (.inr ⟨rfl, ?_⟩)
          rw [map_cons]
          exact not_mem_cons_of_ne_of_not_mem (Ne.symm same) absent

theorem sum_mergeSession {quantity : Session → ℕ} (additive : ∀ existing session : Session,
      quantity (existing.absorb session) = quantity existing + quantity session) :
    ((mergeSession merged session).map quantity).sum =
      (merged.map quantity).sum + quantity session := by
  induction merged with
  | nil => rw [mergeSession, map_singleton, sum_singleton, map_nil, sum_nil,
      Nat.zero_add]
  | cons existing merged ih =>
    unfold mergeSession
    split
    · rw [map_cons, sum_cons, map_cons, sum_cons, additive]
      omega
    · rw [map_cons, sum_cons, map_cons, sum_cons, ih]
      omega

theorem sum_coalesceSessionsBySessionId {quantity : Session → ℕ}
    (additive : ∀ existing session : Session,
      quantity (existing.absorb session) = quantity existing + quantity session)
    (sessions : List Session) :
    ((coalesceSessionsBySessionId sessions).map quantity).sum = (sessions.map quantity).sum := by
  have folded : ∀ merged : List Session, ((sessions.foldl mergeSession merged).map quantity).sum =
      (merged.map quantity).sum + (sessions.map quantity).sum := by
    induction sessions with
    | nil => exact fun merged => (Nat.add_zero _).symm
    | cons session sessions ih =>
      intro merged
      rw [foldl_cons, ih, sum_mergeSession additive, map_cons, sum_cons]
      omega
  rw [coalesceSessionsBySessionId, folded, map_nil, sum_nil, Nat.zero_add]

/-- A listed summary stands for the summaries of its id: it has all their messages in order, and
spans from the earliest start to the latest activity among them. -/
structure Session.Summarizes (listed : Session) (own : List Session) : Prop where
  messages : listed.messages = own.flatMap (·.messages)
  messageCount : listed.messageCount = (own.map (·.messageCount)).sum
  userMessageCount : listed.userMessageCount = (own.map (·.userMessageCount)).sum
  startedAt : listed.startedAt ∈ own.map (·.startedAt) ∧
    ∀ session ∈ own, listed.startedAt ≤ session.startedAt
  lastMessageAt : listed.lastMessageAt ∈ own.map (·.lastMessageAt) ∧
    ∀ session ∈ own, session.lastMessageAt ≤ listed.lastMessageAt

theorem Session.summarizes_self (session : Session) : session.Summarizes [session] where
  messages := (flatMap_singleton ..).symm
  messageCount := by rw [map_singleton, sum_singleton]
  userMessageCount := by rw [map_singleton, sum_singleton]
  startedAt := ⟨mem_cons_self, fun _ member => by rw [mem_singleton.mp member]⟩
  lastMessageAt := ⟨mem_cons_self, fun _ member => by rw [mem_singleton.mp member]⟩

theorem Session.Summarizes.absorb {own : List Session} (summarizes : existing.Summarizes own) :
    (existing.absorb session).Summarizes (own ++ [session]) := by
  obtain ⟨messageCount, userMessageCount, messages, startedAt, lastMessageAt⟩ :=
    @absorb_fields session existing
  refine ⟨?_, ?_, ?_, ⟨?_, ?_⟩, ⟨?_, ?_⟩⟩
  · rw [messages, flatMap_append, flatMap_singleton, summarizes.messages]
  · rw [messageCount, map_append, sum_append, map_singleton, sum_singleton, summarizes.messageCount]
  · rw [userMessageCount, map_append, sum_append, map_singleton,
      sum_singleton, summarizes.userMessageCount]
  · rw [startedAt, map_append, mem_append]
    rcases Nat.le_total existing.startedAt session.startedAt with earlier | later
    · rw [Nat.min_eq_left earlier]
      exact .inl summarizes.startedAt.1
    · rw [Nat.min_eq_right later]
      exact .inr mem_cons_self
  · intro other member
    rw [startedAt]
    rcases mem_append.mp member with old | new
    · exact Nat.le_trans (Nat.min_le_left _ _) (summarizes.startedAt.2 other old)
    · rw [mem_singleton.mp new]
      exact Nat.min_le_right _ _
  · rw [lastMessageAt, map_append, mem_append]
    rcases Nat.le_total session.lastMessageAt existing.lastMessageAt with earlier | later
    · rw [Nat.max_eq_left earlier]
      exact .inl summarizes.lastMessageAt.1
    · rw [Nat.max_eq_right later]
      exact .inr mem_cons_self
  · intro other member
    rw [lastMessageAt]
    rcases mem_append.mp member with old | new
    · exact Nat.le_trans (summarizes.lastMessageAt.2 other old) (Nat.le_max_left _ _)
    · rw [mem_singleton.mp new]
      exact Nat.le_max_right _ _

structure Coalesced (merged seen : List Session) : Prop where
  nodup : (merged.map (·.sessionId)).Nodup
  ids : ∀ key, key ∈ merged.map (·.sessionId) ↔ key ∈ seen.map (·.sessionId)
  summarizes : ∀ listed ∈ merged,
    listed.Summarizes (seen.filter (·.sessionId = listed.sessionId))

theorem Coalesced.merge {seen : List Session} (coalesced : Coalesced merged seen) :
    Coalesced (mergeSession merged session) (seen ++ [session]) := by
  refine ⟨nodup_mergeSession coalesced.nodup, ?_, ?_⟩
  · intro key
    rw [map_sessionId_mergeSession, map_append, mem_append, ← coalesced.ids,
      map_singleton, mem_singleton]
    split
    · rename_i present
      exact ⟨.inl, fun either => either.elim id fun same => same ▸ present⟩
    · rw [mem_append, mem_singleton]
  · intro listed member
    rw [filter_append]
    rcases mem_mergeSession coalesced.nodup member with
      ⟨kept, other⟩ | ⟨found, present, same, rfl⟩ | ⟨rfl, absent⟩
    · rw [filter_cons_of_neg (by simpa using Ne.symm other), filter_nil,
        append_nil]
      exact coalesced.summarizes listed kept
    · rw [absorb_sessionId, filter_cons_of_pos (by simpa using same.symm),
        filter_nil]
      exact (coalesced.summarizes found present).absorb
    · have unseen : seen.filter (·.sessionId = listed.sessionId) = [] := by
        refine filter_eq_nil_iff.mpr fun other earlier => ?_
        rw [decide_eq_true_iff]
        rintro same
        apply absent
        rw [coalesced.ids, ← same]
        exact mem_map_of_mem earlier
      rw [unseen, nil_append, filter_cons_of_pos (by simp), filter_nil]
      exact listed.summarizes_self

theorem coalesced_coalesceSessionsBySessionId (sessions : List Session) :
    Coalesced (coalesceSessionsBySessionId sessions) sessions := by
  have folded : ∀ (rest merged seen : List Session), Coalesced merged seen →
      Coalesced (rest.foldl mergeSession merged) (seen ++ rest) := by
    intro rest
    induction rest with
    | nil =>
      intro merged seen coalesced
      rw [append_nil]
      exact coalesced
    | cons session rest ih =>
      intro merged seen coalesced
      rw [append_cons]
      exact ih _ _ coalesced.merge
  exact folded sessions [] [] ⟨nodup_nil, fun _ => Iff.rfl, nofun⟩

end Merging

section Paging

variable {cursor session : Session}

theorem Session.precedes_iff :
    cursor.precedes session = true ↔ session.lastMessageAt < cursor.lastMessageAt ∨
      session.lastMessageAt = cursor.lastMessageAt ∧ cursor.sessionId < session.sessionId := by
  have clause : sessionCursorClause cursor.cursorValues = .ok
      { lead := ⟨.lastMessageAt, .lessOrEqual, .instant cursor.lastMessageAt⟩
        terms := [[⟨.lastMessageAt, .less, .instant cursor.lastMessageAt⟩],
          [⟨.lastMessageAt, .equal, .instant cursor.lastMessageAt⟩,
            ⟨.sessionId, .greater, .text cursor.sessionId⟩]] } := rfl
  unfold precedes
  rw [clause]
  simp only [Clause.holds, Comparison.holds, key, Key.less, any_cons, any_nil,
    all_cons, all_nil, Bool.or_false, Bool.and_true, Bool.or_eq_true, Bool.and_eq_true,
    decide_eq_true_eq, Key.instant.injEq]
  exact ⟨And.right, fun selected => ⟨selected.imp_right And.left, selected⟩⟩

theorem Session.precedes_asymm (left right : Session) (precedes : left.precedes right = true) :
    right.precedes left = false := by
  rw [← not_eq_true, precedes_iff]
  rw [precedes_iff] at precedes
  rintro (earlier | ⟨tied, less⟩)
  · rcases precedes with earlier' | ⟨tied, _⟩
    · omega
    · omega
  · rcases precedes with earlier' | ⟨_, less'⟩
    · omega
    · exact absurd less (lt_asymm less')

theorem Session.atMost_iff (column : Column) (descending : Bool) (left right : Session) :
    atMost column descending left right = true ↔ match column, descending with
      | .lastMessageAt, true => right.lastMessageAt ≤ left.lastMessageAt
      | .lastMessageAt, false => left.lastMessageAt ≤ right.lastMessageAt
      | .sessionId, true => right.sessionId ≤ left.sessionId
      | .sessionId, false => left.sessionId ≤ right.sessionId := by
  cases column with
  | lastMessageAt =>
    cases descending <;>
      simp only [atMost, key, Key.less, ↓reduceIte, false_eq_true,
        decide_eq_true_eq, Nat.not_lt]
  | sessionId =>
    cases descending <;>
      simp only [atMost, key, Key.less, ↓reduceIte, false_eq_true, decide_eq_true_eq, not_lt]

theorem Session.atMost_trans (column : Column) (descending : Bool) (left middle right : Session)
    (first : atMost column descending left middle = true)
    (second : atMost column descending middle right = true) :
    atMost column descending left right = true := by
  rw [atMost_iff] at *
  cases column with
  | lastMessageAt =>
    cases descending with
    | true => exact Nat.le_trans second first
    | false => exact Nat.le_trans first second
  | sessionId =>
    cases descending with
    | true => exact le_trans second first
    | false => exact le_trans first second

theorem Session.atMost_total (column : Column) (descending : Bool) (left right : Session) :
    (atMost column descending left right ||
      atMost column descending right left) = true := by
  rw [or_eq_true, atMost_iff, atMost_iff]
  cases column with
  | lastMessageAt =>
    cases descending with
    | true | false => exact Nat.le_total _ _
  | sessionId =>
    cases descending with
    | true | false => exact le_total _ _

theorem sortSessions_perm (sessions : List Session) : (sortSessions sessions).Perm sessions :=
  (mergeSort_perm _ _).trans (mergeSort_perm _ _)

theorem sortSessions_pairwise {sessions : List Session}
    (nodup : (sessions.map (·.sessionId)).Nodup) :
    (sortSessions sessions).Pairwise (precedes · ·) := by
  let byId := sessions.mergeSort (atMost .sessionId false)
  have permuted : byId.Perm sessions := mergeSort_perm _ _
  have distinct : (byId.map (·.sessionId)).Nodup := (permuted.map _).nodup_iff.mpr nodup
  have ascending : byId.Pairwise fun left right => left.sessionId < right.sessionId := by
    have weakly := pairwise_mergeSort (atMost_trans .sessionId false)
      (atMost_total .sessionId false) sessions
    refine (weakly.and (pairwise_map.mp distinct)).imp fun {left right} both => ?_
    exact lt_of_le_of_ne ((atMost_iff ..).mp both.1) both.2
  have stable := Keyset.pairwise_mergeSort_of_pairwise (atMost_trans .lastMessageAt true)
    (atMost_total .lastMessageAt true) distinct.of_map ascending
  refine stable.imp fun {left right} ordered => ?_
  rw [precedes_iff]
  have latest : right.lastMessageAt ≤ left.lastMessageAt := (atMost_iff ..).mp ordered.1
  rcases Nat.lt_or_ge right.lastMessageAt left.lastMessageAt with less | tied
  · exact .inl less
  · exact .inr ⟨Nat.le_antisymm latest tied, ordered.2 ((atMost_iff ..).mpr tied)⟩

theorem flatten_pages_pageSessions {sessions : List Session}
    (nodup : (sessions.map (·.sessionId)).Nodup) (limit : ℕ) {count : ℕ}
    (enough : sessions.length ≤ count) :
    (Keyset.pages (pageSessions sessions limit) count none).flatten = sortSessions sessions := by
  apply Keyset.flatten_pages (Nat.le_max_left 1 limit) precedes_asymm (sortSessions_pairwise nodup)
  rw [(sortSessions_perm sessions).length_eq]
  exact enough

end Paging

section Listing

/-- Sessions partition the transcript and survive appends; the listed ones have different ids,
conserve the counts and span what they stand for; and paging shows each listed one once. -/
theorem session_listing_faithful (options : GroupingOptions) (messages : List Message) :
    let sessions := groupMessagesIntoSessions options messages
    let listed := coalesceSessionsBySessionId sessions
    sessions.flatMap (·.messages) = messages.filter (¬ ·.isMarker) ∧
    (∀ session ∈ sessions, session.messageCount = session.messages.length ∧
      session.userMessageCount = session.messages.countP (·.role = "user")) ∧
    (∀ more, sessions.dropLast <+: groupMessagesIntoSessions options (messages ++ more)) ∧
    (listed.map (·.sessionId)).Nodup ∧
    (listed.map (·.messageCount)).sum = (sessions.map (·.messageCount)).sum ∧
    (listed.map (·.userMessageCount)).sum = (sessions.map (·.userMessageCount)).sum ∧
    (∀ key, key ∈ listed.map (·.sessionId) ↔ key ∈ sessions.map (·.sessionId)) ∧
    (∀ merged ∈ listed, merged.Summarizes (sessions.filter (·.sessionId = merged.sessionId))) ∧
    ∀ limit count, listed.length ≤ count →
      (Keyset.pages (pageSessions listed limit) count none).flatten = sortSessions listed ∧
        (sortSessions listed).Perm listed := by
  intro sessions listed
  obtain ⟨partitioned, counted⟩ := flatMap_groupMessagesIntoSessions options messages
  have coalesced := coalesced_coalesceSessionsBySessionId sessions
  refine ⟨partitioned, ?_, ?_, coalesced.nodup, ?_, ?_, coalesced.ids, coalesced.summarizes, ?_⟩
  · intro session member
    exact ⟨(counted session member).messageCount, (counted session member).userMessageCount⟩
  · intro more
    exact dropLast_groupMessagesIntoSessions_prefix options messages more
  · exact sum_coalesceSessionsBySessionId (fun _ _ => absorb_fields.1) sessions
  · exact sum_coalesceSessionsBySessionId (fun _ _ => absorb_fields.2.1) sessions
  · intro limit count enough
    exact ⟨flatten_pages_pageSessions coalesced.nodup limit enough, sortSessions_perm listed⟩

end Listing

end Kestrel.Sessions
