import Kestrel.Sessions.Message
import Mathlib.Data.List.Basic

/-!
# Session boundaries

A transcript is cut into sessions, oldest first: where nothing was said for a while, where a row
starts a session, and where a row files itself under another one.
-/

namespace Kestrel.Sessions

open List

/-- The summary of a session, with the messages attributed to it. -/
structure Session where
  sessionId : String
  startedAt : ℕ
  lastMessageAt : ℕ
  messageCount : ℕ := 0
  userMessageCount : ℕ := 0
  previewContent : Option String := none
  previewMetadata : Option Metadata := none
  previewWakeSource : Option String := none
  messages : List Message := []
  deriving Repr

/-- `_GROUPING_EPOCH`, in microseconds since the first representable instant. -/
def groupingEpoch : ℕ := 62135596800000000

/-- `SESSION_GAP_MINUTES`, in microseconds. -/
def sessionGap : ℕ := 30 * 60000000

structure GroupingOptions where
  gap : ℕ := sessionGap
  now : Option ℕ := none
  keepEmptyMarkers : Bool := false

/-- The fold's state: the session that takes rows, and whether a marker alone established it. -/
structure Grouping where
  previous : Option ℕ := none
  sessions : List Session := []
  current : Option Session := none
  currentIsEmptyMarker : Bool := false

namespace Session

/-- `_new_session`. -/
def new (message : Message) (timestamp : ℕ) : Session where
  sessionId := (message.metadata.canonicalSessionId).getD (toString message.id)
  startedAt := timestamp
  lastMessageAt := timestamp

/-- The session with a message attributed to it. The first human turn is its preview. -/
def add (session : Session) (message : Message) (timestamp : ℕ) : Session :=
  let counted :=
    { session with
      messageCount := session.messageCount + 1
      lastMessageAt := timestamp
      messages := session.messages ++ [message] }
  if message.role = "user" then
    let titled :=
      if session.previewContent = none ∧
          message.metadata.isHumanTurn message.role then
        { counted with
          previewContent := message.content
          previewMetadata := some message.metadata }
      else counted
    { titled with
      userMessageCount := session.userMessageCount + 1
      previewWakeSource := session.previewWakeSource.or message.metadata.signalWakeSource }
  else counted

/-- `_keep`. -/
def kept (options : GroupingOptions) (session : Session) (isEmptyMarker : Bool) : Bool :=
  0 < session.messageCount ∨ (options.keepEmptyMarkers ∧ isEmptyMarker)

end Session

namespace Grouping

variable (options : GroupingOptions)

/-- The instant a row is dated at. An undatable one inherits its predecessor's. -/
def timestamp (state : Grouping) (message : Message) : ℕ :=
  ((message.createdAt.or options.now).or state.previous).getD groupingEpoch

/-- Whether a row ends the session that takes rows. -/
def isBoundary (session : Session) (message : Message) (timestamp : ℕ) : Bool :=
  session.lastMessageAt + options.gap < timestamp ∨ message.isMarker ∨
    message.metadata.canonicalSessionId.any (session.sessionId ≠ ·)

/-- The sessions with the current one, if it is kept. -/
def closed (state : Grouping) : List Session :=
  match state.current with
  | some session =>
    if session.kept options state.currentIsEmptyMarker then state.sessions ++ [session]
    else state.sessions
  | none => state.sessions

/-- The fold's step: what one row does. -/
def step (state : Grouping) (message : Message) : Grouping :=
  let timestamp := state.timestamp options message
  let fresh := Session.new message timestamp
  let session := state.current.getD fresh
  let isEmptyMarker := state.current.isSome ∧ state.currentIsEmptyMarker
  if isBoundary options session message timestamp then
    { previous := some timestamp
      sessions := if session.kept options isEmptyMarker then state.sessions ++ [session]
        else state.sessions
      current := some (if message.isMarker then fresh else fresh.add message timestamp)
      currentIsEmptyMarker := message.isMarker }
  else
    { previous := some timestamp
      sessions := state.sessions
      current := some (session.add message timestamp)
      currentIsEmptyMarker := isEmptyMarker }

end Grouping

/-- `group_messages_into_sessions`, collecting messages. -/
def groupMessagesIntoSessions (options : GroupingOptions) (messages : List Message) :
    List Session :=
  (messages.foldl (Grouping.step options) {}).closed options

section Attribution

variable {options : GroupingOptions} {message : Message} {timestamp : ℕ}

/-- A summary's counts are those of its messages. -/
structure Session.Counted (session : Session) : Prop where
  messageCount : session.messageCount = session.messages.length
  userMessageCount : session.userMessageCount = session.messages.countP (·.role = "user")

namespace Session

@[simp] theorem messages_add (session : Session) :
    (session.add message timestamp).messages = session.messages ++ [message] := by
  unfold add
  split
  · split
    · rfl
    · rfl
  · rfl

@[simp] theorem messageCount_add (session : Session) :
    (session.add message timestamp).messageCount = session.messageCount + 1 := by
  unfold add
  dsimp only
  split
  · split
    · rfl
    · rfl
  · rfl

theorem userMessageCount_add (session : Session) :
    (session.add message timestamp).userMessageCount =
      session.userMessageCount + if message.role = "user" then 1 else 0 := by
  unfold add
  by_cases user : message.role = "user"
  · rw [if_pos user, if_pos user]
  · rw [if_neg user, if_neg user]
    rfl

theorem counted_new : (Session.new message timestamp).Counted := ⟨rfl, rfl⟩

theorem Counted.add {session : Session} (counted : session.Counted) :
    (session.add message timestamp).Counted where
  messageCount := by
    rw [messageCount_add, messages_add, length_append, counted.messageCount]
    rfl
  userMessageCount := by
    rw [userMessageCount_add, messages_add, countP_append, counted.userMessageCount,
      countP_singleton]
    by_cases user : message.role = "user"
    · simp only [user, decide_true, ↓reduceIte]
    · simp only [user, decide_false, ↓reduceIte, Bool.false_eq_true]

theorem Counted.messages_of_not_kept {session : Session} {isEmptyMarker : Bool}
    (counted : session.Counted) (dropped : session.kept options isEmptyMarker = false) :
    session.messages = [] := by
  unfold kept at dropped
  rw [decide_eq_false_iff_not, not_or] at dropped
  apply eq_nil_of_length_eq_zero
  rw [← counted.messageCount]
  exact Nat.eq_zero_of_not_pos dropped.1

end Session

namespace Grouping

/-- The messages of the sessions so far, in order. -/
def attributed (state : Grouping) : List Message :=
  state.sessions.flatMap (·.messages) ++ state.current.elim [] (·.messages)

/-- Every summary so far counts its messages. -/
def Counted (state : Grouping) : Prop :=
  (∀ session ∈ state.sessions, session.Counted) ∧ ∀ session ∈ state.current, session.Counted

theorem Counted.met {state : Grouping} (counted : state.Counted) :
    (state.current.getD (Session.new message timestamp)).Counted ∧
      (state.current.getD (Session.new message timestamp)).messages =
        state.current.elim [] (·.messages) := by
  cases present : state.current with
  | none => exact ⟨Session.counted_new, rfl⟩
  | some session => exact ⟨counted.2 session present, rfl⟩

variable {sessions : List Session} {session : Session} {isEmptyMarker : Bool}

theorem flatMap_closing (counted : session.Counted) :
    (if session.kept options isEmptyMarker then sessions ++ [session] else sessions).flatMap
      (·.messages) = sessions.flatMap (·.messages) ++ session.messages := by
  cases kept : session.kept options isEmptyMarker with
  | true => rw [if_pos rfl, flatMap_append, flatMap_singleton]
  | false =>
    rw [if_neg Bool.false_ne_true, counted.messages_of_not_kept kept, append_nil]

theorem counted_closing (all : ∀ session ∈ sessions, session.Counted) (counted : session.Counted) :
    ∀ member ∈ (if session.kept options isEmptyMarker then sessions ++ [session] else sessions),
      member.Counted := by
  intro member present
  split at present
  · rcases mem_append.mp present with earlier | last
    · exact all member earlier
    · rw [mem_singleton.mp last]
      exact counted
  · exact all member present

theorem Counted.step {state : Grouping} (counted : state.Counted) :
    (state.step options message).Counted := by
  obtain ⟨met, _⟩ := @Counted.met message (state.timestamp options message) state counted
  unfold Grouping.step
  dsimp only
  split
  · refine ⟨counted_closing counted.1 met, ?_⟩
    intro session present
    cases present
    split
    · exact Session.counted_new
    · exact Session.counted_new.add
  · refine ⟨counted.1, ?_⟩
    intro session present
    cases present
    exact met.add

theorem Counted.attributed_step {state : Grouping} (counted : state.Counted) :
    (state.step options message).attributed =
      state.attributed ++ if message.isMarker then [] else [message] := by
  obtain ⟨met, same⟩ := @Counted.met message (state.timestamp options message) state counted
  unfold Grouping.step attributed
  by_cases boundary : isBoundary options
      (state.current.getD (Session.new message (state.timestamp options message))) message
      (state.timestamp options message) = true
  · rw [if_pos boundary]
    rw [flatMap_closing met, same, Option.elim_some, append_assoc, append_assoc]
    by_cases marker : message.isMarker = true
    · rw [if_pos marker, if_pos marker]
      rfl
    · rw [if_neg marker, if_neg marker, Session.messages_add]
      rfl
  · rw [if_neg boundary]
    have plain : message.isMarker ≠ true := by
      intro marker
      apply boundary
      unfold isBoundary
      rw [decide_eq_true_iff]
      exact .inr (.inl marker)
    dsimp only
    rw [if_neg plain, Option.elim_some, Session.messages_add, same, append_assoc]

theorem Counted.foldl {state : Grouping} (counted : state.Counted) (messages : List Message) :
    (messages.foldl (Grouping.step options) state).Counted ∧
      (messages.foldl (Grouping.step options) state).attributed =
        state.attributed ++ messages.filter (¬ ·.isMarker) := by
  induction messages generalizing state with
  | nil => exact ⟨counted, (append_nil _).symm⟩
  | cons message messages ih =>
    obtain ⟨counted', attributed⟩ := ih (@Counted.step options message state counted)
    refine ⟨counted', ?_⟩
    rw [foldl_cons, attributed, counted.attributed_step, append_assoc]
    cases marker : message.isMarker with
    | true => rw [filter_cons_of_neg (by simp [marker])]; rfl
    | false => rw [filter_cons_of_pos (by simp [marker])]; rfl

end Grouping

theorem flatMap_groupMessagesIntoSessions (options : GroupingOptions) (messages : List Message) :
    (groupMessagesIntoSessions options messages).flatMap (·.messages) =
        messages.filter (¬ ·.isMarker) ∧
      ∀ session ∈ groupMessagesIntoSessions options messages, session.Counted := by
  have start : (({} : Grouping)).Counted := ⟨nofun, nofun⟩
  obtain ⟨counted, attributed⟩ := @Grouping.Counted.foldl options _ start messages
  rw [show ({} : Grouping).attributed = [] from rfl, nil_append] at attributed
  unfold groupMessagesIntoSessions Grouping.closed
  rw [← attributed, Grouping.attributed]
  cases present : (messages.foldl (Grouping.step options) {}).current with
  | none => exact ⟨(append_nil _).symm, counted.1⟩
  | some session =>
    exact ⟨Grouping.flatMap_closing (counted.2 session present),
      Grouping.counted_closing counted.1 (counted.2 session present)⟩

end Attribution

section Stability

variable {options : GroupingOptions}

theorem Grouping.sessions_prefix_step (state : Grouping) (message : Message) :
    state.sessions <+: (state.step options message).sessions := by
  unfold Grouping.step
  dsimp only
  split
  · dsimp only
    split
    · exact prefix_append _ _
    · exact prefix_rfl
  · exact prefix_rfl

theorem Grouping.sessions_prefix_foldl (state : Grouping) (messages : List Message) :
    state.sessions <+: (messages.foldl (Grouping.step options) state).sessions := by
  induction messages generalizing state with
  | nil => exact prefix_rfl
  | cons message messages ih => exact (state.sessions_prefix_step message).trans (ih _)

theorem Grouping.sessions_prefix_closed (state : Grouping) :
    state.sessions <+: state.closed options := by
  unfold Grouping.closed
  split
  · split
    · exact prefix_append _ _
    · exact prefix_rfl
  · exact prefix_rfl

theorem Grouping.dropLast_closed_prefix (state : Grouping) :
    (state.closed options).dropLast <+: state.sessions := by
  unfold Grouping.closed
  split
  · split
    · simp [prefix_rfl]
    · exact dropLast_prefix _
  · exact dropLast_prefix _

theorem dropLast_groupMessagesIntoSessions_prefix (options : GroupingOptions)
    (messages more : List Message) :
    (groupMessagesIntoSessions options messages).dropLast <+:
      groupMessagesIntoSessions options (messages ++ more) := by
  unfold groupMessagesIntoSessions
  rw [foldl_append]
  exact (Grouping.dropLast_closed_prefix _).trans
    ((Grouping.sessions_prefix_foldl _ more).trans (Grouping.sessions_prefix_closed _))

end Stability

end Kestrel.Sessions
