import Kestrel.Chat.StreamScan

/-!
# Packets of a stream

A packet completes some pieces of a stream and may cut the next one. The cut sentinel stays in the
buffer, and the packet shows what its complete pieces hold, unless its last characters are taken
for something else.
-/

namespace Kestrel.Chat

open Search List StripState

variable {loads : List Char → Option Payload}

section Arrivals

/-- How far the first characters of a stream reach: the pieces that they complete, the number of
characters left over, and the pieces that those belong to. -/
structure Reached (loads : List Char → Option Payload) where
  pieces : List (Piece loads)
  left : ℕ
  rest : List (Piece loads)

def reach : ℕ → List (Piece loads) → Reached loads
  | count, [] => ⟨[], count, []⟩
  | count, piece :: pieces =>
    if piece.wire.length ≤ count then
      let inner := reach (count - piece.wire.length) pieces
      { inner with pieces := piece :: inner.pieces }
    else ⟨[], count, piece :: pieces⟩

/-- What a packet brings: the pieces that it completes, and what has arrived of the next one. -/
structure Arrival (loads : List Char → Option Payload) where
  pieces : List (Piece loads)
  next : List Char

def arrivals (left : ℕ) (pieces : List (Piece loads)) : List (List Char) → List (Arrival loads)
  | [] => []
  | packet :: packets =>
    let reached := reach (left + packet.length) pieces
    ⟨reached.pieces, (wire reached.rest).take reached.left⟩ ::
      arrivals reached.left reached.rest packets

/-- What a packet's pieces end with: the last letter of prose, whether a revise marker stands
behind it, whether there is a tool event or a part at all, and the prose behind the last
sentinel. -/
structure Trail where
  letter : Option Char
  revised : Bool
  carded : Bool
  behind : Option (List Char)

def Trail.initial : Trail := ⟨none, false, false, none⟩

def Trail.step (trail : Trail) : Piece loads → Trail
  | .letter character _ =>
    { trail with
      letter := some character
      revised := false
      behind := trail.behind.map (· ++ [character]) }
  | .sentinel built =>
    { letter := trail.letter
      revised := trail.revised || built.kind = .revise
      carded := trail.carded || (built.kind = .tool || built.kind = .part)
      behind := some [] }

def trail (pieces : List (Piece loads)) : Trail := pieces.foldl Trail.step .initial

/-- The condition under which a packet is read right. It does not end inside an opening right
behind a revise marker, except where prose ends with a blank before the marker or the packet has
only markers; and it does not end with prose that starts, right behind a sentinel, as an opening
goes on. -/
structure Arrival.Clear (arrival : Arrival loads) : Prop where
  welded : arrival.next ≠ [] → PartialOpening arrival.next →
    (trail arrival.pieces).revised = true →
      (∀ last ∈ (trail arrival.pieces).letter, isSpace last = true) ∧
        ((trail arrival.pieces).letter = none → (trail arrival.pieces).carded = false)
  unlabelled : arrival.next = [] → ∀ behind ∈ (trail arrival.pieces).behind,
    ∀ kind : SentinelKind, ¬ kind.label <+: behind

instance (arrival : Arrival loads) : Decidable arrival.Clear :=
  decidable_of_iff ((arrival.next ≠ [] → PartialOpening arrival.next →
    (trail arrival.pieces).revised = true →
      (trail arrival.pieces).letter.all isSpace = true ∧
        ((trail arrival.pieces).letter = none → (trail arrival.pieces).carded = false)) ∧
    (arrival.next = [] → ∀ behind ∈ (trail arrival.pieces).behind,
      ∀ kind : SentinelKind, ¬ kind.label <+: behind)) (by
    simp only [Option.all_eq_true]
    exact ⟨fun clear => ⟨clear.1, clear.2⟩, fun clear => ⟨clear.welded, clear.unlabelled⟩⟩)

end Arrivals

section Reaching

variable {count : ℕ} {piece : Piece loads} {pieces rest : List (Piece loads)}

theorem wire_append (first second : List (Piece loads)) :
    wire (first ++ second) = wire first ++ wire second := flatMap_append

theorem wire_concat (pieces : List (Piece loads)) (piece : Piece loads) :
    wire (pieces ++ [piece]) = wire pieces ++ piece.wire := by
  simp [wire]

theorem reach_append (count : ℕ) (pieces : List (Piece loads)) :
    (reach count pieces).pieces ++ (reach count pieces).rest = pieces := by
  induction pieces generalizing count with
  | nil => rfl
  | cons piece pieces ih =>
    unfold reach
    split_ifs
    · exact congrArg (piece :: ·) (ih _)
    · rfl

theorem reach_length (count : ℕ) (pieces : List (Piece loads)) :
    (wire (reach count pieces).pieces).length + (reach count pieces).left = count := by
  induction pieces generalizing count with
  | nil => exact Nat.zero_add count
  | cons piece pieces ih =>
    unfold reach
    split_ifs with whole
    · have inner := ih (count - piece.wire.length)
      simp only [wire, flatMap_cons, length_append] at inner ⊢
      omega
    · exact Nat.zero_add count

theorem reach_left (reached : (reach count pieces).rest = piece :: rest) :
    (reach count pieces).left < piece.wire.length := by
  induction pieces generalizing count with
  | nil => exact nomatch reached
  | cons first pieces ih =>
    unfold reach at reached ⊢
    split_ifs at reached ⊢ with whole
    · exact ih reached
    · cases reached
      exact Nat.lt_of_not_le whole

theorem take_wire (count : ℕ) (pieces : List (Piece loads)) :
    (wire pieces).take count = wire (reach count pieces).pieces ++
      (wire (reach count pieces).rest).take (reach count pieces).left := by
  have whole : wire pieces = wire (reach count pieces).pieces ++
      wire (reach count pieces).rest := by
    rw [← wire_append, reach_append]
  have length := reach_length count pieces
  have behind : count - (wire (reach count pieces).pieces).length = (reach count pieces).left := by
    omega
  conv_lhs => rw [whole]
  rw [take_append, behind, take_of_length_le (by omega)]

theorem reach_add (count more : ℕ) (pieces : List (Piece loads)) : reach (count + more) pieces =
      { reach ((reach count pieces).left + more) (reach count pieces).rest with
        pieces := (reach count pieces).pieces ++
          (reach ((reach count pieces).left + more) (reach count pieces).rest).pieces } := by
  induction pieces generalizing count with
  | nil => rfl
  | cons piece pieces ih =>
    by_cases whole : piece.wire.length ≤ count
    · have further : piece.wire.length ≤ count + more := Nat.le_add_right_of_le whole
      have shift : count + more - piece.wire.length = count - piece.wire.length + more := by
        omega
      simp [reach, whole, further, shift, ih (count - piece.wire.length), cons_append]
    · have stays : reach count (piece :: pieces) = ⟨[], count, piece :: pieces⟩ := by
        rw [reach, if_neg whole]
      rw [stays, nil_append]

theorem reach_wire (pieces : List (Piece loads)) :
    reach (wire pieces).length pieces = ⟨pieces, 0, []⟩ := by
  induction pieces with
  | nil => rfl
  | cons piece pieces ih =>
    have length : (wire (piece :: pieces)).length = piece.wire.length + (wire pieces).length := by
      simp [wire]
    rw [length, reach, if_pos (Nat.le_add_right _ _), Nat.add_sub_cancel_left, ih]

theorem take_wire_cases (short : count < piece.wire.length) (rest : List (Piece loads)) :
    PartialOpening ((wire (piece :: rest)).take count) ∨
      ∃ (kind : SentinelKind) (payload : List Char), separator ∉ payload ∧
        (wire (piece :: rest)).take count = kind.opening ++ payload := by
  have first : (wire (piece :: rest)).take count = piece.wire.take count := by
    rw [wire, flatMap_cons, take_append_of_le_length (Nat.le_of_lt short)]
  rw [first]
  cases piece with
  | letter character plain =>
    have none : count = 0 := Nat.lt_one_iff.mp short
    rw [none, take_zero]
    exact .inl partialOpening_nil
  | sentinel built =>
    by_cases within : count < built.kind.opening.length
    · refine .inl ⟨built.kind, ?_, ?_⟩
      · rw [Piece.wire, append_assoc, take_append_of_le_length (Nat.le_of_lt within)]
        exact take_prefix _ _
      · intro whole
        have length := congrArg length whole
        rw [length_take] at length
        omega
    · obtain ⟨inner, rfl⟩ := Nat.exists_eq_add_of_le (Nat.le_of_not_lt within)
      refine .inr ⟨built.kind, built.payload.take inner, ?_, ?_⟩
      · exact fun listed => built.unseparated (mem_of_mem_take listed)
      · have inside : inner ≤ built.payload.length := by
          simp only [Piece.wire, length_append, length_singleton] at short
          omega
        rw [Piece.wire, append_assoc, take_length_add_append, take_append_of_le_length inside]

end Reaching

section Trails

variable {pieces : List (Piece loads)} {state : StripState} {next : List Char}

theorem trail_concat (pieces : List (Piece loads)) (piece : Piece loads) :
    trail (pieces ++ [piece]) = (trail pieces).step piece := by
  simp [trail]

theorem clientRead_concat (pieces : List (Piece loads)) (piece : Piece loads) :
    clientRead loads (pieces ++ [piece]) =
      readPiece appendVisible (strip loads) (clientRead loads pieces)
        piece := by
  simp [clientRead]

theorem serverRead_concat (pieces : List (Piece loads)) (piece : Piece loads) :
    serverRead loads (pieces ++ [piece]) =
      readPiece ServerState.append (ServerState.strip loads 0) (serverRead loads pieces)
        piece := by
  simp [serverRead]

theorem wire_behind (pieces : List (Piece loads)) : match (trail pieces).behind with
    | none => separator ∉ wire pieces
    | some behind => separator ∉ behind ∧
        ∃ front, wire pieces = front ++ separator :: behind := by
  induction pieces using reverseRecOn with
  | nil => exact not_mem_nil
  | append_singleton pieces piece ih =>
    rw [trail_concat, wire_concat]
    cases piece with
    | letter character plain =>
      cases earlier : (trail pieces).behind with
      | none =>
        rw [earlier] at ih
        simpa [Trail.step, earlier, Piece.wire, ih] using Ne.symm plain
      | some behind =>
        rw [earlier] at ih
        obtain ⟨unseparated, front, whole⟩ := ih
        simp only [Trail.step, earlier, Option.map_some, Piece.wire, whole]
        refine ⟨?_, front, by simp⟩
        simpa [unseparated] using Ne.symm plain
    | sentinel built =>
      refine ⟨not_mem_nil, wire pieces ++ (built.kind.opening ++ built.payload), ?_⟩
      simp [Piece.wire]

/-- The client's reading of a packet agrees with what the packet's pieces end with. -/
structure Trailed (state : StripState) (trail : Trail) : Prop where
  letter : trail.letter = state.textBefore.text.getLast?
  pending : state.reviseBoundaryPending = true →
    trail.revised = true ∨ ∃ last ∈ trail.letter, isSpace last = true
  carded : trail.carded = false → state.tools = [] ∧ state.parts = []

theorem Trailed.step {trail : Trail} (trailed : Trailed state trail) (piece : Piece loads) :
    Trailed (readPiece appendVisible (strip loads) state piece)
      (trail.step piece) := by
  cases piece with
  | letter character plain =>
    refine ⟨?_, ?_, trailed.carded⟩
    · simp [readPiece, appendVisible, Prose.append_singleton, Trail.step]
    · intro pending
      refine .inr ⟨character, rfl, ?_⟩
      simp only [readPiece, appendVisible, reviseBoundaryPending,
        Prose.append_singleton, Bool.and_eq_true] at pending
      exact pending.2
  | sentinel built =>
    cases kind : built.kind with
    | revise =>
      rw [readPiece, kind]
      refine ⟨trailed.letter, fun _ => .inl ?_, fun uncarded => trailed.carded ?_⟩
      · simp [Trail.step, kind]
      · simpa [Trail.step, kind] using uncarded
    | thinking =>
      rw [readPiece, kind]
      refine ⟨trailed.letter, ?_, fun uncarded => trailed.carded ?_⟩
      · simpa [Trail.step, kind, strip] using trailed.pending
      · simpa [Trail.step, kind] using uncarded
    | tool =>
      obtain ⟨evt, stripped, _⟩ := strip_tool built kind
      rw [readPiece, stripped]
      refine ⟨trailed.letter, ?_, fun uncarded => ?_⟩
      · simpa [Trail.step, kind, reviseBoundaryPending] using trailed.pending
      · simp [Trail.step, kind] at uncarded
    | part =>
      obtain ⟨part, stripped, _⟩ := strip_part built kind
      rw [readPiece, stripped]
      refine ⟨trailed.letter, ?_, fun uncarded => ?_⟩
      · simpa [Trail.step, kind, reviseBoundaryPending] using trailed.pending
      · simp [Trail.step, kind] at uncarded

theorem trailed (pieces : List (Piece loads)) :
    Trailed (clientRead loads pieces) (trail pieces) := by
  induction pieces using reverseRecOn with
  | nil => exact ⟨rfl, nofun, fun _ => ⟨rfl, rfl⟩⟩
  | append_singleton pieces piece ih =>
    rw [clientRead_concat, trail_concat]
    exact ih.step piece

end Trails

section Unwrapping

variable {pieces : List (Piece loads)} {state : StripState} {next : List Char}

theorem StripState.strip_text (state : StripState) (kind : SentinelKind) (payload : List Char) :
    (state.strip loads kind payload).textBefore.text = state.textBefore.text := by
  cases kind with
  | revise | thinking => rfl
  | tool | part =>
    unfold strip
    dsimp only
    split
    · split <;> rfl
    · rfl

theorem separator_notMem_clientRead (pieces : List (Piece loads)) :
    separator ∉ (clientRead loads pieces).textBefore.text := by
  induction pieces using reverseRecOn with
  | nil => exact not_mem_nil
  | append_singleton pieces piece ih =>
    rw [clientRead_concat]
    cases piece with
    | letter character plain =>
      have broken : separator ∉ paragraph := by decide
      simp only [readPiece, appendVisible, Prose.append_singleton,
        mem_append, mem_singleton, not_or]
      refine ⟨⟨ih, ?_⟩, Ne.symm plain⟩
      split_ifs
      · exact broken
      · exact not_mem_nil
    | sentinel built =>
      rw [readPiece, strip_text]
      exact ih

/-- The strip of a packet against the client's reading of its pieces. Where a part of an opening
has taken the packet's boundary, the boundary stands behind a blank or nothing. -/
structure Unwrapped (client stripped : StripState) : Prop where
  tools : stripped.tools = client.tools
  parts : stripped.parts = client.parts
  leading : stripped.leadingReviseBoundary = client.leadingReviseBoundary
  pending : stripped.reviseBoundaryPending = client.reviseBoundaryPending ∨
    stripped.reviseBoundaryPending = false ∧ endsVisibly client.textBefore.text = false ∧
      (client.textBefore.text = [] → client.tools = [] ∧ client.parts = [])

theorem Unwrapped.refl (state : StripState) : Unwrapped state state := ⟨rfl, rfl, rfl, .inl rfl⟩

theorem appendVisible_cut (cut : PartialOpening next) (nonempty : next ≠ [])
    (blank : state.reviseBoundaryPending = true → endsVisibly state.textBefore.text = false) :
    (state.appendVisible next).textBefore.text = state.textBefore.text ++ next ∧
      (state.appendVisible next).reviseBoundaryPending = false := by
  obtain ⟨label, rfl, _⟩ := cut.eq_cons nonempty
  have visible : hasVisible (separator :: label) = true := rfl
  have starts : startsVisibly (separator :: label) = true := rfl
  unfold appendVisible reviseBoundaryPending at *
  cases pending : state.textBefore.weldPending with
  | false => simp [Prose.append, pending]
  | true => simp [Prose.append, pending, visible, starts, blank pending]

/-- A clear packet shows the text of its pieces, and holds back what has arrived of the next
one. -/
theorem unwrap_clear (arrived : PartialOpening next ∨ ∃ (kind : SentinelKind) (payload : List Char),
      separator ∉ payload ∧ next = kind.opening ++ payload)
    (clear : Arrival.Clear ⟨pieces, next⟩) :
    ∃ stripped, Pane.unwrap loads (wire pieces ++ next) =
        (stripped, (clientRead loads pieces).textBefore.text, next) ∧
      Unwrapped (clientRead loads pieces) stripped := by
  have unseparated := separator_notMem_clientRead pieces
  rcases arrived with cut | ⟨kind, payload, plain, rfl⟩
  · have whole : holdOpenSentinel (wire pieces ++ next) = (wire pieces ++ next, []) := by
      by_cases empty : next = []
      · subst empty
        rw [append_nil]
        have behind := wire_behind pieces
        cases last : (trail pieces).behind with
        | none =>
          rw [last] at behind
          exact holdOpenSentinel_plain behind
        | some letters =>
          rw [last] at behind
          obtain ⟨unmarked, front, written⟩ := behind
          rw [written]
          exact holdOpenSentinel_closed unmarked (clear.unlabelled rfl letters last) front
      · obtain ⟨label, rfl, unmarked⟩ := cut.eq_cons empty
        refine holdOpenSentinel_closed unmarked (fun kind begins => ?_) _
        exact cut.not_opening kind (cons_prefix_cons.mpr ⟨rfl, begins⟩)
    have read := stripStreamSentinels_wire loads cut pieces
    unfold Pane.unwrap
    rw [whole]
    dsimp only
    rw [read]
    by_cases empty : next = []
    · subst empty
      rw [appendVisible_nil]
      refine ⟨clientRead loads pieces, ?_, .refl _⟩
      split_ifs
      · have trimmed := trimPartialStreamSentinel_cut unseparated partialOpening_nil
        rw [append_nil] at trimmed
        rw [trimmed]
      · rfl
    · have known := trailed pieces
      have blank : (clientRead loads pieces).reviseBoundaryPending = true →
          endsVisibly (clientRead loads pieces).textBefore.text = false := by
        intro pending
        have spaced : ∀ last ∈ (trail pieces).letter, isSpace last = true := by
          rcases known.pending pending with revised | ⟨last, there, space⟩
          · exact (clear.welded empty cut revised).1
          · intro other same
            cases Option.mem_unique there same
            exact space
        unfold endsVisibly
        rw [← known.letter]
        cases last : (trail pieces).letter with
        | none => rfl
        | some character => simpa using spaced character last
      obtain ⟨shown, taken⟩ := appendVisible_cut cut empty blank
      refine ⟨(clientRead loads pieces).appendVisible next, ?_, rfl, rfl, rfl, ?_⟩
      · have some : (clientRead loads pieces).textBefore.text ++ next ≠ [] := by simp [empty]
        rw [shown, if_pos ⟨rfl, some⟩, trimPartialStreamSentinel_cut unseparated cut]
      · cases pending : (clientRead loads pieces).reviseBoundaryPending with
        | false => exact .inl taken
        | true =>
          refine .inr ⟨taken, blank pending, fun shownless => ?_⟩
          have letterless : (trail pieces).letter = none := by
            rw [known.letter, shownless]
            rfl
          rcases known.pending pending with revised | ⟨last, there, _⟩
          · exact known.carded ((clear.welded empty cut revised).2 letterless)
          · rw [letterless] at there
            exact nomatch there
  · have read := stripStreamSentinels_wire loads partialOpening_nil pieces
    rw [append_nil, appendVisible_nil] at read
    refine ⟨clientRead loads pieces, ?_, .refl _⟩
    unfold Pane.unwrap
    rw [holdOpenSentinel_open plain]
    dsimp only
    rw [read, if_neg fun both => ?_]
    exact nomatch both.1

end Unwrapping

end Kestrel.Chat
