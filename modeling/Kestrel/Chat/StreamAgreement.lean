import Kestrel.Chat.StreamPackets

/-!
# The live chat and the stored turn

The client's pane and strip state together stay level with the server's parse of the pieces read so
far. At the end of a clear packet the pane alone is level with it.
-/

namespace Kestrel.Chat

open List StripState Pane Nat

variable {loads : List Char → Option Payload}

def visible (text : List Char) : List Char := text.filter fun character => !isSpace character

/-- Events in their order, each with the non-blank characters before it. -/
def marks (text : List Char) (events : List StreamEvent) : List (Payload × List Char) :=
  events.map fun event => (event.payload, visible (text.take event.pos))

section Marks

variable {full text clean more further : List Char} {earlier current recorded : List StreamEvent}

theorem visible_append (first second : List Char) :
    visible (first ++ second) = visible first ++ visible second := filter_append ..

theorem visible_paragraph : visible paragraph = [] := by decide

theorem visible_welded (pane : Pane) (stripped : StripState) (chunk : List Char) :
    visible (pane.welded stripped chunk) = visible pane.fullContent := by
  unfold welded
  split_ifs
  · rw [visible_append, visible_paragraph, append_nil]
  · rfl

theorem marks_append (inside : ∀ event ∈ current, event.pos ≤ text.length) (more : List Char) :
    marks (text ++ more) current = marks text current := by
  refine map_congr_left fun event listed => ?_
  rw [take_append_of_le_length (inside event listed)]

/-- The events that the server has recorded in its clean text are those of a pane, and those of the
packet that it reads. -/
structure Placed (full : List Char) (earlier : List StreamEvent) (text : List Char)
    (current : List StreamEvent) (clean : List Char) (recorded : List StreamEvent) : Prop where
  same : marks clean recorded = marks full earlier ++
    (marks text current).map fun mark => (mark.1, visible full ++ mark.2)
  earlier_inside : ∀ event ∈ earlier, event.pos ≤ full.length
  current_inside : ∀ event ∈ current, event.pos ≤ text.length
  recorded_inside : ∀ event ∈ recorded, event.pos ≤ clean.length

section

variable (placed : Placed full earlier text current clean recorded)

include placed

theorem Placed.grow (more further : List Char) :
    Placed full earlier (text ++ more) current (clean ++ further) recorded where
  same := by
    rw [marks_append placed.recorded_inside, marks_append placed.current_inside, placed.same]
  earlier_inside := placed.earlier_inside
  current_inside event listed := by
    rw [length_append]
    exact le_add_right_of_le (placed.current_inside event listed)
  recorded_inside event listed := by
    rw [length_append]
    exact le_add_right_of_le (placed.recorded_inside event listed)

theorem Placed.push (level : visible clean = visible full ++ visible text) (payload : Payload)
    (seq seq' : ℕ) :
    Placed full earlier text (current ++ [⟨payload, text.length, seq⟩]) clean
      (recorded ++ [⟨payload, clean.length, seq'⟩]) where
  same := by
    have same := placed.same
    simp only [marks] at same ⊢
    simp only [map_append, map_cons, map_nil, take_length, same, level, append_assoc]
  earlier_inside := placed.earlier_inside
  current_inside event listed := by
    rcases mem_append.mp listed with old | new
    · exact placed.current_inside event old
    · cases mem_singleton.mp new
      exact le_refl _
  recorded_inside event listed := by
    rcases mem_append.mp listed with old | new
    · exact placed.recorded_inside event old
    · cases mem_singleton.mp new
      exact le_refl _

theorem Placed.settle {welded : List Char} (kept : visible welded = visible full)
    (begins : full <+: welded) (whole : clean = welded ++ text) :
    Placed clean (earlier ++ current.map fun event => { event with pos := welded.length + event.pos })
      [] [] clean recorded where
  same := by
    obtain ⟨gap, rfl⟩ := begins
    have old : marks clean earlier = marks full earlier := by
      rw [whole, append_assoc, marks_append placed.earlier_inside]
    have new : marks clean (current.map fun event =>
        { event with pos := (full ++ gap).length + event.pos }) =
          (marks text current).map fun mark => (mark.1, visible full ++ mark.2) := by
      simp only [marks, map_map, whole]
      refine map_congr_left fun event _ => ?_
      simp only [Function.comp_apply, take_length_add_append, visible_append (full ++ gap), kept]
    rw [placed.same]
    simp only [marks] at old new ⊢
    rw [map_append, old, new]
    simp
  earlier_inside event listed := by
    rcases mem_append.mp listed with old | new
    · have inside := placed.earlier_inside event old
      have longer := begins.length_le
      rw [whole, length_append]
      omega
    · obtain ⟨inner, known, rfl⟩ := mem_map.mp new
      have inside := placed.current_inside inner known
      rw [whole, length_append]
      exact Nat.add_le_add_left inside _
  current_inside := nofun
  recorded_inside := placed.recorded_inside

end

end Marks

section Packets

variable {pane : Pane} {state stripped : StripState} {server : ServerState}

/-- A pane, with what its client has read of a packet so far, is level with the server. A boundary
counts only behind a visible character. -/
structure Level (pane : Pane) (state : StripState) (server : ServerState) : Prop where
  text : server.result.text =
    pane.welded state state.textBefore.text ++ state.textBefore.text
  boundary : (server.result.weldPending && endsVisibly server.result.text) =
    ((state.reviseBoundaryPending ||
      (state.textBefore.text.isEmpty && pane.pendingReviseBoundary)) &&
        endsVisibly server.result.text)
  leading : state.textBefore.text = [] →
    state.leadingReviseBoundary = state.reviseBoundaryPending
  seen : state.sawVisible = hasVisible state.textBefore.text
  tools : Placed pane.fullContent pane.toolEvents state.textBefore.text state.tools
    server.result.text server.toolParts
  parts : Placed pane.fullContent pane.streamParts state.textBefore.text state.parts
    server.result.text server.parts
  ordered : state.parts.Pairwise fun first second => first.seq < second.seq ∧
    first.pos ≤ second.pos
  sequenced : ∀ part ∈ state.parts, part.seq < state.seq

theorem Level.visible_text (level : Level pane state server) :
    visible server.result.text = visible pane.fullContent ++ visible state.textBefore.text := by
  rw [level.text, visible_append, visible_welded]

theorem Pane.welded_nil (pane : Pane) (state : StripState) :
    pane.welded state [] = pane.fullContent := by
  simp [welded, startsVisibly]

theorem Pane.welded_prefix (pane : Pane) (state : StripState) (chunk : List Char) :
    pane.fullContent <+: pane.welded state chunk := by
  unfold welded
  split_ifs
  · exact prefix_append _ _
  · exact prefix_refl _

theorem Pane.welded_append (pane : Pane) {text : List Char} (nonempty : text ≠ [])
    (same : stripped.leadingReviseBoundary = state.leadingReviseBoundary) (more : List Char) :
    pane.welded stripped (text ++ more) = pane.welded state text := by
  unfold welded
  rw [startsVisibly_append nonempty, same]

theorem Level.letter (level : Level pane state server) (character : Char) :
    Level pane (state.appendVisible [character]) (server.append [character]) := by
  have text := level.text
  have boundary := level.boundary
  have ends (front : List Char) : endsVisibly (front ++ [character]) = !isSpace character := by
    rw [endsVisibly_append _ (cons_ne_nil _ _)]
    rfl
  have grown : (server.append [character]).result.text = server.result.text ++
      ((if server.result.weldPending && endsVisibly server.result.text &&
        !isSpace character then paragraph else []) ++ [character]) := by
    rw [ServerState.append, Prose.append_singleton, append_assoc]
  have shown : (state.appendVisible [character]).textBefore.text = state.textBefore.text ++
      ((if state.reviseBoundaryPending && endsVisibly state.textBefore.text &&
        !isSpace character then paragraph else []) ++ [character]) := by
    rw [appendVisible, Prose.append_singleton, append_assoc]
    rfl
  refine ⟨?_, ?_, ?_, ?_, ?_, ?_, level.ordered, level.sequenced⟩
  · rw [grown, shown]
    by_cases empty : state.textBefore.text = []
    · -- The first letter of the packet: the break stands at the packet's edge.
      have leading := level.leading empty
      rw [empty, welded_nil, append_nil] at text
      rw [empty, text, isEmpty_nil, Bool.true_and] at boundary
      rw [empty, text, boundary]
      simp only [endsVisibly, getLast?_nil, Option.any_none, Bool.and_false, Bool.false_and,
        Bool.false_eq_true, if_false, nil_append, welded, appendVisible,
        leading, startsVisibly, head?_cons, Option.any_some]
      cases pane.pendingReviseBoundary <;> cases state.reviseBoundaryPending <;>
        cases isSpace character <;> simp
      all_goals split_ifs <;> simp
    · have kept : (state.appendVisible [character]).leadingReviseBoundary =
          state.leadingReviseBoundary := rfl
      rw [welded_append pane empty kept, text, endsVisibly_append _ empty]
      rw [text, endsVisibly_append _ empty] at boundary
      have same : (server.result.weldPending && endsVisibly state.textBefore.text) =
          (state.reviseBoundaryPending && endsVisibly state.textBefore.text) := by
        have full : state.textBefore.text.isEmpty = false := by simpa using empty
        simpa [full] using boundary
      rw [same, append_assoc]
  · have blank : (server.append [character]).result.weldPending =
        (server.result.weldPending && isSpace character) := by
      rw [ServerState.append, Prose.append_singleton]
    have pending : (state.appendVisible [character]).reviseBoundaryPending =
        (state.reviseBoundaryPending && isSpace character) := by
      rw [appendVisible, Prose.append_singleton]
      rfl
    rw [grown, shown, blank, pending, ← append_assoc, ← append_assoc, ends]
    cases isSpace character <;> simp
  · intro empty
    rw [shown] at empty
    simp at empty
  · rw [shown, hasVisible_append, hasVisible_append, appendVisible, level.seen]
    split_ifs <;> simp [hasVisible, paragraph, isSpace]
  · rw [grown, shown]
    exact level.tools.grow _ _
  · rw [grown, shown]
    exact level.parts.grow _ _

theorem Level.sentinel (level : Level pane state server) (built : Sentinel loads) :
    Level pane (state.strip loads built.kind built.payload)
      (server.strip loads 0 built.kind built.payload) := by
  cases kind : built.kind with
  | revise =>
    refine ⟨?_, ?_, ?_, level.seen, level.tools, level.parts, level.ordered, level.sequenced⟩
    · refine level.text.trans (congrArg (· ++ state.textBefore.text) ?_)
      by_cases shown : hasVisible state.textBefore.text = true
      · simp [welded, strip, level.seen, shown]
      · rw [Bool.not_eq_true] at shown
        simp [welded, startsVisibly_eq_false shown, strip]
    · simp [ServerState.strip, strip, reviseBoundaryPending]
    · intro empty
      have empty : state.textBefore.text = [] := empty
      simp [strip, reviseBoundaryPending, level.seen, empty, hasVisible]
  | thinking => exact level
  | tool =>
    obtain ⟨evt, client, recorded⟩ := strip_tool built kind
    rw [← kind, client, recorded]
    exact ⟨level.text, level.boundary, level.leading, level.seen,
      level.tools.push level.visible_text _ _ _, level.parts, level.ordered,
      fun part listed => lt_succ_of_lt (level.sequenced part listed)⟩
  | part =>
    obtain ⟨evt, client, recorded⟩ := strip_part built kind
    rw [← kind, client, recorded]
    refine ⟨level.text, level.boundary, level.leading, level.seen, level.tools,
      level.parts.push level.visible_text _ _ _, ?_, ?_⟩
    · rw [pairwise_append]
      refine ⟨level.ordered, pairwise_singleton _ _, fun part listed last new => ?_⟩
      cases mem_singleton.mp new
      exact ⟨level.sequenced part listed, level.parts.current_inside part listed⟩
    · intro part listed
      rcases mem_append.mp listed with old | new
      · exact lt_succ_of_lt (level.sequenced part old)
      · cases mem_singleton.mp new
        exact lt_succ_self _

theorem Level.read (level : Level pane state server) (pieces : List (Piece loads)) :
    Level pane (pieces.foldl (readPiece appendVisible (strip loads)) state)
      (pieces.foldl (readPiece ServerState.append (ServerState.strip loads 0)) server) := by
  induction pieces generalizing state server with
  | nil => exact level
  | cons piece pieces ih =>
    cases piece with
    | letter character plain => exact ih (level.letter character)
    | sentinel built => exact ih (level.sentinel built)

theorem Pane.flushParts_eq (chunkBase : ℕ) (chunk : List Char) (segCursor : ℕ)
    (parts : List StreamEvent) (ordered : parts.Pairwise fun first second => first.pos ≤ second.pos)
    (beyond : ∀ part ∈ parts, segCursor ≤ part.pos)
    (inside : ∀ part ∈ parts, part.pos ≤ chunk.length) :
    flushParts chunkBase chunk segCursor parts =
      parts.map fun part => { part with pos := chunkBase + part.pos } := by
  induction parts generalizing segCursor with
  | nil => rfl
  | cons part parts ih =>
    obtain ⟨later, ordered⟩ := pairwise_cons.mp ordered
    have cut : max segCursor (min chunk.length part.pos) = part.pos := by
      have near := beyond part mem_cons_self
      have far := inside part mem_cons_self
      omega
    rw [flushParts, map_cons]
    rw [cut, ih part.pos ordered later fun part listed =>
      inside part (mem_cons_of_mem _ listed)]

theorem Level.between (text : server.result.text = pane.fullContent)
    (boundary : (server.result.weldPending && endsVisibly server.result.text) =
      (pane.pendingReviseBoundary && endsVisibly server.result.text))
    (tools : Placed pane.fullContent pane.toolEvents [] [] server.result.text server.toolParts)
    (parts : Placed pane.fullContent pane.streamParts [] [] server.result.text server.parts) :
    Level pane .initial server where
  text := by
    rw [text]
    simp [StripState.initial, Pane.welded_nil]
  boundary := by
    rw [boundary]
    simp [StripState.initial, StripState.reviseBoundaryPending]
  leading _ := rfl
  seen := rfl
  tools := tools
  parts := parts
  ordered := .nil
  sequenced := nofun

theorem Level.accept (level : Level pane state server) (unwrapped : Unwrapped state stripped)
    (sentinelBuffer : List Char) :
    Level (pane.accept stripped state.textBefore.text sentinelBuffer) .initial server ∧
      (pane.accept stripped state.textBefore.text sentinelBuffer).sentinelBuffer =
        sentinelBuffer := by
  have edge : pane.welded stripped state.textBefore.text =
      pane.welded state state.textBefore.text := by
    unfold welded
    rw [unwrapped.leading]
  have boundary := level.boundary
  by_cases bare : state.textBefore.text = [] ∧ stripped.tools = [] ∧ stripped.parts = []
  · obtain ⟨empty, toolless, partless⟩ := bare
    rw [Pane.accept, if_pos ⟨empty, toolless, partless⟩]
    rw [unwrapped.tools] at toolless
    rw [unwrapped.parts] at partless
    have text := level.text
    rw [empty, welded_nil, append_nil] at text
    refine ⟨.between text ?_ ?_ ?_, rfl⟩
    · have leading := level.leading empty
      rw [boundary, empty, isEmpty_nil, Bool.true_and, unwrapped.leading, leading]
      rcases unwrapped.pending with same | ⟨taken, _, _⟩
      · rw [same, Bool.or_self, Bool.or_comm]
      · rw [taken, Bool.false_or, Bool.or_comm]
    · have placed := level.tools
      rw [empty, toolless] at placed
      exact placed
    · have placed := level.parts
      rw [empty, partless] at placed
      exact placed
  · have parts : flushParts (pane.welded state state.textBefore.text).length
        state.textBefore.text 0 (stripped.parts.mergeSort fun first second =>
          first.seq ≤ second.seq) = state.parts.map fun part =>
            { part with pos := (pane.welded state state.textBefore.text).length + part.pos } := by
      have sorted : stripped.parts.mergeSort (fun first second => first.seq ≤ second.seq) =
          state.parts := by
        rw [unwrapped.parts]
        refine mergeSort_of_pairwise (level.ordered.imp fun later => ?_)
        exact decide_eq_true (le_of_lt later.1)
      rw [sorted]
      exact flushParts_eq _ _ _ _ (level.ordered.imp And.right) (fun _ _ => zero_le _)
        level.parts.current_inside
    rw [Pane.accept, if_neg bare]
    dsimp only
    rw [edge, parts, unwrapped.tools, ← level.text]
    have kept := visible_welded pane state state.textBefore.text
    have begins := welded_prefix pane state state.textBefore.text
    refine ⟨.between rfl ?_ (level.tools.settle kept begins level.text)
      (level.parts.settle kept begins level.text), rfl⟩
    rw [boundary]
    by_cases empty : state.textBefore.text = []
    · rw [if_pos empty, empty, isEmpty_nil, Bool.true_and]
      rcases unwrapped.pending with same | ⟨_, _, toolless⟩
      · rw [same, Bool.or_comm]
      · exact absurd ⟨empty, unwrapped.tools.trans (toolless empty).1,
          unwrapped.parts.trans (toolless empty).2⟩ bare
    · have full : state.textBefore.text.isEmpty = false := by simpa using empty
      rw [if_neg empty, full, Bool.false_and, Bool.or_false]
      rcases unwrapped.pending with same | ⟨taken, blank, _⟩
      · rw [same]
      · rw [level.text, endsVisibly_append _ empty, blank, Bool.and_false, Bool.and_false]

end Packets

section Runs

variable {pane : Pane} {before rest : List (Piece loads)} {left : ℕ} {packet : List Char}
  {packets : List (List Char)}

theorem Level.receive (level : Level pane .initial (serverRead loads before))
    (arrived : pane.sentinelBuffer ++ packet = (wire rest).take (left + packet.length))
    (clear : Arrival.Clear ⟨(reach (left + packet.length) rest).pieces,
      (wire (reach (left + packet.length) rest).rest).take
        (reach (left + packet.length) rest).left⟩) :
    Level (pane.receive loads packet) .initial
        (serverRead loads (before ++ (reach (left + packet.length) rest).pieces)) ∧
      (pane.receive loads packet).sentinelBuffer =
        (wire (reach (left + packet.length) rest).rest).take
          (reach (left + packet.length) rest).left := by
  have torn : PartialOpening ((wire (reach (left + packet.length) rest).rest).take
      (reach (left + packet.length) rest).left) ∨ ∃ (kind : SentinelKind) (payload : List Char),
        separator ∉ payload ∧ (wire (reach (left + packet.length) rest).rest).take
          (reach (left + packet.length) rest).left = kind.opening ++ payload := by
    cases behind : (reach (left + packet.length) rest).rest with
    | nil =>
      rw [wire, flatMap_nil, take_nil]
      exact .inl partialOpening_nil
    | cons piece tail => exact take_wire_cases (reach_left behind) tail
  obtain ⟨stripped, unwrapping, unwrapped⟩ := unwrap_clear torn clear
  have read : Level pane (clientRead loads (reach (left + packet.length) rest).pieces)
      (serverRead loads (before ++ (reach (left + packet.length) rest).pieces)) := by
    rw [serverRead, foldl_append]
    exact level.read _
  rw [take_wire] at arrived
  unfold Pane.receive
  rw [arrived, unwrapping]
  exact read.accept unwrapped _

theorem Level.stream (packets : List (List Char))
    (level : Level pane .initial (serverRead loads before))
    (held : pane.sentinelBuffer.length = left)
    (short : ∀ piece tail, rest = piece :: tail → left < piece.wire.length)
    (fits : pane.sentinelBuffer ++ packets.flatten <+: wire rest)
    (clear : ∀ arrival ∈ arrivals left rest packets, arrival.Clear) :
    Level (packets.foldl (Pane.receive loads) pane) .initial
        (serverRead loads (before ++ (reach (left + packets.flatten.length) rest).pieces)) ∧
      (packets.foldl (Pane.receive loads) pane).sentinelBuffer =
        (wire (reach (left + packets.flatten.length) rest).rest).take
          (reach (left + packets.flatten.length) rest).left := by
  induction packets generalizing pane before rest left with
  | nil =>
    have stays : reach left rest = ⟨[], left, rest⟩ := by
      cases rest with
      | nil => rfl
      | cons piece tail => rw [reach, if_neg (Nat.not_le_of_lt (short piece tail rfl))]
    rw [flatten_nil, append_nil] at fits
    rw [flatten_nil, length_nil, Nat.add_zero, stays, append_nil]
    refine ⟨level, ?_⟩
    rw [← held]
    exact prefix_iff_eq_take.mp fits
  | cons packet packets ih =>
    rw [flatten_cons, ← append_assoc] at fits
    have arrived : pane.sentinelBuffer ++ packet = (wire rest).take (left + packet.length) := by
      rw [← held, ← length_append]
      exact prefix_iff_eq_take.mp ((prefix_append _ _).trans fits)
    obtain ⟨clearHead, clearTail⟩ := forall_mem_cons.mp clear
    obtain ⟨next, buffer⟩ := level.receive arrived clearHead
    have parts := arrived
    rw [take_wire] at parts
    rw [flatten_cons, length_append, ← Nat.add_assoc, reach_add, foldl_cons, ← append_assoc]
    refine ih next ?_ (fun piece tail behind => reach_left behind) ?_ clearTail
    · have length := congrArg length parts
      have reached := reach_length (left + packet.length) rest
      rw [buffer]
      simp only [length_append] at length reached ⊢
      omega
    · rw [arrived, take_wire] at fits
      have whole : wire rest = wire (reach (left + packet.length) rest).pieces ++
          wire (reach (left + packet.length) rest).rest := by
        rw [← wire_append, reach_append]
      rw [whole, append_assoc, prefix_append_right_inj] at fits
      rw [buffer]
      exact fits

theorem arrivals_append (left : ℕ) (pieces : List (Piece loads)) (first second : List (List Char)) :
    ∃ later, arrivals left pieces (first ++ second) = arrivals left pieces first ++ later := by
  induction first generalizing left pieces with
  | nil => exact ⟨_, rfl⟩
  | cons packet first ih =>
    obtain ⟨later, same⟩ := ih (reach (left + packet.length) pieces).left
      (reach (left + packet.length) pieces).rest
    exact ⟨later, congrArg (cons _) same⟩

theorem stream_level {pieces : List (Piece loads)} {received : List (List Char)}
    (fits : received.flatten <+: wire pieces)
    (clear : ∀ arrival ∈ arrivals 0 pieces received, arrival.Clear) :
    Level (Pane.stream loads received) .initial
        (serverRead loads (reach received.flatten.length pieces).pieces) ∧
      (Pane.stream loads received).sentinelBuffer =
        (wire (reach received.flatten.length pieces).rest).take
          (reach received.flatten.length pieces).left := by
  have start : Level initial .initial (serverRead loads []) := by
    have none : Placed [] [] [] [] [] [] := ⟨rfl, nofun, nofun, nofun⟩
    exact .between rfl rfl none none
  have short : ∀ piece tail, pieces = piece :: tail → 0 < piece.wire.length := by
    intro piece tail _
    cases piece with
    | letter => exact Nat.one_pos
    | sentinel built => exact Nat.succ_pos _
  have held : initial.sentinelBuffer.length = 0 := rfl
  have read := start.stream received held short fits clear
  rw [Nat.zero_add, nil_append] at read
  exact read

end Runs

end Kestrel.Chat
