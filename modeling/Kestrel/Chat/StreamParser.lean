import Kestrel.Chat.StreamSentinels
import Mathlib.Tactic.SplitIfs

/-!
# The two parsers of a stream

The server strips the sentinels of a whole text. The chat client strips them packet by packet: it
holds back a sentinel that a packet cuts, and carries a paragraph boundary over a packet's edge.
-/

namespace Kestrel.Chat

open Search

/-- A tool event or a part, with its offset into the clean text and its place in the wire order. -/
structure StreamEvent where
  payload : Payload
  pos : ℕ
  seq : ℕ

def closerSentinel (find : SentinelKind → Option ℕ) (closer : ℕ → ℕ → Bool)
    (found : Option (SentinelKind × ℕ)) (kind : SentinelKind) : Option (SentinelKind × ℕ) :=
  match find kind with
  | none => found
  | some idx => match found with
      | none => some (kind, idx)
      | some (_, best) => if closer idx best then some (kind, idx) else found

def closestSentinel (find : SentinelKind → Option ℕ) (closer : ℕ → ℕ → Bool) :
    Option (SentinelKind × ℕ) :=
  streamSentinels.foldl (closerSentinel find closer) none

/-- `findNextStreamSentinel`, and the same search of the server: the sentinel that opens first in
the rest of a text. -/
def findNextStreamSentinel (rest : List Char) : Option (SentinelKind × ℕ) :=
  closestSentinel (fun kind => indexOf kind.opening rest) fun idx best => idx < best

/-- The paragraph break at a revise boundary. -/
def paragraph : List Char := ['\n', '\n']

/-- `text && !/\s$/.test(text)`. -/
def endsVisibly (text : List Char) : Bool := text.getLast?.any fun last => !isSpace last

/-- `/^\S/.test(text)`. -/
def startsVisibly (text : List Char) : Bool := text.head?.any fun first => !isSpace first

/-- `/\S/.test(text)`. -/
def hasVisible (text : List Char) : Bool := text.any fun character => !isSpace character

/-- Clean text, and whether a removed revise sentinel awaits its next visible character. -/
structure Prose where
  text : List Char
  weldPending : Bool
  deriving DecidableEq

/-- `appendVisible`, and the same step of the server: the text before a sentinel joins the clean
text. A break is welded only between two visible characters. -/
def Prose.append (prose : Prose) (seg : List Char) : Prose :=
  if seg = [] then prose
  else if prose.weldPending ∧ hasVisible seg then
    { text := (if endsVisibly prose.text ∧ startsVisibly seg then prose.text ++ paragraph
        else prose.text) ++ seg
      weldPending := false }
  else { prose with text := prose.text ++ seg }

/-- The loop of both parsers over the rest of a text. An unterminated sentinel at the tail drops
the remainder. -/
def scan {State : Type} (append : State → List Char → State)
    (strip : State → SentinelKind → List Char → State) (state : State) (rest : List Char) :
    State :=
  match findNextStreamSentinel rest with
  | none => append state rest
  | some (kind, idx) =>
    let state := append state (rest.take idx)
    let body := rest.drop (idx + kind.opening.length)
    match closed : indexOf [separator] body with
    | none => state
    | some close => scan append strip (strip state kind (body.take close))
        (body.drop (close + 1))
  termination_by rest.length
  decreasing_by
    obtain ⟨_, occurs, _⟩ := indexOf_eq_some.mp closed
    have inside := occurs.length_le
    have opened : 0 < kind.opening.length := Nat.succ_pos _
    simp only [List.length_drop, List.length_singleton, body] at inside ⊢
    omega

section Server

variable (loads : List Char → Option Payload)

/-- What the server has read of a text. -/
structure ServerState where
  result : Prose
  toolParts : List StreamEvent
  parts : List StreamEvent
  seq : ℕ

namespace ServerState

def initial : ServerState := ⟨⟨[], false⟩, [], [], 0⟩

def append (state : ServerState) (seg : List Char) : ServerState :=
  { state with result := state.result.append seg }

/-- A complete sentinel is taken out of the text. -/
def strip (baseOffset : ℕ) (state : ServerState) (kind : SentinelKind) (payload : List Char) :
    ServerState :=
  match kind with
  | .tool => match loads payload with
      | some evt =>
        if evt.isDict then
          { state with
            toolParts := state.toolParts ++
              [⟨evt, baseOffset + state.result.text.length, state.seq⟩]
            seq := state.seq + 1 }
        else state
      | none => state
  | .part => match loads payload with
      | some part =>
        if part.hasTextType then
          { state with
            parts := state.parts ++ [⟨part, baseOffset + state.result.text.length, state.seq⟩]
            seq := state.seq + 1 }
        else state
      | none => state
  | .revise => { state with result := { state.result with weldPending := true } }
  | .thinking => state

end ServerState

/-- `_parse_stream_sentinels`: the clean text, the tool parts and the typed parts. -/
def parseStreamSentinels (text : List Char) (baseOffset : ℕ) :
    List Char × List StreamEvent × List StreamEvent :=
  if ∀ kind ∈ streamSentinels, indexOf kind.opening text = none then (text, [], [])
  else
    let state := scan ServerState.append (ServerState.strip loads baseOffset) .initial text
    (state.result.text, state.toolParts, state.parts)

end Server

section Browser

variable (loads : List Char → Option Payload)

/-- What the chat client has read of a packet. -/
structure StripState where
  textBefore : Prose
  tools : List StreamEvent
  parts : List StreamEvent
  seq : ℕ
  leadingReviseBoundary : Bool
  sawVisible : Bool

namespace StripState

def initial : StripState := ⟨⟨[], false⟩, [], [], 0, false, false⟩

def reviseBoundaryPending (state : StripState) : Bool := state.textBefore.weldPending

def appendVisible (state : StripState) (seg : List Char) : StripState :=
  { state with
    textBefore := state.textBefore.append seg
    sawVisible := state.sawVisible || hasVisible seg }

/-- A complete sentinel is taken out of the packet. -/
def strip (state : StripState) (kind : SentinelKind) (payload : List Char) : StripState :=
  match kind with
  | .revise =>
    { state with
      textBefore := { state.textBefore with weldPending := true }
      -- The left side of the boundary lives in a previous packet.
      leadingReviseBoundary := state.leadingReviseBoundary || !state.sawVisible }
  | .tool => match loads payload with
      | some evt =>
        if evt.truthy && evt.hasPhase then
          { state with
            tools := state.tools ++ [⟨evt, state.textBefore.text.length, state.seq⟩]
            seq := state.seq + 1 }
        else state
      | none => state
  | .part => match loads payload with
      | some part =>
        if part.truthy && part.hasTextType then
          { state with
            parts := state.parts ++ [⟨part, state.textBefore.text.length, state.seq⟩]
            seq := state.seq + 1 }
        else state
      | none => state
  | .thinking => state

end StripState

def stripStreamSentinels (chunk : List Char) : StripState :=
  scan StripState.appendVisible (StripState.strip loads) .initial chunk

/-- `findLastOpenStreamSentinel`: the sentinel that opens last in a text. -/
def findLastOpenStreamSentinel (text : List Char) : Option (SentinelKind × ℕ) :=
  closestSentinel (fun kind => lastIndexOf kind.opening text) fun idx best => best < idx

/-- A full opening without a close is held back from the opening on: the text to process, and the
text held back. -/
def holdOpenSentinel (merged : List Char) : List Char × List Char :=
  match findLastOpenStreamSentinel merged with
  | none => (merged, [])
  | some (kind, idx) =>
    match indexOf [separator] (merged.drop (idx + kind.opening.length)) with
    | some _ => (merged, [])
    | none => (merged.take idx, merged.drop idx)

def cutOpening (text : List Char) (kind : SentinelKind) : Option (List Char × List Char) :=
  let maxCheck := min text.length (kind.opening.length - 1)
  let sizes := ((List.range maxCheck).map (· + 1)).reverse
  (sizes.find? fun size => (text.drop (text.length - size)).isPrefixOf kind.opening).map
    fun size => (text.take (text.length - size), text.drop (text.length - size))

/-- `trimPartialStreamSentinel`: a part of an opening at the end of a text is held back. -/
def trimPartialStreamSentinel (text : List Char) : List Char × List Char :=
  (streamSentinels.findSome? (cutOpening text)).getD (text, [])

/-- A chat pane while a turn streams. -/
structure Pane where
  sentinelBuffer : List Char
  pendingReviseBoundary : Bool
  fullContent : List Char
  toolEvents : List StreamEvent
  streamParts : List StreamEvent

namespace Pane

def initial : Pane := ⟨[], false, [], [], []⟩

/-- The parts of a packet in wire order, each with the length that the content has when the part is
flushed: the chunk is split at each part's offset. -/
def flushParts (chunkBase : ℕ) (chunk : List Char) (segCursor : ℕ) :
    List StreamEvent → List StreamEvent
  | [] => []
  | part :: parts =>
    let cut := max segCursor (min chunk.length part.pos)
    { part with pos := chunkBase + cut } :: flushParts chunkBase chunk cut parts

/-- What a packet holds: the result of the strip, its visible text, and the text held back. -/
def unwrap (merged : List Char) : StripState × List Char × List Char :=
  let (processable, opened) := holdOpenSentinel merged
  let stripped := stripStreamSentinels loads processable
  if opened = [] ∧ stripped.textBefore.text ≠ [] then
    (stripped, trimPartialStreamSentinel stripped.textBefore.text)
  else (stripped, stripped.textBefore.text, opened)

/-- The content before a packet's visible text, with the break of a boundary at its edge. -/
def welded (pane : Pane) (stripped : StripState) (chunk : List Char) : List Char :=
  if (pane.pendingReviseBoundary || stripped.leadingReviseBoundary) && startsVisibly chunk &&
    endsVisibly pane.fullContent then pane.fullContent ++ paragraph
  else pane.fullContent

def accept (pane : Pane) (stripped : StripState) (chunk sentinelBuffer : List Char) : Pane :=
  if chunk = [] ∧ stripped.tools = [] ∧ stripped.parts = [] then
    -- A packet of metadata only arms the boundary for the next packet.
    { pane with
      sentinelBuffer
      pendingReviseBoundary := pane.pendingReviseBoundary ||
        (stripped.reviseBoundaryPending || stripped.leadingReviseBoundary) }
  else
    let chunkBase := (pane.welded stripped chunk).length
    let sortedParts := stripped.parts.mergeSort fun first second => first.seq ≤ second.seq
    { sentinelBuffer
      pendingReviseBoundary :=
        if chunk = [] then pane.pendingReviseBoundary || stripped.reviseBoundaryPending
        else stripped.reviseBoundaryPending
      fullContent := pane.welded stripped chunk ++ chunk
      toolEvents := pane.toolEvents ++
        stripped.tools.map fun evt => { evt with pos := chunkBase + evt.pos }
      streamParts := pane.streamParts ++ flushParts chunkBase chunk 0 sortedParts }

/-- The loop over the packets of `sendMessage`, without an out-of-band revise event. -/
def receive (pane : Pane) (rawChunk : List Char) : Pane :=
  let (stripped, chunk, sentinelBuffer) := unwrap loads (pane.sentinelBuffer ++ rawChunk)
  pane.accept stripped chunk sentinelBuffer

def stream (packets : List (List Char)) : Pane := packets.foldl (receive loads) initial

end Pane

end Browser

end Kestrel.Chat
