import Kestrel.Chat.StreamAgreement

/-!
# Streams cut into packets

For every stream and every way to cut it, clear packets leave the chat client with what the server
stores: the clean text, the tool events and the parts.
-/

namespace Kestrel.Chat

open List

/-- The live chat agrees with the stored turn about the packets of a stream. -/
structure Agreement (loads : List Char → Option Payload) (pieces : List (Piece loads))
    (packets : List (List Char)) : Prop where
  text : (Pane.stream loads packets).fullContent =
    (parseStreamSentinels loads (wire pieces) 0).1
  tools : marks (Pane.stream loads packets).fullContent (Pane.stream loads packets).toolEvents =
    marks (parseStreamSentinels loads (wire pieces) 0).1
      (parseStreamSentinels loads (wire pieces) 0).2.1
  parts : marks (Pane.stream loads packets).fullContent (Pane.stream loads packets).streamParts =
    marks (parseStreamSentinels loads (wire pieces) 0).1
      (parseStreamSentinels loads (wire pieces) 0).2.2
  /-- The client shows the clean text of what has arrived, after any number of packets. -/
  live : ∀ received, received <+: packets → (Pane.stream loads received).fullContent =
    (parseStreamSentinels loads (wire (reach received.flatten.length pieces).pieces) 0).1
  unseparated : ∀ received, received <+: packets →
    separator ∉ (Pane.stream loads received).fullContent
  released : (Pane.stream loads packets).sentinelBuffer = []

variable {loads : List Char → Option Payload} {pieces : List (Piece loads)}
  {packets : List (List Char)}

theorem Placed.same_marks {full clean : List Char} {earlier recorded : List StreamEvent}
    (placed : Placed full earlier [] [] clean recorded) :
    marks full earlier = marks clean recorded := by
  rw [placed.same]
  simp [marks]

theorem ServerState.strip_text (state : ServerState) (kind : SentinelKind) (payload : List Char) :
    (state.strip loads 0 kind payload).result.text = state.result.text := by
  cases kind with
  | revise | thinking => rfl
  | tool | part =>
    unfold ServerState.strip
    dsimp only
    split
    · split <;> rfl
    · rfl

theorem separator_notMem_serverRead (pieces : List (Piece loads)) :
    separator ∉ (serverRead loads pieces).result.text := by
  induction pieces using reverseRecOn with
  | nil => exact not_mem_nil
  | append_singleton pieces piece ih =>
    rw [serverRead_concat]
    cases piece with
    | letter character plain =>
      have broken : separator ∉ paragraph := by decide
      simp only [readPiece, ServerState.append, Prose.append_singleton, mem_append,
        mem_singleton, not_or]
      refine ⟨⟨ih, ?_⟩, Ne.symm plain⟩
      split_ifs
      · exact broken
      · exact not_mem_nil
    | sentinel built =>
      rw [readPiece, ServerState.strip_text]
      exact ih

/-- **Clear packets.** A stream whose packets are all clear is read like the whole text. -/
theorem agreement (cut : packets.flatten = wire pieces)
    (clear : ∀ arrival ∈ arrivals 0 pieces packets, arrival.Clear) :
    Agreement loads pieces packets := by
  have parsed := @parseStreamSentinels_wire loads
  have live : ∀ received, received <+: packets → Level (Pane.stream loads received) .initial
          (serverRead loads (reach received.flatten.length pieces).pieces) ∧
        (Pane.stream loads received).sentinelBuffer =
          (wire (reach received.flatten.length pieces).rest).take
            (reach received.flatten.length pieces).left := by
    rintro received ⟨later, rfl⟩
    refine stream_level ?_ fun arrival listed => clear arrival ?_
    · rw [← cut, flatten_append]
      exact prefix_append _ _
    · obtain ⟨more, same⟩ := arrivals_append 0 pieces received later
      rw [same]
      exact mem_append_left _ listed
  have shown : ∀ received, received <+: packets → (Pane.stream loads received).fullContent =
      (serverRead loads (reach received.flatten.length pieces).pieces).result.text := by
    intro received begins
    have text := (live received begins).1.text
    rw [text]
    exact ((append_nil _).trans (Pane.welded_nil _ _)).symm
  obtain ⟨whole, buffer⟩ := live packets (prefix_refl _)
  have content := shown packets (prefix_refl _)
  rw [cut, reach_wire] at whole buffer content
  refine ⟨?_, ?_, ?_, ?_, ?_, buffer⟩
  · rw [parsed]
    exact content
  · rw [parsed]
    exact whole.tools.same_marks
  · rw [parsed]
    exact whole.parts.same_marks
  · intro received begins
    rw [parsed]
    exact shown received begins
  · intro received begins
    rw [shown received begins]
    exact separator_notMem_serverRead _

section RoundTrip

def Piece.prose : Piece loads → Option Char
  | .letter character _ => some character
  | .sentinel _ => none

/-- What a piece carries if it is a sentinel of a kind. -/
def Piece.carried (kind : SentinelKind) : Piece loads → Option Payload
  | .letter _ _ => none
  | .sentinel built => if built.kind = kind then loads built.payload else none

/-- **A stored turn has everything that was streamed**: the visible prose, and the payloads of its
tool events and its parts, each in their order. -/
theorem streamed_recovered (pieces : List (Piece loads)) :
    visible (parseStreamSentinels loads (wire pieces) 0).1 =
        visible (pieces.filterMap Piece.prose) ∧
      (parseStreamSentinels loads (wire pieces) 0).2.1.map StreamEvent.payload =
        pieces.filterMap (Piece.carried .tool) ∧
      (parseStreamSentinels loads (wire pieces) 0).2.2.map StreamEvent.payload =
        pieces.filterMap (Piece.carried .part) := by
  rw [parseStreamSentinels_wire]
  induction pieces using reverseRecOn with
  | nil => exact ⟨rfl, rfl, rfl⟩
  | append_singleton pieces piece ih =>
    obtain ⟨text, tools, parts⟩ := ih
    simp only [filterMap_append, filterMap_cons, filterMap_nil, serverRead_concat, visible_append]
    cases piece with
    | letter character plain =>
      simp only [Piece.prose, Piece.carried, append_nil]
      refine ⟨?_, tools, parts⟩
      simp only [readPiece, ServerState.append, Prose.append_singleton, visible_append, text]
      split_ifs
      · rw [visible_paragraph, append_nil]
      · exact congrArg (· ++ _) (append_nil _)
    | sentinel built =>
      simp only [Piece.prose, Piece.carried, readPiece]
      refine ⟨by rw [ServerState.strip_text, text]; exact (append_nil _).symm, ?_⟩
      cases kind : built.kind with
      | revise | thinking =>
        simpa [ServerState.strip] using And.intro tools parts
      | tool =>
        obtain ⟨evt, decoded, dict, _⟩ := built.tool kind
        simpa [ServerState.strip, decoded, dict] using And.intro tools parts
      | part =>
        obtain ⟨part, decoded, typed⟩ := built.part kind
        simpa [ServerState.strip, decoded, typed] using And.intro tools parts

end RoundTrip

section Samples

namespace Sample

/-- The payload of a tool event, as text and decoded. -/
def toolText : List Char := "\x7b\"phase\":\"start\"\x7d".toList

def decode (text : List Char) : Option Payload :=
  if text = toolText then some (.object [("phase", .text "start")]) else none

theorem toolText_unseparated : separator ∉ toolText := by decide +kernel

theorem decode_toolText : ∃ value, decode toolText = some value ∧ value.isDict = true ∧
    value.hasPhase = true :=
  ⟨.object [("phase", .text "start")], if_pos rfl, rfl, by decide +kernel⟩

def tool : Sentinel decode where
  kind := .tool
  payload := toolText
  unseparated := toolText_unseparated
  tool _ := decode_toolText
  part impossible := nomatch impossible

def revise : Sentinel decode where
  kind := .revise
  payload := "\x7b\x7d".toList
  unseparated := by decide +kernel
  tool impossible := nomatch impossible
  part impossible := nomatch impossible

def letter (character : Char) (plain : character ≠ separator) : Piece decode :=
  .letter character plain

/-- Prose, a tool event, a revise marker and prose. -/
def clear : List (Piece decode) :=
  [letter 'a' (by decide), .sentinel tool, .sentinel revise, letter 'b' (by decide)]

/-- Prose, a revise marker and a tool event. -/
def torn : List (Piece decode) :=
  [letter 'a' (by decide), .sentinel revise, .sentinel tool]

end Sample

/-- The stream is cut inside the opening of the tool event, and inside the marker's payload. -/
theorem agreement_sample : Agreement Sample.decode Sample.clear
    [(wire Sample.clear).take 4, ((wire Sample.clear).drop 4).take 45,
      (wire Sample.clear).drop 49] := by
  exact agreement (by decide +kernel) (by decide +kernel)

/-- The packet that ends inside the opening of the tool event takes the boundary of the marker: the
break stays behind the prose. -/
theorem torn_boundary_welded : ¬ ∀ (loads : List Char → Option Payload)
    (pieces : List (Piece loads)) (packets : List (List Char)),
    packets.flatten = wire pieces → Agreement loads pieces packets := by
  intro agrees
  have cut : [(wire Sample.torn).take 22, (wire Sample.torn).drop 22].flatten =
      wire Sample.torn := by
    simp
  have text := (agrees Sample.decode Sample.torn _ cut).text
  revert text
  decide +kernel

end Samples

end Kestrel.Chat
