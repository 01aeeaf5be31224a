import Kestrel.Base.Search

/-!
# In-band stream sentinels

The text of a streamed turn carries wire metadata between record separators: revise markers,
thoughts, tool events and typed component parts. A payload is JSON, whose encoder escapes the
separator.
-/

namespace Kestrel.Chat

/-- The record separator, U+001E. -/
def separator : Char := '\x1e'

/-- White space, as the `\s` of the chat client's patterns has it. -/
def isSpace (character : Char) : Bool :=
  character ∈ ['\t', '\n', '\x0b', '\x0c', '\r', ' ', '\u00a0', '\u1680', '\u2028', '\u2029',
      '\u202f', '\u205f', '\u3000', '\ufeff'] ∨
    0x2000 ≤ character.toNat ∧ character.toNat ≤ 0x200a

inductive SentinelKind where
  | revise
  | thinking
  | tool
  | part
  deriving DecidableEq, Repr

/-- `REVISE_SENTINEL_PREFIX`, `THINKING_SENTINEL_PREFIX`, `TOOL_SENTINEL_PREFIX` and
`PART_SENTINEL_PREFIX`, behind their separator. -/
def SentinelKind.label : SentinelKind → List Char
  | .revise => ['K', 'E', 'S', 'T', 'R', 'E', 'L', ':', 'R', 'E', 'V', 'I', 'S', 'E', ':']
  | .thinking => ['K', 'E', 'S', 'T', 'R', 'E', 'L', ':', 'T', 'H', 'I', 'N', 'K', ':']
  | .tool => ['K', 'E', 'S', 'T', 'R', 'E', 'L', ':', 'T', 'O', 'O', 'L', ':']
  | .part => ['K', 'E', 'S', 'T', 'R', 'E', 'L', ':', 'P', 'A', 'R', 'T', ':']

def SentinelKind.opening (kind : SentinelKind) : List Char := separator :: kind.label

/-- `STREAM_SENTINELS` and `_ALL_SENTINEL_PREFIXES`. -/
def streamSentinels : List SentinelKind := [.revise, .thinking, .tool, .part]

section Payloads

/-- A JSON value. -/
inductive Payload where
  | null
  | boolean (value : Bool)
  | number (mantissa exponent : Int)
  | text (value : String)
  | array (values : List Payload)
  | object (members : List (String × Payload))

namespace Payload

def get (key : String) : Payload → Option Payload
  | .object members => (members.reverse.find? fun member => member.1 = key).map Prod.snd
  | _ => none

def isDict : Payload → Bool
  | .object _ => true
  | _ => false

def truthy : Payload → Bool
  | .null => false
  | .boolean value => value
  | .number mantissa _ => mantissa ≠ 0
  | .text value => value ≠ ""
  | .array _ | .object _ => true

/-- `payload && payload.phase`. -/
def hasPhase (payload : Payload) : Bool := (payload.get "phase").any truthy

/-- `payload && typeof payload.type === 'string'`, and the same test of the server. -/
def hasTextType (payload : Payload) : Bool :=
  match payload.get "type" with
  | some (.text _) => true
  | _ => false

end Payload

/-- A complete sentinel as the server builds it: its payload has no separator, and decodes to a
tool event with a phase or to a part with a type. -/
structure Sentinel (loads : List Char → Option Payload) where
  kind : SentinelKind
  payload : List Char
  unseparated : separator ∉ payload
  tool : kind = .tool → ∃ value, loads payload = some value ∧ value.isDict = true ∧
    value.hasPhase = true
  part : kind = .part → ∃ value, loads payload = some value ∧ value.hasTextType = true

/-- One character of prose, or a complete sentinel. -/
inductive Piece (loads : List Char → Option Payload) where
  | letter (character : Char) (plain : character ≠ separator)
  | sentinel (built : Sentinel loads)

variable {loads : List Char → Option Payload}

def Piece.wire : Piece loads → List Char
  | .letter character _ => [character]
  | .sentinel built => built.kind.opening ++ built.payload ++ [separator]

/-- The text of a stream. -/
def wire (pieces : List (Piece loads)) : List Char := pieces.flatMap Piece.wire

end Payloads

section Builders

/-- `json.loads` and `json.dumps`: an encoded object decodes to an object with the same texts, and
control characters are escaped. -/
structure JsonCodec where
  loads : List Char → Option Payload
  dumps : Payload → List Char
  decodes : ∀ members, ∃ value, loads (dumps (.object members)) = some value ∧
    value.isDict = true ∧ ∀ key text, (Payload.object members).get key = some (.text text) →
      value.get key = some (.text text)
  escapes : ∀ payload, separator ∉ dumps payload

inductive ToolPhase where
  | start
  | done
  | error
  deriving DecidableEq, Repr

def ToolPhase.label : ToolPhase → String
  | .start => "start"
  | .done => "done"
  | .error => "error"

def maxPartPayloadBytes : ℕ := 16 * 1024

variable (codec : JsonCodec)

/-- The payload of `_build_tool_sentinel`. -/
def toolPayload (phase : ToolPhase) (name : String) (index ms : Option Int)
    (detail : Option String) : Payload :=
  .object [("phase", .text phase.label), ("name", .text name),
    ("index", index.elim .null fun index => .number index 0),
    ("ms", ms.elim .null fun ms => .number ms 0), ("detail", detail.elim .null .text)]

/-- `_serialized_size_ok`. A payload has no number that JSON lacks. -/
def serializedSizeOk (part : Payload) : Option (List Char) :=
  let payload := codec.dumps part
  if (String.ofList payload).utf8ByteSize > maxPartPayloadBytes then none else some payload

/-- `_build_revise_sentinel` and `_build_thinking_sentinel`, with the members of their payload. -/
def buildMarker (kind : SentinelKind) (members : List (String × Payload))
    (plain : kind ≠ .tool ∧ kind ≠ .part) : Sentinel codec.loads where
  kind := kind
  payload := codec.dumps (.object members)
  unseparated := codec.escapes _
  tool := fun impossible => absurd impossible plain.1
  part := fun impossible => absurd impossible plain.2

def buildToolSentinel (phase : ToolPhase) (name : String) (index ms : Option Int)
    (detail : Option String) : Sentinel codec.loads where
  kind := .tool
  payload := codec.dumps (toolPayload phase name index ms detail)
  unseparated := codec.escapes _
  tool := by
    intro _
    obtain ⟨value, decoded, dict, texts⟩ := codec.decodes _
    refine ⟨value, decoded, dict, ?_⟩
    unfold Payload.hasPhase
    rw [texts "phase" phase.label rfl]
    cases phase <;> rfl
  part := fun impossible => nomatch impossible

/-- `build_part_sentinel` of a part with a renderer key. -/
def buildPartSentinel (type : String) (rest : List (String × Payload))
    (typed : ∀ member ∈ rest, member.1 ≠ "type") : Option (Sentinel codec.loads) :=
  match measured : serializedSizeOk codec (.object (("type", .text type) :: rest)) with
  | none => none
  | some payload => some {
      kind := .part
      payload := payload
      unseparated := by
        unfold serializedSizeOk at measured
        dsimp only at measured
        split_ifs at measured
        cases measured
        exact codec.escapes _
      tool := fun impossible => nomatch impossible
      part := by
        intro _
        unfold serializedSizeOk at measured
        dsimp only at measured
        split_ifs at measured
        cases measured
        obtain ⟨value, decoded, _, texts⟩ := codec.decodes (("type", .text type) :: rest)
        refine ⟨value, decoded, ?_⟩
        have found : (Payload.object (("type", .text type) :: rest)).get "type" =
            some (.text type) := by
          have absent : rest.reverse.find? (fun member => member.1 = "type") = none := by
            rw [List.find?_eq_none]
            intro member listed
            simpa using typed member (List.mem_reverse.mp listed)
          simp [Payload.get, List.find?_append, absent]
        unfold Payload.hasTextType
        rw [texts "type" type found] }

end Builders

end Kestrel.Chat
