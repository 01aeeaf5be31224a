import Kestrel.Base.Text
import Mathlib.Data.Int.Notation

/-!
# Conversation messages

The rows of a transcript and what is read off their metadata: the session a row files itself
under, whether it starts one, and whether a person opened its turn. Instants are microseconds of
naive UTC, as `coerce_session_timestamp` leaves them; where it leaves none, a row is undatable.
-/

namespace Kestrel.Sessions

section Metadata

/-- A value of a metadata document. What `str` makes of an object, an array or a float is recorded
with it. -/
inductive Value where
  | null
  | boolean (value : Bool)
  | integer (value : ℤ)
  | text (value : String)
  | object (members : List (String × Value)) (rendered : String)
  | other (truthy : Bool) (rendered : String)
  deriving Repr

namespace Value

/-- Whether Python takes the value for true. -/
def truthy : Value → Bool
  | .null => false
  | .boolean value => value
  | .integer value => value ≠ 0
  | .text value => value ≠ ""
  | .object members _ => ¬ members.isEmpty
  | .other truthy _ => truthy

/-- `str(value)`. -/
def str : Value → String
  | .null => "None"
  | .boolean true => "True"
  | .boolean false => "False"
  | .integer value => toString value
  | .text value => value
  | .object _ rendered | .other _ rendered => rendered

end Value

/-- A document that `parse_message_metadata` returned. -/
abbrev Metadata := List (String × Value)

namespace Metadata

/-- `metadata.get(key)`. -/
def get (metadata : Metadata) (key : String) : Option Value :=
  (metadata.find? (·.1 = key)).map (·.2)

/-- `bool(metadata.get(key))`. -/
def flag (metadata : Metadata) (key : String) : Bool := (metadata.get key).any Value.truthy

/-- `canonical_session_id`. A bare integer names a row, not a session. -/
def canonicalSessionId (metadata : Metadata) : Option String :=
  (metadata.get "session_id").bind fun sid =>
    if sid.truthy ∧ ¬ Text.isDigits sid.str then some sid.str else none

def signalWakeSource (metadata : Metadata) : Option String :=
  match metadata.get "signal_wake" with
  | none => none
  | some wake =>
    if wake.truthy then
      match wake with
      | .object members _ =>
        match get members "source" with
        | some source => if source.truthy then some source.str else some "signal"
        | none => some "signal"
      | _ => some "signal"
    else none

def opensTurn (role : String) (metadata : Metadata) : Bool :=
  role = "user" ∧ ¬ metadata.flag "operator_signal"

def personMessageWakeSources : List String := ["channel.message"]

def isHumanTurn (role : String) (metadata : Metadata) : Bool :=
  opensTurn role metadata ∧
    (metadata.signalWakeSource.all fun source => source ∈ personMessageWakeSources)

end Metadata

end Metadata

/-- A message, as the readers of a transcript normalize it. -/
structure Message where
  id : ℤ
  role : String
  content : Option String
  metadata : Metadata
  createdAt : Option ℕ
  deriving Repr

/-- A row that only starts a session. -/
def Message.isMarker (message : Message) : Bool := message.metadata.flag "new_session"

end Kestrel.Sessions
