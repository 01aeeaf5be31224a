import Kestrel.Base.Bytes
import Kestrel.Base.Json
import Kestrel.Base.Sha256
import Mathlib.Data.List.Sort

/-!
# External identity material

DID documents, succession statements and signature arrays arrive as JSON. Every field may hold a
value of any type.
-/

namespace Kestrel.Identity

/-- A JSON value. `Other` holds the values of types that nothing here looks into. -/
inductive Value (Other : Type) where
  | null
  | boolean (value : Bool)
  | integer (value : ℤ)
  | other (value : Other)
  | text (value : String)
  | array (values : List (Value Other))
  | object (entries : List (String × Value Other))

/-- An instant with the offset of its time zone, if it names one. -/
structure DateTime where
  utcoffset : Option ℤ
  instant : ℤ

/-- What the language does with values that nothing here looks into. -/
structure Language (Other : Type) where
  /-- `==` of two values that are not both texts. -/
  equals : Value Other → Value Other → Bool
  /-- The truth of such a value. -/
  isFalse : Other → Bool
  /-- The JSON text of such a value. -/
  dumps : Other → String
  /-- `datetime.fromisoformat`. -/
  fromisoformat : String → Option DateTime

namespace Value

variable {Other : Type}

/-- `==`. A text equals no value of another type. -/
def equals (language : Language Other) : Value Other → Value Other → Bool
  | .text value, .text value' => value = value'
  | .text _, _ => false
  | _, .text _ => false
  | value, value' => language.equals value value'

/-- `not value`. -/
def isFalse (language : Language Other) : Value Other → Bool
  | .null => true
  | .boolean value => !value
  | .integer value => value = 0
  | .other value => language.isFalse value
  | .text value => value = ""
  | .array values => values.isEmpty
  | .object entries => entries.isEmpty

/-- `mapping.get(name)`. -/
def get (entries : List (String × Value Other)) (name : String) : Value Other :=
  ((entries.find? fun entry => entry.1 = name).map Prod.snd).getD .null

def text? : Value Other → Option String
  | .text value => some value
  | .null | .boolean _ | .integer _ | .other _ | .array _ | .object _ => none

def array? : Value Other → Option (List (Value Other))
  | .array values => some values
  | .null | .boolean _ | .integer _ | .other _ | .text _ | .object _ => none

def object? : Value Other → Option (List (String × Value Other))
  | .object entries => some entries
  | .null | .boolean _ | .integer _ | .other _ | .text _ | .array _ => none

/-- `list(value)`. -/
def list? : Value Other → Option (List (Value Other))
  | .array values => some values
  | .text value => some (value.toList.map fun character => .text (String.ofList [character]))
  | .object entries => some (entries.map fun entry => .text entry.1)
  | .null | .boolean _ | .integer _ | .other _ => none

theorem equals_text {language : Language Other} {value : Value Other} {text : String} :
    equals language (.text text) value = true ↔ value = .text text := by
  cases value with
  | text value' =>
    rw [equals, decide_eq_true_eq, Value.text.injEq]
    exact eq_comm
  | null | boolean _ | integer _ | other _ | array _ | object _ =>
    exact iff_of_false Bool.noConfusion nofun

mutual

def encode (language : Language Other) : Value Other → List Char
  | .null => "null".toList
  | .boolean true => "true".toList
  | .boolean false => "false".toList
  | .integer value => Json.encodeInteger value
  | .other value => (language.dumps value).toList
  | .text value => Json.encodeText value
  | .array values =>
    '[' :: List.intercalate [','] (encodeElements language values) ++ [']']
  | .object entries =>
    '{' :: List.intercalate [','] (((encodeEntries language entries).insertionSort
      (·.1 ≤ ·.1)).map fun entry => Json.encodeText entry.1 ++ ':' :: entry.2) ++ ['}']

def encodeElements (language : Language Other) : List (Value Other) → List (List Char)
  | [] => []
  | value :: values => encode language value :: encodeElements language values

def encodeEntries (language : Language Other) :
    List (String × Value Other) → List (String × List Char)
  | [] => []
  | (key, value) :: entries => (key, encode language value) :: encodeEntries language entries

end

/-- `_parse_iso8601_utc`, and `_validate_iso8601_utc` where only its success counts. -/
def parseIso8601Utc (language : Language Other) (value : Value Other) : Option ℤ := do
  let text ← value.text?
  guard (text ≠ "")
  let candidate := if text.toList.getLast? = some 'Z' then
      String.ofList (text.toList.flatMap fun character =>
        if character = 'Z' then "+00:00".toList else [character])
    else text
  let parsed ← language.fromisoformat candidate
  guard (parsed.utcoffset = some 0)
  pure parsed.instant

end Value

end Kestrel.Identity
