import Kestrel.Base.Text
import Mathlib.Data.List.DropRight

/-!
# Placeholders of SQLite and PostgreSQL

A statement's question marks are numbered outside quotes. Its `INSERT OR` clauses are found by
patterns that do not know about quotes.
-/

namespace Kestrel.Storage.Placeholder

open List

/-- A letter of a pattern, in either case. Three letters beyond ASCII are alike to one. -/
def alike (letter character : Char) : Bool :=
  character.toUpper = letter ∨
    (letter, character.toNat) ∈ [('I', 0x130), ('I', 0x131), ('S', 0x17F)]

def keyword : List Char → List Char → Option (List Char)
  | [], text => some text
  | _ :: _, [] => none
  | letter :: letters, character :: text =>
    if alike letter character then keyword letters text else none

/-- `\s+`. What follows it in a pattern takes no white space. -/
def spaces (text : List Char) : Option (List Char) :=
  if text.head?.any Text.isSpace then some (text.dropWhile Text.isSpace) else none

def phrase : String → List String → List Char → Option (List Char)
  | word, [], text => keyword word.toList text
  | word, next :: words, text =>
    (keyword word.toList text).bind fun rest => (spaces rest).bind (phrase next words)

section Patterns

-- The characters beyond ASCII that `str.isalnum` accepts.
variable (alnum : Char → Bool)

/-- `\w`. -/
def isWord (character : Char) : Bool :=
  character.isAlphanum ∨ character = '_' ∨ 128 ≤ character.toNat ∧ alnum character

/-- `\b`. -/
def boundary (before after : Option Char) : Bool :=
  before.any (isWord alnum) != after.any (isWord alnum)

/-- What follows a match of `\bINSERT\s+OR\s+WORD\s+INTO\b` that starts at a text. -/
def clause (word : String) (before : Option Char) (text : List Char) : Option (List Char) :=
  if boundary alnum before text.head? then
    (phrase "INSERT" ["OR", word, "INTO"] text).filter fun rest =>
      boundary alnum (some 'O') rest.head?
  else none

/-- `re.search` of a clause. -/
def hasClause (word : String) : Option Char → List Char → Bool
  | _, [] => false
  | before, character :: text =>
    (clause alnum word before (character :: text)).isSome || hasClause word (some character) text

/-- `re.sub` of a clause, behind a number of characters that a match has taken. -/
def substitute (word : String) : ℕ → Option Char → List Char → List Char
  | _, _, [] => []
  | taken + 1, _, character :: text => substitute word taken (some character) text
  | 0, before, character :: text =>
    match clause alnum word before (character :: text) with
    | some rest =>
      "INSERT INTO".toList ++ substitute word (text.length - rest.length) (some character) text
    | none => character :: substitute word 0 (some character) text

/-- The two substitutions, one after the other. -/
def rewrite (query : List Char) : List Char :=
  substitute alnum "REPLACE" 0 none (substitute alnum "IGNORE" 0 none query)

/-- A match of `INSERT\s+INTO\s+(\w+)\s*\(([^)]+)\)` that starts at a text: the table and the
columns. -/
def insertTarget (text : List Char) : Option (List Char × List Char) := do
  let rest ← (phrase "INSERT" ["INTO"] text).bind spaces
  let table := rest.takeWhile (isWord alnum)
  match (rest.dropWhile (isWord alnum)).dropWhile Text.isSpace with
  | '(' :: rest =>
    let columns := rest.takeWhile (· ≠ ')')
    if table ≠ [] ∧ columns ≠ [] ∧ ')' ∈ rest then some (table, columns) else none
  | _ => none

/-- The first match in a text. -/
def searchTarget : List Char → Option (List Char × List Char)
  | [] => none
  | character :: text =>
    (insertTarget alnum (character :: text)).orElse fun _ => searchTarget text

end Patterns

def isQuote (character : Char) : Bool := character ∈ "'\"".toList

def prepend (text : List Char) (scanned : List Char × ℕ) : List Char × ℕ :=
  (text ++ scanned.1, scanned.2)

def scan : Option Char → ℕ → List Char → List Char × ℕ
  | _, count, [] => ([], count)
  | none, count, character :: text =>
    if isQuote character then prepend [character] (scan (some character) count text)
    else if character = '?' then
      prepend ('$' :: (toString (count + 1)).toList) (scan none (count + 1) text)
    else prepend [character] (scan none count text)
  | some _, count, [character] => ([character], count)
  | some quote, count, character :: next :: text =>
    if character = quote then
      if next = quote then prepend [quote, quote] (scan (some quote) count text)
      else prepend [quote] (scan none count (next :: text))
    else prepend [character] (scan (some quote) count (next :: text))

/-- `converted.rstrip(';').rstrip()`. -/
def trimEnd (converted : List Char) : List Char :=
  (converted.rdropWhile (· = ';')).rdropWhile Text.isSpace

def knownPks : List (String × List String) :=
  [("graph_nodes", ["node_id"]), ("graph_edges", ["source_id", "target_id", "label"]),
    ("agent_metadata", ["agent_id", "key"]), ("agent_service_keys", ["agent_did", "provider_id"]),
    ("user_byok_service_keys", ["agent_did", "provider_id"]),
    ("sponsor_beneficiaries", ["agent_did"])]

/-- Lower case. Of the letters beyond ASCII only the Kelvin sign becomes one of a known table. -/
def lower (letter : Char) : Char := if letter.toNat = 0x212A then 'k' else letter.toLower

section Conflicts

variable (alnum : Char → Bool)

/-- `ON CONFLICT DO UPDATE` behind an insertion that names columns besides its key. -/
def upsert (converted : List Char) : List Char :=
  match searchTarget alnum converted with
  | none => converted
  | some (table, columnsStr) =>
    let columns := (columnsStr.splitOn ',').map fun column => Text.strip (.ofList column)
    let pkColumns := (knownPks.lookup (.ofList (table.map lower))).getD (columns.take 1)
    let updateColumns := columns.filter (· ∉ pkColumns)
    if updateColumns ≠ [] ∧ pkColumns ≠ [] then
      trimEnd converted ++ (" ON CONFLICT (" ++ ", ".intercalate pkColumns ++ ") DO UPDATE SET " ++
        ", ".intercalate (updateColumns.map fun column =>
          column ++ " = EXCLUDED." ++ column)).toList
    else converted

def addConflict (isInsertOrIgnore isInsertOrReplace : Bool) (converted : List Char) : List Char :=
  if isInsertOrIgnore then trimEnd converted ++ " ON CONFLICT DO NOTHING".toList
  else if isInsertOrReplace then upsert alnum converted
  else converted

def sqliteToPostgres (query : String) : String × ℕ :=
  let (converted, count) := scan none 0 (rewrite alnum query.toList)
  (.ofList (addConflict alnum (hasClause alnum "IGNORE" none query.toList)
    (hasClause alnum "REPLACE" none query.toList) converted), count)

end Conflicts

end Kestrel.Storage.Placeholder
