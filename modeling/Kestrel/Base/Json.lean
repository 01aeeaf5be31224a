import Kestrel.Base.Code
import Mathlib.Data.Int.Notation
import Mathlib.Tactic.SplitIfs

/-!
# Canonical JSON of flat objects

`json.dumps` with sorted keys, the separators `,` and `:`, and no ASCII escapes. Objects with the
same keys have the same text only if they have the same values.
-/

namespace Json

open List Nat Char

/-- The members of a flat object. -/
inductive Value where
  | null
  | boolean (value : Bool)
  | integer (value : ℤ)
  | text (value : String)
  deriving DecidableEq, Repr

/-- The lower-case hexadecimal digit of a number below sixteen. -/
def hexDigit (value : ℕ) : Char := value.digitChar

def escape (character : Char) : List Char :=
  if character = '\\' then ['\\', '\\']
  else if character = '"' then ['\\', '"']
  else if character = '\n' then ['\\', 'n']
  else if character = '\r' then ['\\', 'r']
  else if character = '\t' then ['\\', 't']
  else if character.toNat = 8 then ['\\', 'b']
  else if character.toNat = 12 then ['\\', 'f']
  else if character.toNat < 32 then
    ['\\', 'u', '0', '0', hexDigit (character.toNat / 16), hexDigit (character.toNat % 16)]
  else [character]

def encodeText (value : String) : List Char :=
  '"' :: (value.toList.flatMap escape ++ ['"'])

def encodeInteger (value : ℤ) : List Char :=
  if value < 0 then '-' :: Nat.toDigits 10 value.natAbs else Nat.toDigits 10 value.natAbs

def Value.encode : Value → List Char
  | .null => ['n', 'u', 'l', 'l']
  | .boolean true => ['t', 'r', 'u', 'e']
  | .boolean false => ['f', 'a', 'l', 's', 'e']
  | .integer value => encodeInteger value
  | .text value => encodeText value

def encodeMembers : List (String × Value) → List Char
  | [] => []
  | [(key, value)] => encodeText key ++ ':' :: value.encode
  | (key, value) :: members => encodeText key ++ ':' :: value.encode ++ ',' :: encodeMembers members

/-- The text of an object whose keys are in order. -/
def dumps (members : List (String × Value)) : String :=
  String.ofList ('{' :: encodeMembers members ++ ['}'])

section Texts

/-- The value of a hexadecimal digit below sixteen. -/
def hexValue (digit : Char) : ℕ :=
  if digit.toNat < 58 then digit.toNat - 48 else digit.toNat - 87

/-- The character that an escape after a backslash stands for. -/
def unescapeTail : List Char → Option Char
  | 'n' :: _ => some '\n'
  | 'r' :: _ => some '\r'
  | 't' :: _ => some '\t'
  | 'b' :: _ => some (Char.ofNat 8)
  | 'f' :: _ => some (Char.ofNat 12)
  | 'u' :: _ :: _ :: high :: low :: _ => some (Char.ofNat (16 * hexValue high + hexValue low))
  | character :: _ => some character
  | [] => none

/-- The first character of an escaped text. -/
def unescape : List Char → Option Char
  | [] => none
  | letter :: rest => if letter = '\\' then unescapeTail rest else some letter

theorem hexValue_hexDigit (value : ℕ) (small : value < 32) :
    16 * hexValue (hexDigit (value / 16)) + hexValue (hexDigit (value % 16)) = value := by
  have all : ∀ value : Fin 32, 16 * hexValue (hexDigit (value.val / 16)) +
      hexValue (hexDigit (value.val % 16)) = value.val := by decide
  exact all ⟨value, small⟩

theorem unescape_escape (character : Char) (rest : List Char) :
    unescape (escape character ++ rest) = some character := by
  unfold escape
  split_ifs with backslash quote newline carriage tab backspace feed control
  · rw [backslash]
    rfl
  · rw [quote]
    rfl
  · rw [newline]
    rfl
  · rw [carriage]
    rfl
  · rw [tab]
    rfl
  · rw [← ofNat_toNat character, backspace]
    rfl
  · rw [← ofNat_toNat character, feed]
    rfl
  · change some (ofNat (16 * hexValue (hexDigit (character.toNat / 16)) +
      hexValue (hexDigit (character.toNat % 16)))) = some character
    rw [hexValue_hexDigit _ control, ofNat_toNat]
  · change (if character = '\\' then _ else some character) = some character
    rw [if_neg backslash]

theorem escape_prefixFree : Code.PrefixFree escape := by
  intro first second rest rest' same
  have read := congrArg unescape same
  rw [unescape_escape, unescape_escape] at read
  exact Option.some.inj read

theorem escape_terminates (character : Char) (rest rest' : List Char) :
    escape character ++ rest ≠ '"' :: rest' := by
  intro same
  have read := congrArg unescape same
  rw [unescape_escape] at read
  have quote : character = '"' := Option.some.inj read
  subst quote
  cases same

theorem encodeText_read {value value' : String} {rest rest' : List Char}
    (same : encodeText value ++ rest = encodeText value' ++ rest') :
    value = value' ∧ rest = rest' := by
  unfold encodeText at same
  rw [cons_append, cons_append, append_assoc, append_assoc] at same
  obtain ⟨texts, remaining⟩ :=
    escape_prefixFree.read_until escape_terminates (cons.inj same).2
  exact ⟨String.toList_injective texts, remaining⟩

def namedEscape (letter : Char) : Option Char :=
  if letter = '"' ∨ letter = '\\' ∨ letter = '/' then some letter
  else if letter = 'n' then some '\n'
  else if letter = 'r' then some '\r'
  else if letter = 't' then some '\t'
  else if letter = 'b' then some (Char.ofNat 8)
  else if letter = 'f' then some (Char.ofNat 12)
  else none

/-- The characters of a text after its opening quote, and what follows its closing quote. -/
def readText : List Char → Option (List Char × List Char)
  | [] => none
  | '"' :: rest => some ([], rest)
  | '\\' :: 'u' :: first :: second :: third :: fourth :: rest => do
    let (text, remaining) ← readText rest
    let code := 16 * (16 * (16 * hexValue first + hexValue second) + hexValue third) +
      hexValue fourth
    some (Char.ofNat code :: text, remaining)
  | '\\' :: letter :: rest => do
    let character ← namedEscape letter
    let (text, remaining) ← readText rest
    some (character :: text, remaining)
  | letter :: rest =>
    if letter.toNat < 32 then none
    else do
      let (text, remaining) ← readText rest
      some (letter :: text, remaining)

theorem readText_escape (character : Char) (rest : List Char) :
    readText (escape character ++ rest) = (readText rest).map fun (text, remaining) =>
      (character :: text, remaining) := by
  have named : ∀ letter, letter ≠ 'u' → readText ('\\' :: letter :: rest) =
      (namedEscape letter).bind fun character => (readText rest).map fun (text, remaining) =>
        (character :: text, remaining) := by
    intro letter other
    rw [readText.eq_4 _ _ fun _ _ _ _ _ same _ => other same]
    cases namedEscape letter with
    | none => rfl
    | some _ => cases readText rest <;> rfl
  unfold escape
  split_ifs with backslash quote newline carriage tab backspace feed control
  · rw [backslash]
    exact named '\\' (by decide)
  · rw [quote]
    exact named '"' (by decide)
  · rw [newline]
    exact named 'n' (by decide)
  · rw [carriage]
    exact named 'r' (by decide)
  · rw [tab]
    exact named 't' (by decide)
  · rw [← ofNat_toNat character, backspace]
    exact named 'b' (by decide)
  · rw [← ofNat_toNat character, feed]
    exact named 'f' (by decide)
  · have code : 16 * (16 * (16 * hexValue '0' + hexValue '0') +
        hexValue (hexDigit (character.toNat / 16))) + hexValue (hexDigit (character.toNat % 16)) =
          character.toNat := by
      have zero : hexValue '0' = 0 := rfl
      rw [zero]
      simpa using hexValue_hexDigit _ control
    change readText ('\\' :: 'u' :: '0' :: '0' :: hexDigit (character.toNat / 16) ::
      hexDigit (character.toNat % 16) :: rest) = _
    rw [readText, code]
    dsimp only
    rw [ofNat_toNat]
    cases readText rest <;> rfl
  · change readText (character :: rest) = _
    rw [readText.eq_5 _ _ (fun same => quote same) (fun _ _ _ _ _ same => absurd same backslash)
      (fun _ _ same => absurd same backslash), if_neg control]
    cases readText rest <;> rfl

theorem readText_encode (letters rest : List Char) :
    readText (letters.flatMap escape ++ '"' :: rest) = some (letters, rest) := by
  induction letters with
  | nil => rfl
  | cons letter letters ih =>
    rw [flatMap_cons, append_assoc, readText_escape, ih]
    rfl

/-- The text of a list of two texts. -/
def encodePair (first second : String) : String :=
  String.ofList ('[' :: encodeText first ++ ',' :: encodeText second ++ [']'])

/-- The two texts of a list without spaces. -/
def readPair (text : String) : Option (String × String) :=
  match text.toList with
  | '[' :: '"' :: rest =>
    match readText rest with
    | some (first, ',' :: '"' :: rest) =>
      match readText rest with
      | some (second, [']']) => some (String.ofList first, String.ofList second)
      | _ => none
    | _ => none
  | _ => none

theorem readPair_encodePair (first second : String) :
    readPair (encodePair first second) = some (first, second) := by
  unfold readPair encodePair encodeText
  rw [String.toList_ofList]
  simp only [cons_append, append_assoc, nil_append]
  rw [readText_encode]
  simp only
  rw [readText_encode]
  simp only [String.ofList_toList]

/-- What every list that begins with a text begins with. -/
def pairPrefix (first : String) : String := String.ofList ('[' :: encodeText first ++ [','])

theorem pairPrefix_isPrefix {first other second : String} :
    (pairPrefix other).toList <+: (encodePair first second).toList ↔ first = other := by
  unfold pairPrefix encodePair
  rw [String.toList_ofList, String.toList_ofList]
  constructor
  · rintro ⟨rest, same⟩
    simp only [cons_append, append_assoc, cons.injEq, true_and] at same
    exact (encodeText_read same).1.symm
  · rintro rfl
    refine ⟨encodeText second ++ [']'], ?_⟩
    simp

end Texts

section Values

/-- What may follow a member's value. -/
def Delimited (rest : List Char) : Prop := rest.head? = some ',' ∨ rest.head? = some '}'

theorem toDigits_injective {value value' : ℕ} (same : toDigits 10 value = toDigits 10 value') :
    value = value' := by
  have read := congrArg (ofDigitChars 10 · 0) same
  rw [ofDigitChars_ten_toDigits, ofDigitChars_ten_toDigits] at read
  exact read

theorem Delimited.not_digit {rest : List Char} (delimited : Delimited rest) :
    ∀ letter, rest.head? = some letter → letter.isDigit = false := by
  intro letter first
  rcases delimited with comma | brace
  · rw [comma] at first
    cases first
    rfl
  · rw [brace] at first
    cases first
    rfl

theorem digits_isDigit (value : ℕ) : ∀ letter ∈ toDigits 10 value, letter.isDigit = true :=
  fun _ member => isDigit_of_mem_toDigits (by decide) (by decide) member

def Value.Begins : Value → Char → Prop
  | .null, letter => letter = 'n'
  | .boolean true, letter => letter = 't'
  | .boolean false, letter => letter = 'f'
  | .integer _, letter => letter = '-' ∨ letter.isDigit = true
  | .text _, letter => letter = '"'

theorem Value.begins (value : Value) (rest : List Char) :
    ∃ letter tail, value.encode ++ rest = letter :: tail ∧ value.Begins letter := by
  cases value with
  | null | text value => exact ⟨_, _, rfl, rfl⟩
  | boolean value => cases value <;> exact ⟨_, _, rfl, rfl⟩
  | integer value =>
    change ∃ letter tail, encodeInteger value ++ rest = letter :: tail ∧ _
    unfold encodeInteger
    split_ifs
    · exact ⟨_, _, rfl, .inl rfl⟩
    · cases digits : toDigits 10 value.natAbs with
      | nil => exact absurd digits toDigits_ne_nil
      | cons letter tail =>
        refine ⟨letter, tail ++ rest, rfl, .inr ?_⟩
        refine digits_isDigit value.natAbs letter ?_
        rw [digits]
        exact mem_cons_self

theorem encodeInteger_read {value value' : ℤ} {rest rest' : List Char}
    (delimited : Delimited rest) (delimited' : Delimited rest')
    (same : encodeInteger value ++ rest = encodeInteger value' ++ rest') :
    value = value' ∧ rest = rest' := by
  have first_digit : ∀ (value : ℕ) (rest : List Char) letter tail,
      toDigits 10 value ++ rest = letter :: tail → letter.isDigit = true := by
    intro value rest letter tail read
    cases digits : toDigits 10 value with
    | nil => exact absurd digits toDigits_ne_nil
    | cons digit _ =>
      rw [digits] at read
      rw [← (cons.inj read).1]
      refine digits_isDigit value digit ?_
      rw [digits]
      exact mem_cons_self
  have magnitudes : ∀ {first second : ℕ}, toDigits 10 first ++ rest = toDigits 10 second ++ rest' →
      first = second ∧ rest = rest' := by
    intro first second read
    obtain ⟨digits, remaining⟩ := Code.read_while (digits_isDigit first) (digits_isDigit second)
      delimited.not_digit delimited'.not_digit read
    exact ⟨toDigits_injective digits, remaining⟩
  unfold encodeInteger at same
  by_cases negative : value < 0
  · by_cases negative' : value' < 0
    · rw [if_pos negative, if_pos negative'] at same
      obtain ⟨equal, remaining⟩ := magnitudes (cons.inj same).2
      exact ⟨by omega, remaining⟩
    · rw [if_pos negative, if_neg negative'] at same
      exact absurd (first_digit _ _ _ _ same.symm) (by decide)
  · by_cases negative' : value' < 0
    · rw [if_neg negative, if_pos negative'] at same
      exact absurd (first_digit _ _ _ _ same) (by decide)
    · rw [if_neg negative, if_neg negative'] at same
      obtain ⟨equal, remaining⟩ := magnitudes same
      exact ⟨by omega, remaining⟩

/-- A member's value is read back up to its delimiter. -/
theorem Value.encode_read {value value' : Value} {rest rest' : List Char}
    (delimited : Delimited rest) (delimited' : Delimited rest')
    (same : value.encode ++ rest = value'.encode ++ rest') : value = value' ∧ rest = rest' := by
  obtain ⟨letter, tail, read, begins⟩ := value.begins rest
  obtain ⟨letter', tail', read', begins'⟩ := value'.begins rest'
  have equal : letter = letter' := by
    rw [read, read'] at same
    exact (cons.inj same).1
  subst equal
  -- Values of different kinds begin with different letters.
  have distinct : ∀ {letter' : Char}, letter'.isDigit = false → letter' ≠ '-' →
      letter = letter' → ¬ (letter = '-' ∨ letter.isDigit = true) := by
    intro letter' digit minus equal begins
    subst equal
    rcases begins with dash | digit'
    · exact minus dash
    · rw [digit] at digit'
      cases digit'
  cases value with
  | null =>
    cases value' with
    | null => exact ⟨rfl, append_cancel_left same⟩
    | boolean value' => cases value' <;> exact absurd (begins.symm.trans begins') (by decide)
    | integer => exact absurd begins' (distinct rfl (by decide) begins)
    | text => exact absurd (begins.symm.trans begins') (by decide)
  | boolean value =>
    cases value' with
    | null | text => cases value <;> exact absurd (begins.symm.trans begins') (by decide)
    | boolean value' =>
      cases value <;> cases value'
      · exact ⟨rfl, append_cancel_left same⟩
      · exact absurd (begins.symm.trans begins') (by decide)
      · exact absurd (begins.symm.trans begins') (by decide)
      · exact ⟨rfl, append_cancel_left same⟩
    | integer => cases value <;> exact absurd begins' (distinct rfl (by decide) begins)
  | integer value =>
    cases value' with
    | null | text => exact absurd begins (distinct rfl (by decide) begins')
    | boolean value' => cases value' <;> exact absurd begins (distinct rfl (by decide) begins')
    | integer value' =>
      obtain ⟨rfl, remaining⟩ := encodeInteger_read delimited delimited' same
      exact ⟨rfl, remaining⟩
  | text value =>
    cases value' with
    | null => exact absurd (begins.symm.trans begins') (by decide)
    | boolean value' => cases value' <;> exact absurd (begins.symm.trans begins') (by decide)
    | integer => exact absurd begins' (distinct rfl (by decide) begins)
    | text value' =>
      obtain ⟨rfl, remaining⟩ := encodeText_read same
      exact ⟨rfl, remaining⟩

end Values

section Objects

theorem encodeMembers_cons (key : String) (value : Value) {members : List (String × Value)}
    (nonempty : members ≠ []) : encodeMembers ((key, value) :: members) =
      encodeText key ++ ':' :: (value.encode ++ ',' :: encodeMembers members) := by
  cases members with
  | nil => exact absurd rfl nonempty
  | cons =>
    rw [encodeMembers, append_assoc]
    · rfl
    · exact nonempty

/-- Members are read back up to the closing brace. -/
theorem encodeMembers_read {members members' : List (String × Value)} {rest rest' : List Char}
    (same_length : members.length = members'.length)
    (same : encodeMembers members ++ '}' :: rest = encodeMembers members' ++ '}' :: rest') :
    members = members' := by
  induction members using encodeMembers.induct generalizing members' with
  | case1 =>
    cases members' with
    | nil => rfl
    | cons => cases same_length
  | case2 key value =>
    match members', same_length with
    | [(key', value')], _ =>
      unfold encodeMembers at same
      rw [append_assoc, append_assoc] at same
      obtain ⟨keys, remaining⟩ := encodeText_read same
      obtain ⟨values, _⟩ := Value.encode_read (.inr rfl) (.inr rfl) (cons.inj remaining).2
      rw [keys, values]
  | case3 key value members nonempty ih =>
    match members', same_length with
    | (key', value') :: [], same_length =>
      exact absurd (length_eq_zero_iff.1 (succ.inj same_length)) nonempty
    | (key', value') :: other :: members', same_length =>
      rw [encodeMembers_cons key value nonempty,
        encodeMembers_cons key' value' (cons_ne_nil _ _), append_assoc,
        append_assoc] at same
      obtain ⟨keys, remaining⟩ := encodeText_read same
      have delimited : value.encode ++ ',' :: (encodeMembers members ++ '}' :: rest) =
          value'.encode ++ ',' :: (encodeMembers (other :: members') ++ '}' :: rest') := by
        have texts := (cons.inj remaining).2
        simp only [append_eq, append_assoc, cons_append] at texts
        exact texts
      obtain ⟨values, remaining⟩ := Value.encode_read (.inl rfl) (.inl rfl) delimited
      rw [keys, values, ih (succ.inj same_length) (cons.inj remaining).2]

/-- **Objects of the same size with the same text are the same.** -/
theorem dumps_injective {members members' : List (String × Value)}
    (same_length : members.length = members'.length) (same : dumps members = dumps members') :
    members = members' := by
  unfold dumps at same
  have letters := String.ofList_injective same
  exact encodeMembers_read same_length (cons.inj letters).2

end Objects

end Json
