import Mathlib.Data.List.TakeWhile

/-!
# Quoted regions

A quote opens a region, and the next one that is not doubled closes it. Behind a quote that nothing
closes there are no regions.
-/

namespace Quoting

open List

inductive Piece where
  | outside (text : List Char)
  | region (text : List Char)
  | unclosed (text : List Char)
  deriving DecidableEq, Repr

def Piece.text : Piece → List Char
  | .outside text | .region text | .unclosed text => text

/-- What a region holds behind its opening quote, with the closing one, and what follows it. -/
def closing (quote : Char) : List Char → Option (List Char × List Char)
  | [] => none
  | [letter] => if letter = quote then some ([quote], []) else none
  | letter :: next :: text =>
    if letter = quote then
      if next = quote then
        (closing quote text).map fun (body, rest) => (quote :: quote :: body, rest)
      else some ([quote], next :: text)
    else (closing quote (next :: text)).map fun (body, rest) => (letter :: body, rest)

variable {quote : Char} {text body rest : List Char}

theorem closing_spec (closed : closing quote text = some (body, rest)) :
    text = body ++ rest ∧ rest.head? ≠ some quote ∧ ∃ front, body = front ++ [quote] := by
  fun_induction closing quote text generalizing body rest with
  | case1 => cases closed
  | case2 =>
    cases closed
    exact ⟨rfl, nofun, [], rfl⟩
  | case3 => cases closed
  | case4 text ih =>
    obtain ⟨⟨inner, rest⟩, closed, same⟩ := Option.map_eq_some_iff.mp closed
    cases same
    obtain ⟨rfl, follows, front, rfl⟩ := ih closed
    exact ⟨rfl, follows, quote :: quote :: front, rfl⟩
  | case5 next text distinct =>
    cases closed
    exact ⟨rfl, by simpa using distinct, [], rfl⟩
  | case6 letter next text _ ih =>
    obtain ⟨⟨inner, rest⟩, closed, same⟩ := Option.map_eq_some_iff.mp closed
    cases same
    obtain ⟨same, follows, front, rfl⟩ := ih closed
    exact ⟨congrArg _ same, follows, letter :: front, rfl⟩

theorem closing_append (closed : closing quote text = some (body, rest)) {other : List Char}
    (follows : other.head? ≠ some quote) : closing quote (body ++ other) = some (body, other) := by
  fun_induction closing quote text generalizing body rest with
  | case1 | case3 => cases closed
  | case2 | case5 =>
    cases closed
    cases other with
    | nil => simp [closing]
    | cons next other => simpa [closing] using follows
  | case4 text ih =>
    obtain ⟨⟨inner, rest⟩, closed, same⟩ := Option.map_eq_some_iff.mp closed
    cases same
    simp [closing, ih closed]
  | case6 letter next text distinct ih =>
    obtain ⟨⟨inner, rest⟩, closed, same⟩ := Option.map_eq_some_iff.mp closed
    cases same
    have onward := ih closed
    obtain ⟨same, _, front, rfl⟩ := closing_spec closed
    cases front <;> simp_all [closing]

theorem closing_single (follows : text.head? ≠ some quote) :
    closing quote (quote :: text) = some ([quote], text) := by
  cases text <;> simp_all [closing]

theorem closing_append_of_not_mem {front : List Char} (absent : quote ∉ front) :
    closing quote (front ++ text) =
      (closing quote text).map fun (body, rest) => (front ++ body, rest) := by
  induction front with
  | nil => simp
  | cons letter front ih =>
    obtain ⟨distinct, absent⟩ := not_or.mp (mem_cons.not.mp absent)
    have onward := ih absent
    rw [cons_append]
    cases behind : front ++ text with
    | nil =>
      obtain ⟨rfl, rfl⟩ := append_eq_nil_iff.mp behind
      simp [closing, Ne.symm distinct]
    | cons next behind =>
      rw [closing, if_neg (Ne.symm distinct), ← behind, onward, Option.map_map]
      rfl

theorem closing_eq_none (absent : quote ∉ text) : closing quote text = none := by
  rw [← append_nil text, closing_append_of_not_mem absent]
  rfl

section Lexing

variable (isQuote : Char → Bool)

/-- The text that is outside up to the next quote, and what that quote opens. -/
def lex (text : List Char) : List Piece :=
  match _ : text.dropWhile (!isQuote ·) with
  | [] => [.outside text]
  | quote :: behind =>
    .outside (text.takeWhile (!isQuote ·)) ::
      match _ : closing quote behind with
      | none => [.unclosed (quote :: behind)]
      | some (body, rest) => .region (quote :: body) :: lex rest
termination_by text.length
decreasing_by
  have := (closing_spec ‹_›).1
  have := (dropWhile_suffix (!isQuote ·) (l := text)).length_le
  simp_all
  omega

def regions (text : List Char) : List (List Char) :=
  (lex isQuote text).filterMap fun
    | .region text => some text
    | _ => none

variable {isQuote} {run behind : List Char}

theorem lex_free (free : ∀ letter ∈ run, isQuote letter = false) :
    lex isQuote run = [.outside run] := by
  rw [lex]
  have none : run.dropWhile (!isQuote ·) = [] := dropWhile_eq_nil_iff.mpr (by simpa using free)
  split
  · rfl
  · simp_all

theorem lex_append (free : ∀ letter ∈ run, isQuote letter = false) (opens : isQuote quote = true) :
    lex isQuote (run ++ quote :: behind) = .outside run ::
      match closing quote behind with
      | none => [.unclosed (quote :: behind)]
      | some (body, rest) => .region (quote :: body) :: lex isQuote rest := by
  have taken : (run ++ quote :: behind).takeWhile (!isQuote ·) = run := by
    rw [takeWhile_append_of_pos (by simpa using free)]
    simp [opens]
  have dropped : (run ++ quote :: behind).dropWhile (!isQuote ·) = quote :: behind := by
    rw [dropWhile_append_of_pos (by simpa using free)]
    simp [opens]
  rw [lex]
  split
  · simp_all
  · next same =>
    rw [dropped] at same
    cases same
    rw [taken]
    split <;> simp_all

theorem lex_induction {motive : List Char → Prop}
    (free : ∀ run, (∀ letter ∈ run, isQuote letter = false) → motive run)
    (unclosed : ∀ run quote behind, (∀ letter ∈ run, isQuote letter = false) →
      isQuote quote = true → closing quote behind = none → motive (run ++ quote :: behind))
    (region : ∀ run quote body rest, (∀ letter ∈ run, isQuote letter = false) →
      isQuote quote = true → closing quote (body ++ rest) = some (body, rest) → motive rest →
        motive (run ++ quote :: (body ++ rest)))
    (text : List Char) : motive text := by
  induction size : text.length using Nat.strongRecOn generalizing text with
  | _ size ih =>
    have outside : ∀ letter ∈ text.takeWhile (!isQuote ·), isQuote letter = false :=
      fun letter member => by simpa using mem_takeWhile_imp member
    have parts := takeWhile_append_dropWhile (p := (!isQuote ·)) (l := text)
    cases ahead : text.dropWhile (!isQuote ·) with
    | nil =>
      rw [ahead, append_nil] at parts
      exact parts ▸ free _ outside
    | cons quote behind =>
      rw [ahead] at parts
      have opens : isQuote quote = true := by
        have := head?_dropWhile_not (!isQuote ·) text
        rw [ahead] at this
        simpa using this
      rw [← parts]
      cases closed : closing quote behind with
      | none => exact unclosed _ quote behind outside opens closed
      | some found =>
        obtain ⟨body, rest⟩ := found
        obtain ⟨rfl, _, _⟩ := closing_spec closed
        refine region _ quote body rest outside opens closed (ih _ ?_ rest rfl)
        rw [← size, ← parts]
        simp only [length_append, length_cons]
        omega

end Lexing

end Quoting
