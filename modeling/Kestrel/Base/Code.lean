import Mathlib.Data.List.Basic

/-! # Codes whose words can be read back from a stream -/

namespace Code

open List

variable {Symbol Letter : Type*}

/-- No code word begins another symbol's word. -/
def PrefixFree (code : Symbol → List Letter) : Prop :=
  ∀ first second rest rest', code first ++ rest = code second ++ rest' → first = second

theorem PrefixFree.read {code : Symbol → List Letter} (free : PrefixFree code)
    {first second : Symbol} {rest rest' : List Letter}
    (same : code first ++ rest = code second ++ rest') : first = second ∧ rest = rest' := by
  have equal := free _ _ _ _ same
  subst equal
  exact ⟨rfl, append_cancel_left same⟩

/-- A sequence of code words is read back up to a letter that begins no word. -/
theorem PrefixFree.read_until {code : Symbol → List Letter} (free : PrefixFree code)
    {terminator : Letter}
    (terminates : ∀ symbol rest rest', code symbol ++ rest ≠ terminator :: rest')
    {symbols symbols' : List Symbol} {rest rest' : List Letter}
    (same : symbols.flatMap code ++ terminator :: rest =
      symbols'.flatMap code ++ terminator :: rest') : symbols = symbols' ∧ rest = rest' := by
  induction symbols generalizing symbols' with
  | nil =>
    cases symbols' with
    | nil => exact ⟨rfl, (cons.inj same).2⟩
    | cons symbol symbols' =>
      rw [flatMap_cons, append_assoc] at same
      exact absurd same.symm (terminates symbol _ _)
  | cons symbol symbols ih =>
    cases symbols' with
    | nil =>
      rw [flatMap_cons, append_assoc] at same
      exact absurd same (terminates symbol _ _)
    | cons other symbols' =>
      rw [flatMap_cons, flatMap_cons, append_assoc, append_assoc] at same
      obtain ⟨equal, later⟩ := free.read same
      obtain ⟨equal', remaining⟩ := ih later
      rw [equal, equal']
      exact ⟨rfl, remaining⟩

theorem read_while {kind : Letter → Bool} {word word' rest rest' : List Letter}
    (inside : ∀ letter ∈ word, kind letter = true) (inside' : ∀ letter ∈ word', kind letter = true)
    (outside : ∀ letter, rest.head? = some letter → kind letter = false)
    (outside' : ∀ letter, rest'.head? = some letter → kind letter = false)
    (same : word ++ rest = word' ++ rest') : word = word' ∧ rest = rest' := by
  have run : ∀ {word rest : List Letter}, (∀ letter ∈ word, kind letter = true) →
      (∀ letter, rest.head? = some letter → kind letter = false) →
      (word ++ rest).takeWhile kind = word := by
    intro word rest inside outside
    rw [takeWhile_append_of_pos inside]
    cases rest with
    | nil => simp
    | cons letter rest => simp [outside letter rfl]
  have equal : word = word' := by
    rw [← run inside outside, same, run inside' outside']
  subst equal
  exact ⟨rfl, append_cancel_left same⟩

end Code
