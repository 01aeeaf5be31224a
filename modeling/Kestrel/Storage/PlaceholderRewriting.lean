import Kestrel.Base.Quoting
import Kestrel.Storage.Placeholder
import Mathlib.Algebra.GroupWithZero.Nat

/-!
# The rewriting of clauses

A clause is spelled without quotes and question marks, so the patterns see the text between two of
these marks by itself.
-/

namespace Kestrel.Storage.Placeholder

open List Quoting

/-- The characters that no clause is spelled with. -/
def marks : List Char := "'\"?".toList

/-- No letter of a word is like a mark. -/
abbrev Plain (word : String) : Prop :=
  (marks.all fun mark => word.toList.all (!alike · mark)) = true

variable {alnum : Char → Bool} {mark : Char} {text rest : List Char}

section Reading

def Stops (mark : Char) (read : List Char → Option (List Char)) : Prop :=
  ∀ text rest, read (text ++ mark :: rest) = (read text).map (· ++ mark :: rest)

theorem isSpace_mark (marked : mark ∈ marks) : Text.isSpace mark = false := by
  have all : marks.all (!Text.isSpace ·) = true := by decide
  simpa using all_eq_true.mp all mark marked

theorem isWord_mark (marked : mark ∈ marks) : isWord alnum mark = false := by
  have all : (marks.all fun mark =>
      !mark.isAlphanum && mark != '_' && mark.toNat < 128) = true := by decide
  obtain ⟨⟨letter, underscore⟩, ascii⟩ := by simpa using all_eq_true.mp all mark marked
  simp [isWord, letter, underscore, Nat.not_le.mpr ascii]

theorem boundary_append (marked : mark ∈ marks) (before : Option Char) :
    boundary alnum before (text ++ mark :: rest).head? = boundary alnum before text.head? := by
  cases text <;> simp [boundary, isWord_mark marked]

theorem stops_keyword {letters : List Char}
    (plain : ∀ letter ∈ letters, alike letter mark = false) : Stops mark (keyword letters) := by
  intro text rest
  induction letters generalizing text with
  | nil => simp [keyword]
  | cons letter letters ih =>
    rw [forall_mem_cons] at plain
    cases text with
    | nil => simp [keyword, plain.1]
    | cons character text =>
      rw [cons_append, keyword, keyword, ih plain.2]
      split_ifs <;> rfl

theorem stops_spaces (marked : mark ∈ marks) : Stops mark spaces := by
  have space := isSpace_mark marked
  intro text rest
  cases text with
  | nil => simp [spaces, space]
  | cons character text =>
    rw [spaces, spaces, dropWhile_append]
    cases (character :: text).dropWhile Text.isSpace <;> simp [space]
    all_goals split_ifs <;> simp_all

theorem not_alike {word : String} (plain : Plain word) (marked : mark ∈ marks) :
    ∀ letter ∈ word.toList, alike letter mark = false := by
  simpa using all_eq_true.mp plain mark marked

theorem stops_phrase (marked : mark ∈ marks) {word : String} {words : List String}
    (plain : ∀ other ∈ word :: words, Plain other) : Stops mark (phrase word words) := by
  induction words generalizing word with
  | nil => exact stops_keyword (not_alike (plain word mem_cons_self) marked)
  | cons next words ih =>
    rw [forall_mem_cons] at plain
    intro text rest
    rw [phrase, phrase, stops_keyword (not_alike plain.1 marked)]
    cases keyword word.toList text with
    | none => rfl
    | some rest' =>
      rw [Option.map_some, Option.bind_some, Option.bind_some, stops_spaces marked]
      cases spaces rest' with
      | none => rfl
      | some rest' => exact ih plain.2 _ _

theorem length_phrase {word : String} {words : List String}
    (read : phrase word words text = some rest) :
    rest.length + ((word :: words).map String.length).sum ≤ text.length := by
  have keywords {letters text rest : List Char} (read : keyword letters text = some rest) :
      rest.length + letters.length = text.length := by
    induction letters generalizing text with
    | nil => cases read; rfl
    | cons letter letters ih =>
      cases text with
      | nil => cases read
      | cons character text =>
        rw [keyword] at read
        split_ifs at read
        rw [length_cons, length_cons, ← ih read, Nat.add_assoc]
  induction words generalizing word text with
  | nil =>
    have := keywords read
    simp only [String.length_toList] at this
    simp [← this]
  | cons next words ih =>
    obtain ⟨behind, first, read⟩ := Option.bind_eq_some_iff.mp read
    obtain ⟨behind', space, read⟩ := Option.bind_eq_some_iff.mp read
    have taken := keywords first
    have onward := ih read
    have skipped : behind'.length ≤ behind.length := by
      unfold spaces at space
      split_ifs at space
      cases space
      exact (dropWhile_suffix _).length_le
    simp only [String.length_toList, map_cons, sum_cons] at taken onward ⊢
    omega

end Reading

section Clauses

variable {word : String} {before : Option Char}

theorem clause_append (plain : Plain word) (marked : mark ∈ marks) :
    clause alnum word before (text ++ mark :: rest) =
      (clause alnum word before text).map (· ++ mark :: rest) := by
  have spelled : ∀ other ∈ ["INSERT", "OR", word, "INTO"], Plain other := by
    simp only [forall_mem_cons]
    exact ⟨by decide, by decide, plain, by decide, nofun⟩
  unfold clause
  rw [boundary_append marked, stops_phrase marked spelled]
  split_ifs
  · cases phrase "INSERT" ["OR", word, "INTO"] text with
    | none => rfl
    | some behind =>
      simp only [Option.map_some, Option.filter_some, boundary_append marked]
      split_ifs <;> rfl
  · rfl

theorem length_clause (read : clause alnum word before text = some rest) :
    rest.length + 12 ≤ text.length := by
  unfold clause at read
  split_ifs at read
  have taken := length_phrase (Option.filter_eq_some_iff.mp read).1
  have letters : "INSERT".length = 6 ∧ "OR".length = 2 ∧ "INTO".length = 4 := by decide
  simp only [map_cons, map_nil, sum_cons, sum_nil, letters] at taken
  omega

theorem length_insertion : "INSERT INTO".toList.length = 11 := by decide

theorem hasClause_mark (marked : mark ∈ marks) :
    hasClause alnum word (some mark) text = hasClause alnum word none text := by
  cases text <;> simp [hasClause, clause, boundary, isWord_mark marked]

theorem substitute_mark (marked : mark ∈ marks) :
    substitute alnum word 0 (some mark) text = substitute alnum word 0 none text := by
  cases text <;> simp [substitute, clause, boundary, isWord_mark marked]

theorem clause_mark (plain : Plain word) (marked : mark ∈ marks) :
    clause alnum word before (mark :: rest) = none := by
  have none : clause alnum word before [] = none := by simp [clause, phrase, keyword]
  rw [← nil_append (mark :: rest), clause_append plain marked, none, Option.map_none]

theorem hasClause_append (plain : Plain word) (marked : mark ∈ marks) :
    hasClause alnum word before (text ++ mark :: rest) =
      (hasClause alnum word before text || hasClause alnum word none rest) := by
  induction text generalizing before with
  | nil => simp [hasClause, clause_mark plain marked, hasClause_mark marked]
  | cons character text ih =>
    rw [cons_append, hasClause, ih, hasClause, Bool.or_assoc, ← cons_append,
      clause_append plain marked, Option.isSome_map]

theorem hasClause_cons (plain : Plain word) (marked : mark ∈ marks) :
    hasClause alnum word before (mark :: rest) = hasClause alnum word none rest := by
  rw [← nil_append (mark :: rest), hasClause_append plain marked]
  rfl

theorem substitute_append (plain : Plain word) (marked : mark ∈ marks) {taken : ℕ}
    (within : taken ≤ text.length) : substitute alnum word taken before (text ++ mark :: rest) =
      substitute alnum word taken before text ++ mark :: substitute alnum word 0 none rest := by
  induction text generalizing before taken with
  | nil =>
    cases Nat.le_zero.mp within
    simp [substitute, clause_mark plain marked, substitute_mark marked]
  | cons character text ih =>
    cases taken with
    | succ taken => exact ih (Nat.le_of_succ_le_succ within)
    | zero =>
      rw [cons_append, substitute, substitute, ← cons_append, clause_append plain marked]
      cases clause alnum word before (character :: text) with
      | none => simp [ih (Nat.zero_le _)]
      | some behind =>
        have same : (text ++ mark :: rest).length - (behind ++ mark :: rest).length =
            text.length - behind.length := by
          simp only [length_append]
          omega
        simp only [Option.map_some, same, ih (Nat.sub_le _ _), append_assoc]

theorem length_substitute_add {taken : ℕ} (within : taken ≤ text.length) :
    (substitute alnum word taken before text).length + taken ≤ text.length := by
  induction text generalizing before taken with
  | nil =>
    cases Nat.le_zero.mp within
    exact le_refl _
  | cons character text ih =>
    cases taken with
    | succ taken => exact Nat.succ_le_succ (ih (Nat.le_of_succ_le_succ within))
    | zero =>
      rw [substitute]
      cases read : clause alnum word before (character :: text) with
      | none => exact Nat.succ_le_succ (ih (Nat.zero_le _))
      | some behind =>
        have shorter := length_clause read
        have onward : (substitute alnum word (text.length - behind.length) (some character)
          text).length + _ ≤ _ := ih (Nat.sub_le _ _)
        simp only [length_append, length_cons, length_insertion] at shorter ⊢
        omega

theorem length_substitute_lt (found : hasClause alnum word before text = true) :
    (substitute alnum word 0 before text).length < text.length := by
  induction text generalizing before with
  | nil => cases found
  | cons character text ih =>
    rw [hasClause] at found
    rw [substitute]
    cases read : clause alnum word before (character :: text) with
    | none =>
      rw [read] at found
      exact Nat.succ_lt_succ (ih found)
    | some behind =>
      have shorter := length_clause read
      have onward : (substitute alnum word (text.length - behind.length) (some character)
        text).length + _ ≤ _ := length_substitute_add (Nat.sub_le _ _)
      simp only [length_append, length_cons, length_insertion] at shorter ⊢
      omega

theorem substitute_eq_self (absent : hasClause alnum word before text = false) :
    substitute alnum word 0 before text = text := by
  induction text generalizing before with
  | nil => rfl
  | cons character text ih =>
    rw [hasClause, Bool.or_eq_false_iff, Option.isSome_eq_false_iff,
      Option.isNone_iff_eq_none] at absent
    rw [substitute, absent.1]
    simp only [ih absent.2]

theorem mem_substitute {taken : ℕ} {character : Char}
    (member : character ∈ substitute alnum word taken before text) :
    character ∈ text ∨ character ∈ "INSERT INTO".toList := by
  induction text generalizing before taken with
  | nil => cases taken <;> cases member
  | cons first text ih =>
    cases taken with
    | succ taken => exact (ih member).imp_left (mem_cons_of_mem _)
    | zero =>
      rw [substitute] at member
      split at member
      · rcases mem_append.mp member with new | member
        · exact .inr new
        · exact (ih member).imp_left (mem_cons_of_mem _)
      · rcases mem_cons.mp member with rfl | member
        · exact .inl mem_cons_self
        · exact (ih member).imp_left (mem_cons_of_mem _)

theorem head_substitute (marked : mark ∈ marks)
    (head : (substitute alnum word 0 before text).head? = some mark) : text.head? = some mark := by
  cases text with
  | nil => cases head
  | cons character text =>
    rw [substitute] at head
    split at head
    · exact absurd (Option.some.inj head) (by rintro rfl; revert marked; decide)
    · exact head

end Clauses

section Rewriting

theorem rewrite_append (marked : mark ∈ marks) :
    rewrite alnum (text ++ mark :: rest) = rewrite alnum text ++ mark :: rewrite alnum rest := by
  unfold rewrite
  rw [substitute_append (by decide) marked (Nat.zero_le _),
    substitute_append (by decide) marked (Nat.zero_le _)]

@[simp] theorem rewrite_nil : rewrite alnum [] = [] := rfl

theorem rewrite_cons (marked : mark ∈ marks) :
    rewrite alnum (mark :: rest) = mark :: rewrite alnum rest := by
  rw [← nil_append (mark :: rest), rewrite_append marked]
  rfl

theorem head_rewrite (marked : mark ∈ marks) (head : (rewrite alnum text).head? = some mark) :
    text.head? = some mark :=
  head_substitute marked (head_substitute marked head)

theorem not_mem_rewrite (marked : mark ∈ marks) (absent : mark ∉ text) :
    mark ∉ rewrite alnum text := by
  have all : (marks.all (· ∉ "INSERT INTO".toList)) = true := by decide
  have other : mark ∉ "INSERT INTO".toList := of_decide_eq_true (all_eq_true.mp all mark marked)
  exact fun member =>
    absent ((mem_substitute ((mem_substitute member).resolve_right other)).resolve_right other)

theorem rewrite_eq_self : rewrite alnum text = text ↔
    hasClause alnum "IGNORE" none text = false ∧ hasClause alnum "REPLACE" none text = false := by
  unfold rewrite
  constructor
  · intro same
    have ignores : hasClause alnum "IGNORE" none text = false := by
      by_contra found
      have shorter := length_substitute_lt (eq_true_of_ne_false found)
      have onward : (substitute alnum "REPLACE" 0 none (substitute alnum "IGNORE" 0 none
        text)).length + 0 ≤ _ := length_substitute_add (Nat.zero_le _)
      rw [same] at onward
      omega
    rw [substitute_eq_self ignores] at same
    refine ⟨ignores, ?_⟩
    by_contra found
    have shorter := length_substitute_lt (eq_true_of_ne_false found)
    rw [same] at shorter
    exact lt_irrefl _ shorter
  · rintro ⟨ignores, replaces⟩
    rw [substitute_eq_self ignores, substitute_eq_self replaces]

theorem count_rewrite (text : List Char) : (rewrite alnum text).count '?' = text.count '?' := by
  have marked : '?' ∈ marks := by decide
  induction size : text.length using Nat.strongRecOn generalizing text with
  | _ size ih =>
    by_cases member : '?' ∈ text
    · obtain ⟨front, behind, rfl, absent⟩ := eq_append_cons_of_mem member
      rw [rewrite_append marked, count_append, count_append, count_cons_self, count_cons_self,
        count_eq_zero.mpr absent, count_eq_zero.mpr (not_mem_rewrite marked absent),
        ih _ (by rw [← size, length_append, length_cons]; omega) behind rfl]
    · rw [count_eq_zero.mpr member, count_eq_zero.mpr (not_mem_rewrite marked member)]

theorem closing_rewrite {quote : Char} (marked : quote ∈ marks) (text : List Char) :
    closing quote (rewrite alnum text) = (closing quote text).map fun (body, rest) =>
      (rewrite alnum body, rewrite alnum rest) := by
  induction size : text.length using Nat.strongRecOn generalizing text with
  | _ size ih =>
    by_cases member : quote ∈ text
    · obtain ⟨front, behind, rfl, absent⟩ := eq_append_cons_of_mem member
      rw [rewrite_append marked, closing_append_of_not_mem absent,
        closing_append_of_not_mem (not_mem_rewrite marked absent)]
      by_cases doubled : behind.head? = some quote
      · obtain ⟨behind, rfl⟩ := head?_eq_some_iff.mp doubled
        rw [rewrite_cons marked, closing, if_pos rfl, if_pos rfl, closing, if_pos rfl, if_pos rfl,
          ih _ (by simp [← size]; omega) behind rfl]
        cases closing quote behind with
        | none => rfl
        | some found => simp [rewrite_append marked, rewrite_cons marked]
      · rw [closing_single doubled, closing_single fun head => doubled (head_rewrite marked head)]
        simp [rewrite_append marked]
    · rw [closing_eq_none member, closing_eq_none (not_mem_rewrite marked member)]
      rfl

end Rewriting

end Kestrel.Storage.Placeholder
