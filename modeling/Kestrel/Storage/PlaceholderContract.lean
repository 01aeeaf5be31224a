import Kestrel.Storage.PlaceholderRewriting

/-!
# What the conversion of placeholders keeps

The statement is compared with one whose clauses and placeholders are converted outside quotes only.
-/

namespace Kestrel.Storage.Placeholder

open List Quoting

variable {alnum : Char → Bool} {quote : Char} {text rest : List Char} {count : ℕ}

def numbered : ℕ → List Char → List Char
  | _, [] => []
  | count, character :: text =>
    if character = '?' then '$' :: (toString (count + 1)).toList ++ numbered (count + 1) text
    else character :: numbered count text

def bare : Piece → List Char
  | .outside text | .unclosed text => text
  | .region _ => []

def assemble (convert : ℕ → Piece → List Char) : ℕ → List Piece → List Char
  | _, [] => []
  | count, piece :: pieces =>
    convert count piece ++ assemble convert (count + (bare piece).count '?') pieces

section Contract

variable (alnum)

def converted (count : ℕ) : Piece → List Char
  | .outside text | .unclosed text => numbered count (rewrite alnum text)
  | .region text => text

def HasInsertOr (text : List Char) : Prop :=
  hasClause alnum "IGNORE" none text = true ∨ hasClause alnum "REPLACE" none text = true

/-- What is promised of a statement, its conversion and the number of placeholders. -/
structure Preserves (query : List Char) (result : List Char × ℕ) : Prop where
  count : result.2 = ((lex isQuote query).flatMap bare).count '?'
  regions : regions isQuote query <+: regions isQuote result.1
  text : result.1 = assemble (converted alnum) 0 (lex isQuote query) ∨
    (∃ piece ∈ lex isQuote query, HasInsertOr alnum (bare piece)) ∧
      ∃ conflict, result.1 = trimEnd (assemble (converted alnum) 0 (lex isQuote query)) ++
        " ON CONFLICT ".toList ++ conflict

/-- No region spells a clause, and no placeholder stands behind a quote that nothing closes. -/
def Spared : Piece → Prop
  | .outside _ => True
  | .region text => ¬ HasInsertOr alnum text
  | .unclosed text => '?' ∉ text

end Contract

section Scanning

theorem isQuote_mark (opens : isQuote quote = true) : quote ∈ marks :=
  mem_append_left ['?'] (of_decide_eq_true opens)

theorem free_rewrite (free : ∀ letter ∈ text, isQuote letter = false) :
    ∀ letter ∈ rewrite alnum text, isQuote letter = false := by
  intro letter member
  by_contra quoted
  have opens : isQuote letter = true := by simpa using quoted
  exact not_mem_rewrite (isQuote_mark opens) (fun old => quoted (free letter old)) member

theorem free_numbered (free : ∀ letter ∈ text, isQuote letter = false) :
    ∀ letter ∈ numbered count text, isQuote letter = false := by
  have digits (number : ℕ) : ∀ letter ∈ (toString number).toList, isQuote letter = false := by
    intro letter member
    rw [Nat.toString_eq_repr, Nat.toList_repr] at member
    have digit := Nat.isDigit_of_mem_toDigits (by decide) (by decide) member
    have none : marks.all (!·.isDigit) = true := by decide
    by_contra quoted
    have plain := all_eq_true.mp none letter (isQuote_mark (eq_true_of_ne_false quoted))
    simp [digit] at plain
  induction text generalizing count with
  | nil => exact nofun
  | cons character text ih =>
    rw [forall_mem_cons] at free
    rw [numbered]
    split_ifs
    · rw [forall_mem_append, forall_mem_cons]
      exact ⟨⟨by decide, digits _⟩, ih free.2⟩
    · exact forall_mem_cons.mpr ⟨free.1, ih free.2⟩

theorem numbered_eq_self (absent : '?' ∉ text) : numbered count text = text := by
  induction text with
  | nil => rfl
  | cons character text ih =>
    obtain ⟨distinct, absent⟩ := not_or.mp (mem_cons.not.mp absent)
    rw [numbered, if_neg (Ne.symm distinct), ih absent]

@[simp] theorem prepend_prepend (front text : List Char) (scanned : List Char × ℕ) :
    prepend front (prepend text scanned) = prepend (front ++ text) scanned := by
  simp [prepend]

theorem scan_outside (free : ∀ letter ∈ text, isQuote letter = false) :
    scan none count (text ++ rest) =
      prepend (numbered count text) (scan none (count + text.count '?') rest) := by
  induction text generalizing count with
  | nil => rfl
  | cons character text ih =>
    rw [forall_mem_cons] at free
    rw [cons_append, scan, if_neg (by simp [free.1]), numbered]
    split_ifs with placeholder
    · rw [ih free.2, placeholder, count_cons_self, prepend_prepend, Nat.add_right_comm]
      rfl
    · rw [ih free.2, count_cons_of_ne placeholder, prepend_prepend]
      rfl

theorem scan_inside (text : List Char) : scan (some quote) count text =
    match closing quote text with
    | none => (text, count)
    | some (body, rest) => prepend body (scan none count rest) := by
  fun_induction closing quote text with
  | case1 => rfl
  | case2 => simp [scan, prepend]
  | case3 => rfl
  | case4 text ih =>
    rw [scan, if_pos rfl, if_pos rfl, ih]
    cases closing quote text <;> simp [prepend]
  | case5 next text distinct => rw [scan, if_pos rfl, if_neg distinct]
  | case6 letter next text distinct ih =>
    rw [scan, if_neg distinct, ih]
    cases closing quote (next :: text) <;> simp [prepend]

theorem head_scan (opens : isQuote quote = true)
    (head : (scan none count text).1.head? = some quote) : text.head? = some quote := by
  cases text with
  | nil => cases head
  | cons character text =>
    rw [scan] at head
    split_ifs at head
    · exact head
    · cases Option.some.inj head
      cases opens
    · exact head

end Scanning

section Conflicts

/-- A statement as it is, or with a conflict clause. -/
def Ends (final statement : List Char) : Prop :=
  final = statement ∨ ∃ conflict, final = trimEnd statement ++ " ON CONFLICT ".toList ++ conflict

theorem trimEnd_append (front : List Char) (opens : isQuote quote = true) :
    trimEnd (front ++ quote :: text) = front ++ quote :: trimEnd text := by
  have dropped {skips : Char → Bool} (kept : skips quote = false) (text : List Char) :
      (front ++ quote :: text).rdropWhile skips = front ++ quote :: text.rdropWhile skips := by
    induction text using reverseRecOn with
    | nil => simp [kept]
    | append_singleton text letter ih =>
      rw [← cons_append, ← append_assoc, rdropWhile_concat, rdropWhile_concat, ih]
      split_ifs <;> simp
  have marked := isQuote_mark opens
  have semicolon : quote ≠ ';' := ne_of_mem_of_not_mem marked (by decide)
  rw [trimEnd, dropped (by simpa using semicolon), dropped (isSpace_mark marked)]
  rfl

theorem Ends.behind {front final : List Char} (opens : isQuote quote = true)
    (ends : Ends final (front ++ quote :: text)) :
    ∃ behind, final = front ++ quote :: behind ∧ Ends behind text := by
  rcases ends with rfl | ⟨conflict, rfl⟩
  · exact ⟨text, rfl, .inl rfl⟩
  · refine ⟨trimEnd text ++ " ON CONFLICT ".toList ++ conflict, ?_, .inr ⟨conflict, rfl⟩⟩
    rw [trimEnd_append front opens]
    simp only [append_assoc, cons_append]

theorem Ends.head {final : List Char} (ends : Ends final text) (opens : isQuote quote = true)
    (head : final.head? = some quote) : text.head? = some quote := by
  rcases ends with rfl | ⟨conflict, rfl⟩
  · exact head
  · have begins : trimEnd text <+: text := by
      apply IsPrefix.trans
      all_goals exact rdropWhile_prefix _ _
    cases trimmed : trimEnd text with
    | nil =>
      rw [trimmed] at head
      cases Option.some.inj head
      cases opens
    | cons letter behind =>
      rw [trimmed] at head begins
      obtain ⟨tail, rfl⟩ := begins
      exact head

theorem ends_addConflict (alnum : Char → Bool) (isInsertOrIgnore isInsertOrReplace : Bool)
    (text : List Char) : Ends (addConflict alnum isInsertOrIgnore isInsertOrReplace text) text := by
  unfold addConflict upsert
  split_ifs
  · exact .inr ⟨"DO NOTHING".toList, by simp⟩
  · split
    · exact .inl rfl
    · dsimp only
      split_ifs
      · exact .inr ⟨_, by simp only [String.toList_append, append_assoc]; rfl⟩
      · exact .inl rfl
  · exact .inl rfl

end Conflicts

section Pieces

/-- What the code makes of a piece. -/
def written (alnum : Char → Bool) (count : ℕ) : Piece → List Char
  | .outside text => numbered count (rewrite alnum text)
  | .region text | .unclosed text => rewrite alnum text

/-- The text in which the code numbers placeholders. -/
def counted : Piece → List Char
  | .outside text => text
  | .region _ | .unclosed _ => []

theorem rewrite_region (alnum : Char → Bool) (run : List Char) {body : List Char}
    (opens : isQuote quote = true) (closed : closing quote (body ++ rest) = some (body, rest)) :
    rewrite alnum (run ++ quote :: (body ++ rest)) =
        rewrite alnum run ++ rewrite alnum (quote :: body) ++ rewrite alnum rest ∧
      closing quote (rewrite alnum body ++ rewrite alnum rest) =
        some (rewrite alnum body, rewrite alnum rest) := by
  have marked := isQuote_mark opens
  obtain ⟨_, _, front, rfl⟩ := closing_spec closed
  have whole : rewrite alnum (front ++ [quote] ++ rest) =
      rewrite alnum (front ++ [quote]) ++ rewrite alnum rest := by
    rw [append_assoc, singleton_append, rewrite_append marked, rewrite_append marked]
    simp
  have kept : closing quote (rewrite alnum (front ++ [quote] ++ rest)) = _ :=
    closing_rewrite marked _
  rw [whole, closed] at kept
  refine ⟨?_, kept⟩
  rw [rewrite_append marked, rewrite_cons marked, whole]
  simp

theorem scan_rewrite (alnum : Char → Bool) (count : ℕ) (text : List Char) :
    scan none count (rewrite alnum text) = (assemble (written alnum) count (lex isQuote text),
      count + ((lex isQuote text).flatMap counted).count '?') := by
  induction text using @lex_induction isQuote generalizing count with
  | free run free =>
    have scanned : scan none count (rewrite alnum run ++ []) = _ := scan_outside (free_rewrite free)
    rw [append_nil] at scanned
    rw [scanned, lex_free free, count_rewrite]
    simp [prepend, scan, assemble, written, counted]
  | unclosed run quote behind free opens closed =>
    rw [rewrite_append (isQuote_mark opens), scan_outside (free_rewrite free), scan, if_pos opens,
      scan_inside, closing_rewrite (isQuote_mark opens), lex_append free opens, closed,
      count_rewrite]
    simp [prepend, assemble, written, counted, rewrite_cons (isQuote_mark opens)]
  | region run quote body rest free opens closed ih =>
    obtain ⟨parts, kept⟩ := rewrite_region alnum run opens closed
    rw [parts, append_assoc, scan_outside (free_rewrite free), rewrite_cons (isQuote_mark opens),
      cons_append, scan, if_pos opens, scan_inside, kept, lex_append free opens, closed,
      count_rewrite]
    simp only [ih]
    simp [prepend, assemble, written, counted, bare, rewrite_cons (isQuote_mark opens),
      Nat.add_assoc]

theorem regions_rewrite {final : List Char} (text : List Char)
    (ends : Ends final (scan none count (rewrite alnum text)).1) :
    (regions isQuote text).map (rewrite alnum) <+: regions isQuote final := by
  induction text using @lex_induction isQuote generalizing count final with
  | free run free => simp [regions, lex_free free]
  | unclosed run quote behind free opens closed => simp [regions, lex_append free opens, closed]
  | region run quote body rest free opens closed ih =>
    obtain ⟨parts, kept⟩ := rewrite_region alnum run opens closed
    obtain ⟨_, follows, front, body'⟩ := closing_spec kept
    rw [parts, append_assoc, scan_outside (free_rewrite free), rewrite_cons (isQuote_mark opens),
      cons_append, scan, if_pos opens, scan_inside, kept, body'] at ends
    set scanned := scan none (count + (rewrite alnum run).count '?') (rewrite alnum rest)
    set before := numbered count (rewrite alnum run)
    have shape : (prepend before (prepend [quote] (prepend (front ++ [quote]) scanned))).1 =
        (before ++ quote :: front) ++ quote :: scanned.1 := by simp [prepend]
    rw [shape] at ends
    obtain ⟨behind, same, onward⟩ := ends.behind opens
    have closes := closing_append kept fun head =>
      follows (head_scan opens (onward.head opens head))
    have read : lex isQuote final =
        .outside before :: .region (rewrite alnum (quote :: body)) :: lex isQuote behind := by
      have split : final = before ++ quote :: (rewrite alnum body ++ behind) := by
        simp [same, body']
      rw [split, lex_append (free_numbered (free_rewrite free)) opens, closes,
        rewrite_cons (isQuote_mark opens)]
    rw [regions, regions, read, lex_append free opens, closed]
    simpa [regions] using ih onward

end Pieces

section Exactness

theorem hasClause_piece {word : String} (plain : Plain word) (text : List Char)
    (found : hasClause alnum word none text = true) :
    ∃ piece ∈ lex isQuote text, hasClause alnum word none piece.text = true := by
  induction text using @lex_induction isQuote with
  | free run free =>
    rw [lex_free free]
    exact ⟨_, mem_singleton_self _, found⟩
  | unclosed run quote behind free opens closed =>
    have marked := isQuote_mark opens
    rw [hasClause_append plain marked, Bool.or_eq_true] at found
    rw [lex_append free opens, closed]
    rcases found with found | found
    · exact ⟨_, mem_cons_self, found⟩
    · refine ⟨.unclosed (quote :: behind), by simp, ?_⟩
      rwa [Piece.text, hasClause_cons plain marked]
  | region run quote body rest free opens closed ih =>
    have marked := isQuote_mark opens
    obtain ⟨_, _, front, rfl⟩ := closing_spec closed
    rw [hasClause_append plain marked, append_assoc, singleton_append,
      hasClause_append plain marked, Bool.or_eq_true, Bool.or_eq_true] at found
    rw [lex_append free opens, closed]
    rcases found with found | found | found
    · exact ⟨_, mem_cons_self, found⟩
    · refine ⟨.region (quote :: (front ++ [quote])), by simp, ?_⟩
      rw [Piece.text, hasClause_cons plain marked, hasClause_append plain marked, found]
      rfl
    · obtain ⟨piece, member, found⟩ := ih found
      exact ⟨piece, mem_cons_of_mem _ (mem_cons_of_mem _ member), found⟩

theorem assemble_congr {first second : ℕ → Piece → List Char} {pieces : List Piece}
    (same : ∀ count, ∀ piece ∈ pieces, first count piece = second count piece) (count : ℕ) :
    assemble first count pieces = assemble second count pieces := by
  induction pieces generalizing count with
  | nil => rfl
  | cons piece pieces ih =>
    rw [assemble, assemble, same count piece mem_cons_self,
      ih fun count piece member => same count piece (mem_cons_of_mem _ member)]

theorem count_open (pieces : List Piece) :
    (pieces.flatMap counted).count '?' ≤ (pieces.flatMap bare).count '?' ∧
      ((pieces.flatMap counted).count '?' = (pieces.flatMap bare).count '?' ↔
        ∀ text, .unclosed text ∈ pieces → '?' ∉ text) := by
  induction pieces with
  | nil => simp
  | cons piece pieces ih =>
    obtain ⟨fewer, same⟩ := ih
    rw [flatMap_cons, flatMap_cons, count_append, count_append]
    cases piece with
    | outside text => exact ⟨Nat.add_le_add_left fewer _, by simp [counted, bare, same]⟩
    | region text => exact ⟨Nat.add_le_add_left fewer _, by simp [counted, bare, same]⟩
    | unclosed text =>
      have none : text.count '?' = 0 ↔ '?' ∉ text := count_eq_zero
      refine ⟨by simp [counted, bare]; omega, ?_⟩
      simp only [counted, bare, count_nil, mem_cons, Piece.unclosed.injEq, forall_eq_or_imp, ← none,
        ← same]
      omega

theorem spared_of_prefix {regions others : List (List Char)}
    (rewritten : regions.map (rewrite alnum) <+: others) (kept : regions <+: others) :
    ∀ text ∈ regions, ¬ HasInsertOr alnum text := by
  have same : regions.map (rewrite alnum) = regions :=
    (prefix_of_prefix_length_le rewritten kept (by simp)).eq_of_length (by simp)
  intro text member
  obtain ⟨ignores, replaces⟩ :=
    rewrite_eq_self.mp (map_inj_left.mp (same.trans (map_id _).symm) text member)
  rintro (found | found)
  · rw [ignores] at found
    cases found
  · rw [replaces] at found
    cases found

theorem rewrite_of_spared (spared : ¬ HasInsertOr alnum text) : rewrite alnum text = text := by
  obtain ⟨ignores, replaces⟩ := not_or.mp spared
  exact rewrite_eq_self.mpr ⟨eq_false_of_ne_true ignores, eq_false_of_ne_true replaces⟩

theorem written_of_spared {piece : Piece} (spared : Spared alnum piece) :
    written alnum count piece = converted alnum count piece := by
  cases piece with
  | outside text => rfl
  | region text => exact rewrite_of_spared spared
  | unclosed text => exact (numbered_eq_self (not_mem_rewrite (by decide) spared)).symm

theorem mem_regions : text ∈ regions isQuote rest ↔ .region text ∈ lex isQuote rest := by
  rw [regions, mem_filterMap]
  constructor
  · rintro ⟨piece, member, found⟩
    cases piece <;> cases found
    exact member
  · exact fun member => ⟨_, member, rfl⟩

theorem ends_text {statement converted : List Char}
    (spared : ∀ piece ∈ lex isQuote statement, Spared alnum piece) {final : List Char}
    (conflicts : addConflict alnum (hasClause alnum "IGNORE" none statement)
      (hasClause alnum "REPLACE" none statement) converted = final) :
    final = converted ∨ (∃ piece ∈ lex isQuote statement, HasInsertOr alnum (bare piece)) ∧
      ∃ conflict, final = trimEnd converted ++ " ON CONFLICT ".toList ++ conflict := by
  have placed {word : String} (plain : Plain word) (named : word = "IGNORE" ∨ word = "REPLACE")
      (found : hasClause alnum word none statement = true) :
      ∃ piece ∈ lex isQuote statement, HasInsertOr alnum (bare piece) := by
    obtain ⟨piece, member, found⟩ := hasClause_piece plain statement found
    have found : HasInsertOr alnum piece.text := by
      rcases named with rfl | rfl
      · exact .inl found
      · exact .inr found
    refine ⟨piece, member, ?_⟩
    cases piece with
    | outside text | unclosed text => exact found
    | region text => exact absurd found (spared _ member)
  subst conflicts
  rcases ends_addConflict alnum (hasClause alnum "IGNORE" none statement)
    (hasClause alnum "REPLACE" none statement) converted with same | conflict
  · exact .inl same
  · cases ignores : hasClause alnum "IGNORE" none statement with
    | true => exact .inr ⟨placed (by decide) (.inl rfl) ignores, ignores ▸ conflict⟩
    | false =>
      cases replaces : hasClause alnum "REPLACE" none statement with
      | true => exact .inr ⟨placed (by decide) (.inr rfl) replaces, ignores ▸ replaces ▸ conflict⟩
      | false => exact .inl rfl

/-- The conversion preserves a statement exactly where its pieces are spared. -/
theorem sqliteToPostgres_preserves_iff (alnum : Char → Bool) (query : String) :
    Preserves alnum query.toList
        ((sqliteToPostgres alnum query).1.toList, (sqliteToPostgres alnum query).2) ↔
      ∀ piece ∈ lex isQuote query.toList, Spared alnum piece := by
  have scanned := scan_rewrite alnum 0 query.toList
  have rewritten := regions_rewrite query.toList (ends_addConflict alnum
    (hasClause alnum "IGNORE" none query.toList) (hasClause alnum "REPLACE" none query.toList)
    (scan none 0 (rewrite alnum query.toList)).1)
  obtain ⟨_, placed⟩ := count_open (lex isQuote query.toList)
  rw [sqliteToPostgres, String.toList_ofList]
  rw [scanned] at rewritten ⊢
  dsimp only at rewritten ⊢
  rw [Nat.zero_add]
  constructor
  · intro preserves piece member
    cases piece with
    | outside text => trivial
    | region text =>
      exact spared_of_prefix rewritten preserves.regions text (mem_regions.mpr member)
    | unclosed text => exact placed.mp preserves.count text member
  · intro spared
    have same : (regions isQuote query.toList).map (rewrite alnum) = regions isQuote query.toList :=
      (map_congr_left fun text member =>
        rewrite_of_spared (spared _ (mem_regions.mp member))).trans (map_id _)
    have parts : assemble (written alnum) 0 (lex isQuote query.toList) =
        assemble (converted alnum) 0 (lex isQuote query.toList) :=
      assemble_congr (fun count piece member => written_of_spared (spared piece member)) 0
    refine ⟨placed.mpr fun text member => spared _ member, same ▸ rewritten, ?_⟩
    exact ends_text spared (parts ▸ rfl)

/-- A string that quotes a clause is changed, and its statement gets a conflict clause. -/
theorem sqliteToPostgres_quoted : ¬ Preserves (fun _ => false)
    "SELECT 'INSERT OR IGNORE INTO x' WHERE a = ?".toList
    ((sqliteToPostgres (fun _ => false) "SELECT 'INSERT OR IGNORE INTO x' WHERE a = ?").1.toList,
      (sqliteToPostgres (fun _ => false) "SELECT 'INSERT OR IGNORE INTO x' WHERE a = ?").2) :=
  fun preserves => absurd preserves.regions (by decide +kernel)

end Exactness

end Kestrel.Storage.Placeholder
