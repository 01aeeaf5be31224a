import Kestrel.Scheduler.Cron

/-!
# The documented fields

A field is documented as terms between commas, of plain numerals. The code reads numerals by `int`,
which takes more texts, and it strips each term.
-/

namespace Kestrel.Scheduler

open List Except

/-- A term without its step. -/
inductive Base where
  | every
  | value (numeral : List Char)
  | range (low high : List Char)

structure Term where
  base : Base
  step : Option (List Char)

def Base.text : Base → List Char
  | .every => ['*']
  | .value numeral => numeral
  | .range low high => low ++ '-' :: high

def Base.numerals : Base → List (List Char)
  | .every => []
  | .value numeral => [numeral]
  | .range low high => [low, high]

def Term.text (term : Term) : List Char := term.base.text ++ term.step.elim [] ('/' :: ·)

def Term.numerals (term : Term) : List (List Char) := term.base.numerals ++ term.step.toList

def plain (numeral : List Char) : Option ℤ :=
  if numeral ≠ [] ∧ numeral.all Char.isDigit = true then
    some (Nat.ofDigitChars 10 numeral 0)
  else none

def lenient (numeral : List Char) : Option ℤ := Numeral.int (.ofList numeral)

section Meaning

variable (read : List Char → Option ℤ) (lowest highest : ℤ)

def Base.ends (stepped : Bool) : Base → Option (ℤ × ℤ)
  | .every => some (lowest, highest)
  | .value numeral => do
    let value ← read numeral
    if lowest ≤ value ∧ value ≤ highest then some (value, if stepped then highest else value)
    else none
  | .range low high => do
    let low ← read low
    let high ← read high
    if lowest ≤ low ∧ low ≤ high ∧ high ≤ highest then some (low, high) else none

def Term.size (term : Term) : Option ℤ :=
  match term.step with
  | none => some 1
  | some numeral => do
    let step ← read numeral
    if 1 ≤ step then some step else none

def Term.Spans (unit : Bool) (term : Term) (first last step : ℤ) : Prop :=
  term.size read = some step ∧ term.base.ends read lowest highest
    (term.step.isSome ∧ (unit = true ∨ step ≠ 1)) = some (first, last)

/-- The numerals are read, the values are within bounds and the step is at least one. -/
def Term.IsValid (term : Term) : Prop :=
  ∃ first last step, term.Spans read lowest highest true first last step

def Term.Denotes (unit : Bool) (term : Term) (value : ℤ) : Prop :=
  ∃ first last step, term.Spans read lowest highest unit first last step ∧
    ∃ index : ℕ, value = first + index * step ∧ value ≤ last

end Meaning

/-- The separators stand where the code looks for them. -/
def Base.Cut : Base → Prop
  | .every => True
  | .value numeral => numeral ≠ ['*'] ∧ '-' ∉ numeral
  | .range low _ => '-' ∉ low

def Term.Cut (term : Term) : Prop := term.base.Cut ∧ '/' ∉ term.base.text

/-- `int` takes numerals of this length. -/
def Term.Short (term : Term) : Prop :=
  ∀ numeral ∈ term.numerals, numeral.length ≤ Numeral.maxDigits

section Contract

variable (field : String) (lowest highest : ℤ)

def Documented (terms : List Term) : Prop :=
  field.toList.splitOn ',' = terms.map Term.text ∧
    ∀ term ∈ terms, term.IsValid plain lowest highest

/-- What is documented of a field and the values that it allows. -/
structure Parses (result : Except String (List ℤ)) : Prop where
  accepted : (∃ values, result = .ok values) ↔ ∃ terms, Documented field lowest highest terms
  values : ∀ values terms, result = .ok values → Documented field lowest highest terms →
    ∀ value, value ∈ values ↔ ∃ term ∈ terms, term.Denotes plain lowest highest true value

/-- The numerals of a documented field are not too long, and what its terms stand for they stand for
without the steps of one. A field that is not documented has a part that is no term for `int` either. -/
structure Regular : Prop where
  short : ∀ terms, Documented field lowest highest terms →
    ∀ term ∈ terms, term.Short
  covered : ∀ terms, Documented field lowest highest terms →
    ∀ term ∈ terms, ∀ value, term.Denotes plain lowest highest true value →
      ∃ other ∈ terms, other.Denotes plain lowest highest false value
  strict : (∀ terms, ¬ Documented field lowest highest terms) →
    ∃ part ∈ field.toList.splitOn ',', ∀ term : Term, term.Cut →
      Text.strip (.ofList part) = .ofList term.text → ¬ term.IsValid lenient lowest highest

end Contract

variable {read other : List Char → Option ℤ} {lowest highest first last step value : ℤ}
  {base : Base} {term : Term} {field : String} {values : List ℤ} {part numeral : List Char}
  {unit stepped : Bool}

section Reading

theorem exists_base (part : List Char) : ∃ base : Base, base.Cut ∧ base.text = part := by
  by_cases star : part = ['*']
  · exact ⟨.every, trivial, star.symm⟩
  · by_cases dash : '-' ∈ part
    · obtain ⟨low, high, rfl, absent⟩ := eq_append_cons_of_mem dash
      exact ⟨.range low high, absent, rfl⟩
    · exact ⟨.value part, ⟨star, dash⟩, rfl⟩

theorem exists_term (part : List Char) : ∃ term : Term, term.Cut ∧ term.text = part := by
  by_cases slash : '/' ∈ part
  · obtain ⟨front, numeral, rfl, absent⟩ := eq_append_cons_of_mem slash
    obtain ⟨base, cut, rfl⟩ := exists_base front
    exact ⟨⟨base, some numeral⟩, ⟨cut, absent⟩, rfl⟩
  · obtain ⟨base, cut, rfl⟩ := exists_base part
    exact ⟨⟨base, none⟩, ⟨cut, slash⟩, append_nil _⟩

theorem cut_append {separator : Char} {front back : List Char} (absent : separator ∉ front) :
    cut separator (.ofList (front ++ separator :: back)) = (.ofList front, .ofList back) := by
  have before : ∀ letter ∈ front, (decide (letter ≠ separator)) = true := by
    intro letter member
    exact decide_eq_true fun same => absent (same ▸ member)
  unfold cut
  rw [String.toList_ofList, takeWhile_append_of_pos before, dropWhile_append_of_pos before]
  simp

theorem ofList_eq {text : List Char} {other : String} :
    String.ofList text = other ↔ text = other.toList := by
  constructor
  · rintro rfl
    exact String.toList_ofList.symm
  · rintro rfl
    exact String.ofList_toList

theorem parseTerm_text (cut : base.Cut) :
    parseTerm field lowest highest step (.ofList base.text) = .ok values ↔
      ∃ first last, base.ends lenient lowest highest (1 < step) = some (first, last) ∧
        values = progression first last step := by
  cases base with
  | every => simp [parseTerm, Base.text, Base.ends, eq_comm]
  | value numeral =>
    unfold parseTerm
    simp only [Base.text, Base.ends, lenient, ofList_eq, String.toList_ofList]
    rw [if_neg (show numeral ≠ "*".toList from cut.1), if_neg cut.2]
    cases Numeral.int (.ofList numeral) with
    | none => simp
    | some number =>
      dsimp only [bind, Option.bind]
      by_cases within : lowest ≤ number ∧ number ≤ highest
      · rw [if_neg (by omega), if_pos within]
        by_cases goes : 1 < step
        · simp [goes, eq_comm]
        · simp [goes, eq_comm, progression]
      · rw [if_pos (by omega), if_neg within]
        simp
  | range low high =>
    have distinct : low ++ '-' :: high ≠ "*".toList := by
      intro same
      have member : '-' ∈ "*".toList := same ▸ by simp
      simp at member
    unfold parseTerm
    simp only [Base.text, Base.ends, lenient, ofList_eq, String.toList_ofList, cut_append cut]
    rw [if_neg distinct, if_pos (by simp)]
    cases Numeral.int (.ofList low) with
    | none => simp
    | some low =>
      cases Numeral.int (.ofList high) with
      | none => simp
      | some high =>
        dsimp only [bind, Option.bind]
        by_cases within : lowest ≤ low ∧ low ≤ high ∧ high ≤ highest
        · rw [if_neg (by omega), if_pos within]
          simp [eq_comm]
        · rw [if_pos (by omega), if_neg within]
          simp

theorem text_eq_nil : term.text = [] ↔ term = ⟨.value [], none⟩ := by
  obtain ⟨base, step⟩ := term
  cases base <;> cases step <;> simp [Term.text, Base.text]

theorem parsePart_text (cut : term.Cut) (stripped : Text.strip (.ofList part) = .ofList term.text) :
    parsePart field lowest highest (.ofList part) = .ok values ↔
      ∃ first last step, term.Spans lenient lowest highest false first last step ∧
        values = progression first last step := by
  unfold parsePart
  rw [stripped]
  dsimp only
  by_cases empty : term.text = []
  · have unread : lenient [] = none := by decide
    rw [if_pos (by rw [empty]), text_eq_nil.mp empty]
    simp [Term.Spans, Base.ends, unread]
  rw [if_neg (show String.ofList term.text ≠ "" from fun same => empty (ofList_eq.mp same))]
  obtain ⟨base, size⟩ := term
  obtain ⟨cut, slash⟩ := cut
  cases size with
  | none =>
    simp only [Term.text, Option.elim, append_nil, String.toList_ofList]
    rw [if_neg slash, parseTerm_text cut]
    simp [Term.size, Term.Spans]
  | some numeral =>
    simp only [Term.text, Option.elim, String.toList_ofList, cut_append slash]
    rw [if_pos (by simp)]
    cases read : lenient numeral with
    | none =>
      rw [show Numeral.int (.ofList numeral) = none from read]
      simp [Term.size, Term.Spans, read]
    | some step =>
      rw [show Numeral.int (.ofList numeral) = some step from read]
      dsimp only
      by_cases positive : 1 ≤ step
      · have goes : 1 < step ↔ step ≠ 1 := by omega
        rw [if_neg (by omega), parseTerm_text cut]
        simp [Term.size, Term.Spans, read, positive, goes]
      · rw [if_pos (by omega)]
        simp [Term.size, Term.Spans, read, positive]

end Reading

section Agreement

theorem ends_value :
    (Base.value numeral).ends read lowest highest stepped = some (first, last) ↔
      read numeral = some first ∧ (lowest ≤ first ∧ first ≤ highest) ∧
        last = if stepped then highest else first := by
  simp only [Base.ends, Option.bind_eq_bind, Option.bind_eq_some_iff,
    Option.ite_none_right_eq_some, Option.some.injEq, Prod.mk.injEq]
  constructor
  · rintro ⟨value, known, bounds, rfl, rfl⟩
    exact ⟨known, bounds, rfl⟩
  · rintro ⟨known, bounds, rfl⟩
    exact ⟨first, known, bounds, rfl, rfl⟩

theorem numeral_read (valid : term.IsValid read lowest highest) :
    ∀ numeral ∈ term.numerals, ∃ value, read numeral = some value := by
  obtain ⟨base, size⟩ := term
  obtain ⟨first, last, step, size', ends⟩ := valid
  have base_read : ∀ numeral ∈ base.numerals, ∃ value, read numeral = some value := by
    cases base with
    | every => exact nofun
    | value numeral => exact forall_mem_singleton.mpr ⟨first, (ends_value.mp ends).1⟩
    | range low high =>
      obtain ⟨value, known, rest⟩ := Option.bind_eq_some_iff.mp ends
      obtain ⟨value', known', _⟩ := Option.bind_eq_some_iff.mp rest
      exact forall_mem_cons.mpr ⟨⟨value, known⟩, forall_mem_singleton.mpr ⟨value', known'⟩⟩
  refine forall_mem_append.mpr ⟨base_read, ?_⟩
  cases size with
  | none => exact nofun
  | some numeral =>
    obtain ⟨value, known, _⟩ := Option.bind_eq_some_iff.mp size'
    exact forall_mem_singleton.mpr ⟨value, known⟩

theorem step_pos (spans : term.Spans read lowest highest unit first last step) : 0 < step := by
  obtain ⟨base, size⟩ := term
  cases size with
  | none =>
    cases spans.1
    decide
  | some numeral =>
    obtain ⟨value, _, positive⟩ := Option.bind_eq_some_iff.mp spans.1
    split_ifs at positive with bound
    cases positive
    exact bound

theorem spans_congr (same : ∀ numeral ∈ term.numerals, read numeral = other numeral) :
    term.Spans read lowest highest unit first last step ↔
      term.Spans other lowest highest unit first last step := by
  obtain ⟨base, size⟩ := term
  obtain ⟨onBase, onStep⟩ := forall_mem_append.mp same
  have ends (stepped : Bool) :
      base.ends read lowest highest stepped = base.ends other lowest highest stepped := by
    cases base <;> simp_all [Base.ends, Base.numerals]
  have sizes : Term.size read ⟨base, size⟩ = Term.size other ⟨base, size⟩ := by
    cases size with
    | none => rfl
    | some numeral => simp only [Term.size, onStep numeral (by simp)]
  simp only [Term.Spans, sizes, ends]

theorem ends_widen {wider : Bool}
    (ends : base.ends read lowest highest stepped = some (first, last)) : ∃ further,
      base.ends read lowest highest wider = some (first, further) ∧
        ((stepped = true → wider = true) → last ≤ further) := by
  cases base with
  | every | range low high => exact ⟨last, ends, fun _ => le_refl _⟩
  | value numeral =>
    obtain ⟨known, bounds, rfl⟩ := ends_value.mp ends
    refine ⟨_, ends_value.mpr ⟨known, bounds, rfl⟩, fun wide => ?_⟩
    cases stepped <;> cases wider <;> simp_all

theorem spans_widen {wider : Bool} (spans : term.Spans read lowest highest unit first last step) :
    ∃ further, term.Spans read lowest highest wider first further step ∧
      ((unit = true → wider = true) → last ≤ further) := by
  obtain ⟨further, ends, within⟩ := ends_widen spans.2
  refine ⟨further, ⟨spans.1, ends⟩, fun wide => within ?_⟩
  cases unit <;> cases wider <;> simp_all

theorem digits_of_plain (known : plain numeral = some value) :
    numeral ≠ [] ∧ ∀ letter ∈ numeral, letter.isDigit = true := by
  unfold plain at known
  split_ifs at known with digits
  exact digits.imp_right all_eq_true.mp

theorem lenient_of_plain (known : plain numeral = some value) :
    lenient numeral = if numeral.length ≤ Numeral.maxDigits then some value else none := by
  obtain ⟨nonempty, digits⟩ := digits_of_plain known
  rw [plain, if_pos ⟨nonempty, all_eq_true.mpr digits⟩] at known
  rw [lenient, Numeral.int_of_isDigit nonempty digits, known]

theorem digits_of_valid (valid : term.IsValid plain lowest highest) :
    ∀ numeral ∈ term.numerals, ∀ letter ∈ numeral, letter.isDigit = true :=
  fun numeral member => (digits_of_plain (numeral_read valid numeral member).choose_spec).2

theorem cut_of_valid (valid : term.IsValid plain lowest highest) : term.Cut := by
  have free {numeral : List Char} (member : numeral ∈ term.numerals) {separator : Char}
      (other : separator.isDigit = false) : separator ∉ numeral := by
    intro separates
    rw [digits_of_valid valid numeral member separator separates] at other
    cases other
  obtain ⟨base, size⟩ := term
  cases base with
  | every => exact ⟨trivial, by simp [Base.text]⟩
  | value numeral =>
    have free := @free numeral (by simp [Term.numerals, Base.numerals])
    refine ⟨⟨?_, free (by decide)⟩, free (by decide)⟩
    rintro rfl
    exact free (by decide) mem_cons_self
  | range low high =>
    have inLow := @free low (by simp [Term.numerals, Base.numerals])
    have inHigh := @free high (by simp [Term.numerals, Base.numerals]) '/' (by decide)
    exact ⟨inLow (by decide), by simp [Base.text, inLow (show '/'.isDigit = false by decide), inHigh]⟩

theorem mem_text {letter : Char} (member : letter ∈ term.text) :
    (∃ numeral ∈ term.numerals, letter ∈ numeral) ∨ letter ∈ "*-/".toList := by
  obtain ⟨base, step⟩ := term
  cases base <;> cases step <;>
    simp [Term.text, Base.text, Term.numerals, Base.numerals] at member ⊢ <;> tauto

theorem strip_of_valid (valid : term.IsValid plain lowest highest) :
    Text.strip (.ofList term.text) = .ofList term.text := by
  have spaceless : ∀ letter ∈ term.text, Text.isSpace letter = false := by
    have others : "*-/".toList.all (!Text.isSpace ·) = true := by decide
    intro letter member
    rcases mem_text member with ⟨numeral, member, digit⟩ | separator
    · exact Numeral.isSpace_of_isDigit (digits_of_valid valid numeral member letter digit)
    · simpa using all_eq_true.mp others letter separator
  have trimmed : Numeral.trim Text.isSpace term.text = term.text := Numeral.trim_eq_self spaceless
  unfold Text.strip
  rw [String.toList_ofList]
  exact congrArg String.ofList trimmed

end Agreement

section Exactness

theorem parsePart_of_valid (valid : term.IsValid plain lowest highest) :
    parsePart field lowest highest (.ofList term.text) = .ok values ↔ term.Short ∧
      ∃ first last step, term.Spans plain lowest highest false first last step ∧
        values = progression first last step := by
  rw [parsePart_text (cut_of_valid valid) (strip_of_valid valid)]
  have known : ∀ numeral ∈ term.numerals, ∃ value,
      plain numeral = some value ∧ lenient numeral = _ := fun numeral member =>
    (numeral_read valid numeral member).imp fun _ known => ⟨known, lenient_of_plain known⟩
  by_cases short : term.Short
  · have same : ∀ numeral ∈ term.numerals, lenient numeral = plain numeral := by
      intro numeral member
      obtain ⟨value, known, read⟩ := known numeral member
      rw [known, read, if_pos (short numeral member)]
    simp only [spans_congr same, short, true_and]
  · refine iff_of_false ?_ fun ⟨impossible, _⟩ => short impossible
    rintro ⟨first, last, step, spans, _⟩
    refine short fun numeral member => ?_
    obtain ⟨value, _, read⟩ := known numeral member
    obtain ⟨further, spans, _⟩ := spans_widen spans
    obtain ⟨_, found⟩ := numeral_read ⟨first, further, step, spans⟩ numeral member
    by_contra long
    rw [read, if_neg long] at found
    cases found

theorem parseField_accepts : (∃ values, parseField field lowest highest = .ok values) ↔
    ∀ part ∈ field.toList.splitOn ',',
      ∃ values, parsePart field lowest highest (.ofList part) = .ok values := by
  unfold parseField
  constructor
  · rintro ⟨values, parsed⟩
    obtain ⟨lists, mapped, _⟩ := bind_eq_ok.mp parsed
    exact exists_of_mapM_eq_ok mapped
  · intro parts
    obtain ⟨lists, mapped⟩ := exists_mapM_eq_ok parts
    exact ⟨lists.flatten, by rw [mapped]; rfl⟩

theorem mem_parseField (parsed : parseField field lowest highest = .ok values) :
    value ∈ values ↔ ∃ part ∈ field.toList.splitOn ',', ∃ found,
      parsePart field lowest highest (.ofList part) = .ok found ∧ value ∈ found := by
  obtain ⟨lists, mapped, flat⟩ := bind_eq_ok.mp parsed
  cases flat
  have related := mapM_eq_ok.mp mapped
  clear mapped parsed
  generalize field.toList.splitOn ',' = parts at related
  induction related with
  | nil => simp
  | cons first _ ih => simp [ih, first]

theorem parsed_of_documented {terms : List Term} (documented : Documented field lowest highest terms)
    (parsed : parseField field lowest highest = .ok values) :
    (∀ term ∈ terms, term.Short) ∧ ∀ value, value ∈ values ↔
      ∃ term ∈ terms, term.Denotes plain lowest highest false value := by
  obtain ⟨split, valid⟩ := documented
  have accepted := parseField_accepts.mp ⟨values, parsed⟩
  rw [split, forall_mem_map] at accepted
  refine ⟨fun term member => ?_, fun value => ?_⟩
  · obtain ⟨found, parsed⟩ := accepted term member
    exact ((parsePart_of_valid (valid term member)).mp parsed).1
  · rw [mem_parseField parsed, split]
    simp only [mem_map, exists_exists_and_eq_and]
    refine exists_congr fun term => and_congr_right fun member => ?_
    constructor
    · rintro ⟨found, parsed, inside⟩
      obtain ⟨_, first, last, step, spans, rfl⟩ := (parsePart_of_valid (valid term member)).mp parsed
      exact ⟨first, last, step, spans, (mem_progression (step_pos spans)).mp inside⟩
    · rintro ⟨first, last, step, spans, inside⟩
      obtain ⟨found, parsed⟩ := accepted term member
      have short := ((parsePart_of_valid (valid term member)).mp parsed).1
      exact ⟨_, (parsePart_of_valid (valid term member)).mpr ⟨short, first, last, step, spans, rfl⟩,
        (mem_progression (step_pos spans)).mpr inside⟩

/-- A field is parsed as documented exactly where it is regular. -/
theorem parseField_parses_iff (field : String) (lowest highest : ℤ) :
    Parses field lowest highest (parseField field lowest highest) ↔
      Regular field lowest highest := by
  constructor
  · intro parses
    refine ⟨?_, ?_, ?_⟩
    · intro terms documented term member
      obtain ⟨values, parsed⟩ := parses.accepted.mpr ⟨terms, documented⟩
      exact (parsed_of_documented documented parsed).1 term member
    · intro terms documented term member value denotes
      obtain ⟨values, parsed⟩ := parses.accepted.mpr ⟨terms, documented⟩
      rw [← (parsed_of_documented documented parsed).2,
        parses.values values terms parsed documented]
      exact ⟨term, member, denotes⟩
    · intro undocumented
      by_contra none
      push Not at none
      have accepted : ∃ values, parseField field lowest highest = .ok values := by
        refine parseField_accepts.mpr fun part member => ?_
        obtain ⟨term, cut, stripped, first, last, step, spans⟩ := none part member
        obtain ⟨last, spans, _⟩ := spans_widen spans
        exact ⟨_, (parsePart_text cut stripped).mpr ⟨first, last, step, spans, rfl⟩⟩
      obtain ⟨terms, documented⟩ := parses.accepted.mp accepted
      exact undocumented terms documented
  · intro regular
    refine ⟨⟨fun accepted => ?_, ?_⟩, ?_⟩
    · by_contra none
      obtain ⟨part, member, invalid⟩ := regular.strict (not_exists.mp none)
      obtain ⟨values, parsed⟩ := parseField_accepts.mp accepted part member
      obtain ⟨term, cut, text⟩ := exists_term (Text.strip (.ofList part)).toList
      have stripped : Text.strip (.ofList part) = .ofList term.text := by
        rw [text, String.ofList_toList]
      obtain ⟨first, last, step, spans, _⟩ := (parsePart_text cut stripped).mp parsed
      obtain ⟨further, spans, _⟩ := spans_widen spans
      exact invalid term cut stripped ⟨first, further, step, spans⟩
    · rintro ⟨terms, documented⟩
      rw [parseField_accepts, documented.1, forall_mem_map]
      intro term member
      obtain ⟨first, last, step, spans⟩ := documented.2 term member
      obtain ⟨last, spans, _⟩ := spans_widen spans
      exact ⟨_, (parsePart_of_valid (documented.2 term member)).mpr
        ⟨regular.short terms documented term member, first, last, step, spans, rfl⟩⟩
    · intro values terms parsed documented value
      rw [(parsed_of_documented documented parsed).2]
      constructor
      · rintro ⟨term, member, first, last, step, spans, index, same, within⟩
        obtain ⟨further, spans, wider⟩ := spans_widen spans
        exact ⟨term, member, first, further, step, spans, index, same,
          within.trans (wider (by simp))⟩
      · rintro ⟨term, member, denotes⟩
        exact regular.covered terms documented term member value denotes

/-- A single value with a step of one is documented to go on to the maximum. -/
theorem parseField_unit : ¬ Parses "5/1" 0 59 (parseField "5/1" 0 59) := by
  intro parses
  let term : Term := ⟨.value ['5'], some ['1']⟩
  have spans : term.Spans plain 0 59 true 5 59 1 := ⟨by decide +kernel, by decide +kernel⟩
  have documented : Documented "5/1" 0 59 [term] :=
    ⟨by decide +kernel, forall_mem_singleton.mpr ⟨5, 59, 1, spans⟩⟩
  have parsed : parseField "5/1" 0 59 = .ok [5] := by decide +kernel
  have member : (6 : ℤ) ∈ [5] := (parses.values _ _ parsed documented 6).mpr
    ⟨term, mem_singleton_self _, 5, 59, 1, spans, 1, by decide, by decide⟩
  simp at member

end Exactness

end Kestrel.Scheduler
